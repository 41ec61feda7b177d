/-
Rounding a quotient of natural numbers to the nearest whole number.

A quotient that lies half way goes to its even neighbour.
-/

namespace PullStreams.Number

/-- `num / den` to the nearest whole number; a half goes to the even neighbour. -/
def roundDiv (num den : Nat) : Nat :=
  let below := num / den
  let twice := 2 * (num % den)
  if twice < den then below
  else if den < twice then below + 1
  else if below % 2 = 0 then below else below + 1

end PullStreams.Number
