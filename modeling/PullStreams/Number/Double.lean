/-
Non-negative numbers of the 64-bit binary format, and exact arithmetic that
rounds into it.

A value is `mantissa * 2 ^ exponent` with a mantissa below `2 ^ 53`.  Only what
clocks need is here: whole numbers, quotients and sums, the whole part and the
part below one, and the nearest count of a small unit.  Every operation is done
exactly on natural numbers and rounded once, to the nearest value, a half to the
even mantissa.  The values that clocks meet are far from both ends of the
exponent range, so no overflow and no gradual underflow arises.
-/
import PullStreams.Number.Power
import PullStreams.Number.Rounding

namespace PullStreams.Number

/-- The value `mantissa * 2 ^ exponent`. -/
structure Double where
  mantissa : Nat
  exponent : Int
  deriving DecidableEq, Repr

namespace Double

/-- How many binary digits a mantissa has. -/
def precision : Nat := 53

def zero : Double := ⟨0, 0⟩

/-- The number of binary digits of `n`. -/
def bitLength (n : Nat) : Nat :=
  if n = 0 then 0 else n.log2 + 1

/-- `num / den` as a pair of natural numbers scaled by a power of two. -/
def scaled (num den : Nat) (exponent : Int) : Nat × Nat :=
  if exponent < 0 then (num * twoTo (-exponent).toNat, den) else (num, den * twoTo exponent.toNat)

/-- Puts a mantissa that has grown to `2 ^ 53` back into range. -/
def normalized (mantissa : Nat) (exponent : Int) : Double :=
  if mantissa < twoTo precision then ⟨mantissa, exponent⟩ else ⟨mantissa / 2, exponent + 1⟩

/-- The double nearest to `num / den`. -/
def ofRatio (num den : Nat) : Double :=
  if num = 0 ∨ den = 0 then zero
  else
    let guess : Int := (bitLength num : Int) - bitLength den - precision
    let (n, d) := scaled num den guess
    let exponent := if n / d < twoTo precision then guess else guess + 1
    let (n, d) := scaled num den exponent
    normalized (roundDiv n d) exponent

/-- The double nearest to a whole number. -/
def ofNat (n : Nat) : Double := ofRatio n 1

/-- The value as an exact quotient. -/
def toRatio (x : Double) : Nat × Nat :=
  if x.exponent < 0 then (x.mantissa, twoTo (-x.exponent).toNat)
  else (x.mantissa * twoTo x.exponent.toNat, 1)

/-- The quotient of two doubles, rounded. -/
def div (x y : Double) : Double :=
  let (a, b) := x.toRatio
  let (c, d) := y.toRatio
  ofRatio (a * d) (b * c)

/-- The sum of two doubles, rounded. -/
def add (x y : Double) : Double :=
  let (a, b) := x.toRatio
  let (c, d) := y.toRatio
  ofRatio (a * d + c * b) (b * d)

/-- The product of two doubles, rounded. -/
def mul (x y : Double) : Double :=
  let (a, b) := x.toRatio
  let (c, d) := y.toRatio
  ofRatio (a * c) (b * d)

/-- The whole part. -/
def whole (x : Double) : Nat :=
  let (a, b) := x.toRatio
  a / b

/-- What is left when the whole part is taken away; it needs no rounding. -/
def fraction (x : Double) : Double :=
  let (a, b) := x.toRatio
  ofRatio (a % b) b

/-- The nearest whole number of units when `perOne` of them make one. -/
def toUnits (x : Double) (perOne : Nat) : Nat :=
  let (a, b) := x.toRatio
  roundDiv (a * perOne) b

/-- The value in its 64-bit interchange form. -/
def toBits (x : Double) : Nat :=
  if x.mantissa = 0 then 0
  else
    let shift := precision - bitLength x.mantissa
    let mantissa := x.mantissa * twoTo shift
    let biased := x.exponent - shift + 1075
    biased.toNat * twoTo 52 + (mantissa - twoTo 52)

end Double
end PullStreams.Number
