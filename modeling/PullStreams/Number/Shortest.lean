/-
The shortest decimal that reads back as a given binary number.

A binary number stands for all reals that round to it: those between the middles
to its two neighbours, the middles themselves when its mantissa is even.
`shortest?` looks for a decimal in that interval, first with one digit, then with
two, and so on.  On each grid of decimals only the two neighbours of the value
need a look: if any point of the grid lies in the interval, so does one of them.
Of two hits the nearer wins, and the upper one when they are equally near.

`Single.text` writes the result without an exponent and without a fraction of
zeros, as status lines do.
-/
import PullStreams.Number.Power
import PullStreams.Number.Single

namespace PullStreams.Number

/-- The reals that round to a binary number, as integers in quarters of its last place:
`value`, the two ends, and whether the ends belong to it. -/
structure RoundingInterval where
  low : Nat
  value : Nat
  high : Nat
  closed : Bool
  /-- A quarter of the last place is `2 ^ unit`. -/
  unit : Int
  deriving Repr

namespace RoundingInterval

/-- Whether `digits * 10 ^ power` lies in the interval. -/
def contains (r : RoundingInterval) (digits : Nat) (power : Int) : Bool :=
  let lhs := digits * (if power < 0 then 1 else tenTo power.toNat) *
    (if r.unit < 0 then twoTo (-r.unit).toNat else 1)
  let scale := (if power < 0 then tenTo (-power).toNat else 1) *
    (if r.unit < 0 then 1 else twoTo r.unit.toNat)
  if r.closed then r.low * scale ≤ lhs && lhs ≤ r.high * scale
  else r.low * scale < lhs && lhs < r.high * scale

/-- The value divided by `10 ^ power`, as an exact quotient. -/
def quotient (r : RoundingInterval) (power : Int) : Nat × Nat :=
  (r.value * (if r.unit < 0 then 1 else twoTo r.unit.toNat) *
      (if power < 0 then tenTo (-power).toNat else 1),
    (if r.unit < 0 then twoTo (-r.unit).toNat else 1) *
      (if power < 0 then 1 else tenTo power.toNat))

/-- The hit on the grid of multiples of `10 ^ power`, if there is one. -/
def onGrid? (r : RoundingInterval) (power : Int) : Option Nat :=
  let (num, den) := r.quotient power
  let below := num / den
  let rest := num % den
  match r.contains below power, r.contains (below + 1) power with
  | true, true => some (if 2 * rest < den then below else below + 1)
  | true, false => some below
  | false, true => some (below + 1)
  | false, false => none

/-- The largest `power` with `10 ^ power` not above the value, searched downwards from `power`. -/
def leadingPower (r : RoundingInterval) : Nat → Int → Int
  | 0, power => power
  | fuel + 1, power =>
    let (num, den) := r.quotient power
    if den ≤ num then power else leadingPower r fuel (power - 1)

/-- The first hit on the grids from `power` down, `fuel` grids at most. -/
def firstHit (r : RoundingInterval) : Nat → Int → Nat × Int
  | 0, power => (r.quotient power |> fun (num, den) => num / den, power)
  | fuel + 1, power =>
    match r.onGrid? power with
    | some digits => (digits, power)
    | none => firstHit r fuel (power - 1)

end RoundingInterval

/-- `digits * 10 ^ power` with the trailing zeros of `digits` moved into the power. -/
def dropZeros : Nat → Nat → Int → Nat × Int
  | 0, digits, power => (digits, power)
  | fuel + 1, digits, power =>
    if digits ≠ 0 ∧ digits % 10 = 0 then dropZeros fuel (digits / 10) (power + 1)
    else (digits, power)

/-- `digits * 10 ^ power` without an exponent. -/
def positional (digits : Nat) (power : Int) : String :=
  if 0 ≤ power then toString (digits * tenTo power.toNat)
  else
    let places := (-power).toNat
    let below := toString (digits % tenTo places)
    toString (digits / tenTo places) ++ "." ++
      String.ofList (List.replicate (places - below.length) '0') ++ below

namespace Single

/-- The reals that round to a finite, non-zero number.  Below a power of two the neighbours
are twice as dense. -/
def interval (x : Single) : RoundingInterval :=
  let (mantissa, exponent) := x.decode
  let atPower := mantissa = 0x800000 ∧ -149 < exponent
  { low := 4 * mantissa - (if atPower then 1 else 2)
    value := 4 * mantissa
    high := 4 * mantissa + 2
    closed := mantissa % 2 = 0
    unit := exponent - 2 }

/-- The shortest decimal that reads back as the number, positional, without a sign. -/
def magnitudeText (x : Single) : String :=
  if x.isZero then "0"
  else
    let r := x.interval
    let (digits, power) := r.firstHit 9 (r.leadingPower 90 39)
    let (digits, power) := dropZeros 10 digits power
    positional digits power

/-- The number as status lines show it. -/
def text (x : Single) : String :=
  if x.isNaN then "NaN"
  else (if x.isSigned then "-" else "") ++ (if x.isInfinite then "inf" else x.magnitudeText)

end Single
end PullStreams.Number
