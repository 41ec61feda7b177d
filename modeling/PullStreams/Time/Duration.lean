/-
Lengths of time in whole nanoseconds.

`Duration.text` is the form that log lines use: the largest of the units s, ms,
µs and ns of which there is at least one, and a decimal fraction without trailing
zeros.
-/
import PullStreams.Number.Double

namespace PullStreams

/-- A length of time, in nanoseconds. -/
structure Duration where
  nanoseconds : Nat
  deriving DecidableEq, Repr, Inhabited

namespace Duration

def nanosPerSecond : Nat := 1000000000

def zero : Duration := ⟨0⟩

/-- `seconds` and `nanos` together. -/
def ofParts (seconds nanos : Nat) : Duration :=
  ⟨seconds * nanosPerSecond + nanos⟩

/-- The whole seconds. -/
def seconds (d : Duration) : Nat := d.nanoseconds / nanosPerSecond

/-- The nanoseconds past the last whole second. -/
def subsecond (d : Duration) : Nat := d.nanoseconds % nanosPerSecond

instance : Add Duration := ⟨fun a b => ⟨a.nanoseconds + b.nanoseconds⟩⟩

/-- A number of seconds, rounded to the nearest nanosecond. -/
def ofSeconds (x : Number.Double) : Duration := ⟨x.toUnits nanosPerSecond⟩

/-- The number of seconds: both parts are rounded first, then their sum. -/
def toSeconds (d : Duration) : Number.Double :=
  .add (.ofNat d.seconds) (.div (.ofNat d.subsecond) (.ofNat nanosPerSecond))

/-- The digits after the point for `rest / 10 ^ places`, without trailing zeros. -/
def fractionDigits : Nat → Nat → String
  | 0, _ => ""
  | places + 1, rest =>
    if rest = 0 then ""
    else toString (rest / Number.tenTo places) ++ fractionDigits places (rest % Number.tenTo places)

/-- `count / 10 ^ places` units. -/
def inUnit (count places : Nat) (unit : String) : String :=
  let whole := toString (count / Number.tenTo places)
  let fraction := fractionDigits places (count % Number.tenTo places)
  whole ++ (if fraction.isEmpty then "" else "." ++ fraction) ++ unit

def text (d : Duration) : String :=
  let n := d.nanoseconds
  if nanosPerSecond ≤ n then inUnit n 9 "s"
  else if 1000000 ≤ n then inUnit n 6 "ms"
  else if 1000 ≤ n then inUnit n 3 "µs"
  else inUnit n 0 "ns"

/-- A duration that may be unknown. -/
def optionText : Option Duration → String
  | some d => "Some(" ++ d.text ++ ")"
  | none => "None"

end Duration
end PullStreams
