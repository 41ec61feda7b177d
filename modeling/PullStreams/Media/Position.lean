/-
Where a start begins, and in which format its time is given.

Only the default time format is accepted.  A format is otherwise named by a
128-bit identifier; the identifier of zeros stands for the default format too.
-/
import PullStreams.Time.Duration

namespace PullStreams

/-- The format of a start position. -/
inductive TimeFormat where
  | default
  | custom (identifier : Nat)
  deriving DecidableEq, Repr

namespace TimeFormat

def isDefault : TimeFormat → Bool
  | default => true
  | custom identifier => identifier = 0

/-- The value of a hexadecimal digit. -/
def hexDigit? (c : Char) : Option Nat :=
  if '0' ≤ c ∧ c ≤ '9' then some (c.toNat - '0'.toNat)
  else if 'a' ≤ c ∧ c ≤ 'f' then some (c.toNat - 'a'.toNat + 10)
  else if 'A' ≤ c ∧ c ≤ 'F' then some (c.toNat - 'A'.toNat + 10)
  else none

/-- The format of an identifier written in 32 hexadecimal digits, hyphens between them or not. -/
def ofIdentifier? (text : String) : Option TimeFormat := do
  let digits := text.toList.filter (· ≠ '-')
  if digits.length ≠ 32 then none
  else
    let values ← digits.mapM hexDigit?
    some (custom (values.foldl (fun total digit => 16 * total + digit) 0))

end TimeFormat

/-- Where a start begins. -/
inductive StartPosition where
  /-- Wherever the source is. -/
  | current
  | at (time : Duration)
  deriving DecidableEq, Repr

namespace StartPosition

def isSet : StartPosition → Bool
  | current => false
  | .at _ => true

def time? : StartPosition → Option Duration
  | current => none
  | .at time => some time

end StartPosition
end PullStreams
