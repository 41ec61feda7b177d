/-
Counts as arguments of the command line.

A count is written in decimal digits, behind a plus sign or not, and fits a 64-bit
word.  The characters are looked at from the left, and the first that is no digit or
makes the number too large is the fault.
-/
import PullStreams.Number.Power

namespace PullStreams

/-- Why an argument is no count. -/
inductive CountFault where
  | empty
  | invalidDigit
  | overflow
  deriving DecidableEq, Repr

def CountFault.name : CountFault → String
  | .empty => "Empty"
  | .invalidDigit => "InvalidDigit"
  | .overflow => "PosOverflow"

/-- The form with the cause named. -/
def CountFault.report (fault : CountFault) : String :=
  "ParseIntError \x7b kind: " ++ fault.name ++ " \x7d"

/-- The count of a number followed by further digits. -/
def countFrom (n : Nat) : List Char → Except CountFault Nat
  | [] => .ok n
  | c :: rest =>
    if !c.isDigit then .error .invalidDigit
    else
      let next := 10 * n + (c.toNat - '0'.toNat)
      if wordCount ≤ next then .error .overflow else countFrom next rest

/-- The count that an argument gives. -/
def parseCount (text : String) : Except CountFault Nat :=
  match text.toList with
  | [] => .error .empty
  | ['+'] | ['-'] => .error .invalidDigit
  | '+' :: digits => countFrom 0 digits
  | chars => countFrom 0 chars

end PullStreams
