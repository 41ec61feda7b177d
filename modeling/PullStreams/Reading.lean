/-
How a container is read: computations over an input with a position.

A container reader reads up to so many bytes at the current position, and moves the
position.  `Reading α` is a computation made of these two operations, so that one
and the same container reader runs over a byte source at hand
(`PullStreams.Reading.SourceReader`) and over requests that somebody else answers
(`PullStreams.Reading.RequestReader`).

Positions are 64-bit words.  A move is exact where its target is such a word and
fails otherwise (`SeekTarget.resolve`).
-/
import PullStreams.Bytes
import PullStreams.Error
import PullStreams.Number.Power

namespace PullStreams

/-- Where to move. -/
inductive SeekTarget where
  | start (offset : Nat)
  | current (delta : Int)
  | fromEnd (delta : Int)
  deriving DecidableEq, Repr

namespace SeekTarget

/-- The failure of a move to where no position is. -/
def outOfRange : IoError := .custom .invalidInput "seek before start"

/-- `base` moved by `delta`, where the result is a position. -/
def offsetBy (base : Nat) (delta : Int) : Except IoError Nat :=
  let target := (base : Int) + delta
  if 0 ≤ target ∧ target < wordCount then .ok target.toNat else .error outOfRange

/-- The position that a move from `position` in an input of `length` bytes leads to. -/
def resolve (target : SeekTarget) (position length : Nat) : Except IoError Nat :=
  match target with
  | start offset => .ok offset
  | current delta => offsetBy position delta
  | fromEnd delta => offsetBy length delta

end SeekTarget

/-- A position after `count` bytes were read. -/
def advance (position count : Nat) : Nat := (position + count) % wordCount

theorem advance_of_lt {position count : Nat} (h : position + count < wordCount) :
    advance position count = position + count := Nat.mod_eq_of_lt h

/-- A computation that reads and moves. -/
inductive Reading (α : Type) where
  | done (result : α)
  /-- Reads at most `count` bytes; none mean the end of the data. -/
  | read (count : Nat) (resume : Except IoError Bytes → Reading α)
  /-- Moves, and goes on with the new position. -/
  | seek (target : SeekTarget) (resume : Except IoError Nat → Reading α)

namespace Reading

variable {α β : Type}

/-- Goes on with what the first computation comes to. -/
def andThen (p : Reading α) (f : α → Reading β) : Reading β :=
  match p with
  | done a => f a
  | read count resume => read count fun reply => (resume reply).andThen f
  | seek target resume => seek target fun reply => (resume reply).andThen f

instance : Monad Reading where
  pure := done
  bind := andThen

end Reading
end PullStreams
