/-
Byte sources: random access to bytes of known length.

A source is any type with the operations of the class `ByteSource`.  A read may
give fewer bytes than it was asked for, and it may be interrupted, which is no
reason to give up.  `ByteSource.fill` reads until a buffer is full, the data ends,
or a read fails for a better reason.

* `length_fill` — filling keeps the length of the buffer.

A source says how many of its reads in a row may still be interrupted.  A read is made
so many times again, and a source that is interrupted more often is reported as
interrupted.
-/
import PullStreams.Bytes
import PullStreams.Error

namespace PullStreams

/-- A random-access readable resource of known length. -/
class ByteSource (σ : Type) where
  length : σ → Except IoError Nat
  seek : σ → Nat → σ × Except IoError Unit
  /-- At most the given number of bytes from the current position on; none at the end. -/
  read : σ → Nat → σ × Except IoError Bytes
  isSeekable : σ → Bool := fun _ => true
  /-- The mime type, where the source knows it better than its bytes tell. -/
  contentType : σ → Option String := fun _ => none
  /-- Gives the resource back. -/
  close : σ → σ := id
  /-- How many reads in a row may still be interrupted. -/
  interruptions : σ → Nat := fun _ => 0

namespace ByteSource

variable {σ : Type} [ByteSource σ]

/-- What is reported of a source that is interrupted more often than it said. -/
def interruptedTooOften : IoError := .custom .interrupted "interrupted too often"

/-- A read that is made again while it is interrupted, `tries` times in all. -/
def readPatiently : (tries : Nat) → σ → (count : Nat) → σ × Except IoError Bytes
  | 0, source, _ => (source, .error interruptedTooOften)
  | tries + 1, source, count =>
    match read source count with
    | (source, .error e) =>
      if e.isInterrupted then readPatiently tries source count else (source, .error e)
    | (source, .ok bytes) => (source, .ok bytes)

/-- Reads until `room` bytes are there, the data ends or a read fails.  As every read brings a byte,
`room` many reads are enough. -/
def gather : (reads : Nat) → σ → (room : Nat) → σ × Bytes × Option IoError
  | _, source, 0 | 0, source, _ => (source, [], none)
  | reads + 1, source, room + 1 =>
    match readPatiently (interruptions source + 1) source (room + 1) with
    | (source, .error e) => (source, [], some e)
    | (source, .ok bytes) =>
      match bytes.take (room + 1) with
      | [] => (source, [], none)
      | first :: more =>
        let (source, rest, failure) := gather reads source (room - more.length)
        (source, first :: more ++ rest, failure)

/-- Fills `buffer` from the current position on, and says how many bytes it got.  The bytes that
arrived before a failure are in the buffer as well. -/
def fill (source : σ) (buffer : Bytes) : σ × Bytes × Except IoError Nat :=
  let (source, bytes, failure) := gather buffer.length source buffer.length
  (source, buffer.overwrite bytes,
    match failure with
    | some e => .error e
    | none => .ok bytes.length)

/-- Reads `count` bytes into a buffer of their own. -/
def readFully (source : σ) (count : Nat) : σ × Except IoError Bytes :=
  let (source, buffer, result) := fill source (List.replicate count 0)
  (source, result.map buffer.take)

@[simp] theorem length_fill (source : σ) (buffer : Bytes) :
    (fill source buffer).2.1.length = buffer.length := by
  simp [fill]

end ByteSource
end PullStreams
