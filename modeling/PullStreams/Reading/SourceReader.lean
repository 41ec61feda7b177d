/-
Reading a byte source directly.

Before anybody answers requests, a container is looked at in the byte source itself.
A read past the length that the source had in the beginning gives nothing; any other
read moves the source to the reader's position and fills the whole buffer, as far as
the source has bytes.
-/
import PullStreams.ByteSource
import PullStreams.Reading

namespace PullStreams

/-- A byte source, the reader's position in it, and its length in the beginning. -/
structure SourceReader (σ : Type) where
  source : σ
  position : Nat
  length : Nat

namespace SourceReader

variable {σ : Type} [ByteSource σ] {α : Type}

def ofSource (source : σ) (length : Nat) : SourceReader σ := ⟨source, 0, length⟩

/-- What a container reader is told of its input: that it can be moved in, and its length. -/
def abilities (r : SourceReader σ) : Bool × Option Nat := (true, some r.length)

/-- Reads at most `count` bytes at the position. -/
def read (r : SourceReader σ) (count : Nat) : SourceReader σ × Except IoError Bytes :=
  if r.length ≤ r.position then (r, .ok [])
  else
    match ByteSource.seek r.source r.position with
    | (source, .error e) => ({ r with source }, .error e)
    | (source, .ok ()) =>
      match ByteSource.readFully source count with
      | (source, .error e) => ({ r with source }, .error e)
      | (source, .ok bytes) =>
        ({ r with source, position := advance r.position bytes.length }, .ok bytes)

/-- Moves the position. -/
def seek (r : SourceReader σ) (target : SeekTarget) : SourceReader σ × Except IoError Nat :=
  match target.resolve r.position r.length with
  | .error e => (r, .error e)
  | .ok position => ({ r with position }, .ok position)

/-- Runs a computation over the source. -/
def run : Reading α → SourceReader σ → SourceReader σ × α
  | .done a, r => (r, a)
  | .read count resume, r =>
    let (r, reply) := r.read count
    run (resume reply) r
  | .seek target resume, r =>
    let (r, reply) := r.seek target
    run (resume reply) r

end SourceReader
end PullStreams
