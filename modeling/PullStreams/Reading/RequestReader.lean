/-
Reading through requests.

Every read of at least one byte becomes a request for the bytes at the reader's
position, and takes from the chunk that comes back no more than it asked for.  A
failed chunk, and nobody to answer, fail the read and leave the position alone.
-/
import PullStreams.Pull
import PullStreams.Reading

namespace PullStreams

/-- A position in an input of known length. -/
structure RequestReader where
  position : Nat
  length : Nat
  deriving DecidableEq, Repr

namespace RequestReader

variable {α : Type}

def ofLength (length : Nat) : RequestReader := ⟨0, length⟩

/-- What a container reader is told of its input: that it can be moved in, and its length. -/
def abilities (r : RequestReader) : Bool × Option Nat := (true, some r.length)

/-- Nobody takes requests, or answers them, any more. -/
def disconnected : IoError := .custom .connectionAborted "backend disconnected"

/-- A request was answered with a failed chunk. -/
def failedRead (request : ReadRequest) : IoError :=
  .custom .other
    ("read of " ++ toString request.size ++ " bytes at " ++ toString request.offset ++ " failed")

/-- What the answer to a request means for the reader. -/
def receive (r : RequestReader) (request : ReadRequest) :
    Option Chunk → RequestReader × Except IoError Bytes
  | some (.data bytes) =>
    let taken := bytes.take request.size
    ({ r with position := advance r.position taken.length }, .ok taken)
  | some .failed => (r, .error (failedRead request))
  | none => (r, .error disconnected)

/-- Reads at most `count` bytes at the position. -/
def read (r : RequestReader) (count : Nat) : Pull (RequestReader × Except IoError Bytes) :=
  if count = 0 then .done (r, .ok [])
  else
    let request : ReadRequest := ⟨r.position, count⟩
    .ask request fun reply => .done (r.receive request reply)

/-- Moves the position. -/
def seek (r : RequestReader) (target : SeekTarget) : RequestReader × Except IoError Nat :=
  match target.resolve r.position r.length with
  | .error e => (r, .error e)
  | .ok position => ({ r with position }, .ok position)

/-- A computation over an input as one that makes requests. -/
def run : Reading α → RequestReader → Pull (RequestReader × α)
  | .done a, r => .done (r, a)
  | .read count resume, r => (r.read count).andThen fun (r, reply) => run (resume reply) r
  | .seek target resume, r =>
    let (r, reply) := r.seek target
    run (resume reply) r

end RequestReader
end PullStreams
