/-
Computations that ask for bytes before they answer.

A backend reads its container through requests: it asks for a range of bytes and
goes on with the chunk that comes back.  `Pull α` is such a computation, suspended
at each request, so that it can be run to its end at once (`Pull.run`) or one reply
at a time, while other parties act in between.
-/
import PullStreams.Bytes

namespace PullStreams

/-- A range of bytes that a backend wants next. -/
structure ReadRequest where
  offset : Nat
  size : Nat
  deriving DecidableEq, Repr

/-- The answer to a request.  No bytes mean the end of the data. -/
inductive Chunk where
  | data (bytes : Bytes)
  | failed
  deriving DecidableEq, Repr

/-- A computation that may ask for bytes.  It goes on with a chunk, or with nothing when nobody
will answer any more. -/
inductive Pull (α : Type) where
  | done (result : α)
  | ask (request : ReadRequest) (resume : Option Chunk → Pull α)

namespace Pull

variable {α β : Type}

/-- Goes on with what the first computation comes to. -/
def andThen (p : Pull α) (f : α → Pull β) : Pull β :=
  match p with
  | done a => f a
  | ask request resume => ask request fun reply => (resume reply).andThen f

instance : Monad Pull where
  pure := done
  bind := andThen

/-- Runs a computation to its end.  `answer` serves one request in a state of its own. -/
def run {φ : Type} (answer : φ → ReadRequest → φ × Option Chunk) : Pull α → φ → φ × α
  | done a, feed => (feed, a)
  | ask request resume, feed =>
    let (feed, reply) := answer feed request
    (resume reply).run answer feed

/-- What a computation comes to whose requests nobody answers. -/
def unanswered : Pull α → α
  | done a => a
  | ask _ resume => (resume none).unanswered

/-- Replies prepared beforehand, and the requests that were made. -/
structure Prepared where
  chunks : List Chunk
  /-- Whether anybody still takes requests. -/
  isOpen : Bool
  /-- The requests made so far, oldest first. -/
  asked : List ReadRequest
  deriving Repr

/-- Takes the next prepared chunk; none is left, or nobody listens, means that there is no
answer. -/
def Prepared.answer (p : Prepared) (request : ReadRequest) : Prepared × Option Chunk :=
  if p.isOpen then
    ({ p with chunks := p.chunks.tail, asked := p.asked ++ [request] }, p.chunks.head?)
  else (p, none)

end Pull
end PullStreams
