/-
A computation that asks for bytes and a feeder that answers, each a thread of its own.

The computation posts its request and waits for a chunk; the feeder takes requests in
order and pushes one chunk for each.  The two meet only in the two lists between them.

`Exchange.move` is one step of either; `Feeder.serve` is what the two come to together
when nothing else happens.
-/
import PullStreams.Feeder

namespace PullStreams

/-- The two threads and what lies between them. -/
structure Exchange (σ α : Type) where
  task : Pull α
  /-- Whether the task has posted its request and waits for the chunk. -/
  isWaiting : Bool
  /-- Posted and not taken, oldest first. -/
  requests : List ReadRequest
  /-- Taken by the feeder and not answered. -/
  inHand : Option ReadRequest
  /-- Pushed and not received, oldest first. -/
  chunks : List Chunk
  feeder : Feeder σ

/-- Whose step it is. -/
inductive ExchangeMove where
  | task
  | feeder
  deriving DecidableEq, Repr

namespace Exchange

variable {σ α : Type} [ByteSource σ]

def start (task : Pull α) (feeder : Feeder σ) : Exchange σ α :=
  { task, isWaiting := false, requests := [], inHand := none, chunks := [], feeder }

/-- The task posts its request, or receives the chunk that it waits for. -/
def moveTask (x : Exchange σ α) : Exchange σ α :=
  match x.task, x.isWaiting, x.chunks with
  | .done _, _, _ => x
  | .ask request _, false, _ =>
    { x with isWaiting := true, requests := x.requests ++ [request] }
  | .ask _ _, true, [] => x
  | .ask _ resume, true, chunk :: chunks =>
    { x with task := resume (some chunk), isWaiting := false, chunks }

/-- The feeder takes a request, or answers the one in hand. -/
def moveFeeder (x : Exchange σ α) : Exchange σ α :=
  match x.inHand, x.requests with
  | some request, _ =>
    let (feeder, chunk) := x.feeder.answer request
    { x with feeder, inHand := none, chunks := x.chunks ++ [chunk] }
  | none, request :: requests => { x with inHand := some request, requests }
  | none, [] => x

def move (x : Exchange σ α) : ExchangeMove → Exchange σ α
  | .task => x.moveTask
  | .feeder => x.moveFeeder

def run (x : Exchange σ α) (moves : List ExchangeMove) : Exchange σ α := moves.foldl move x

/-- What the task has come to, if it has come to its end. -/
def result? (x : Exchange σ α) : Option α :=
  match x.task with
  | .done a => some a
  | .ask .. => none

end Exchange
end PullStreams
