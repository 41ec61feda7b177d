/-
Commands, and the queue in which they wait for their execution.

Callers submit commands; one executor takes them out, one at a time and in order,
and executes what it has taken.  Taking and executing are two steps, so that other
parties may act while a command is in the executor's hand.

Every submission gets the next number, also one that the queue refuses, as the number
is given out before the command is handed over.  A request for a sample keeps the
number of its first submission as its ticket, wherever it waits later on: equal
tickets mean the same request.
-/
import PullStreams.Error
import PullStreams.Media.Position
import PullStreams.Media.Presentation

namespace PullStreams

/-- A request for one sample. -/
structure Request (τ : Type) where
  /-- The number under which the request was accepted. -/
  ticket : Nat
  token : Option τ
  deriving DecidableEq, Repr

/-- An operation that the executor carries out. -/
inductive Command (τ : Type) where
  /-- Starts, resumes or moves, and delivers the streams that are selected. -/
  | start (presentation : Presentation) (format : TimeFormat) (position : StartPosition)
  | pause
  | stop
  | requestSample (stream : Nat) (request : Request τ)

namespace Command

variable {τ : Type}

def name : Command τ → String
  | start .. => "start"
  | pause => "pause"
  | stop => "stop"
  | requestSample .. => "request-sample"

/-- The request that a command carries, and its stream. -/
def request? : Command τ → Option (Nat × Request τ)
  | requestSample stream request => some (stream, request)
  | _ => none

def isStart : Command τ → Bool
  | start .. => true
  | _ => false

end Command

/-- A submitted command with its number. -/
structure Envelope (τ : Type) where
  number : Nat
  command : Command τ

structure CommandQueue (τ : Type) where
  /-- Oldest first. -/
  waiting : List (Envelope τ)
  /-- What the executor has taken and not yet executed. -/
  inHand : Option (Envelope τ)
  /-- How many submissions there were so far, refused ones included. -/
  submitted : Nat
  isOpen : Bool

namespace CommandQueue

variable {τ : Type}

def empty : CommandQueue τ := ⟨[], none, 0, true⟩

/-- The number of the next submission. -/
def nextNumber (q : CommandQueue τ) : Nat := q.submitted + 1

/-- Puts a command behind all others. -/
def enqueue (q : CommandQueue τ) (command : Command τ) : CommandQueue τ :=
  { q with
    waiting := q.waiting ++ [⟨q.nextNumber, command⟩]
    submitted := q.nextNumber }

/-- Uses the next number up. -/
def skip (q : CommandQueue τ) : CommandQueue τ := { q with submitted := q.nextNumber }

/-- Puts a command behind all others, if the queue still takes any.  The number is used up in any
case. -/
def submit (q : CommandQueue τ) (command : Command τ) :
    CommandQueue τ × Except SourceError Unit :=
  if q.isOpen then (q.enqueue command, .ok ()) else (q.skip, .error .shutdown)

/-- The executor takes the oldest command when it has none in hand. -/
def take (q : CommandQueue τ) : CommandQueue τ :=
  match q.inHand, q.waiting with
  | none, envelope :: rest => { q with waiting := rest, inHand := some envelope }
  | _, _ => q

/-- Takes no more submissions.  What waits is still taken out. -/
def close (q : CommandQueue τ) : CommandQueue τ := { q with isOpen := false }

end CommandQueue
end PullStreams
