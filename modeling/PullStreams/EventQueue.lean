/-
Event queues: first in, first out, until shut down.

A queue that is shut down holds nothing and refuses every call.  `tryNext` is the
call that never waits; calls that wait are in `PullStreams.EventQueue.Monitor`.
-/
import PullStreams.Error

namespace PullStreams

structure EventQueue (α : Type) where
  /-- Oldest first. -/
  pending : List α
  isShutDown : Bool
  deriving Repr

namespace EventQueue

variable {α : Type}

def empty : EventQueue α := ⟨[], false⟩

instance : Inhabited (EventQueue α) := ⟨empty⟩

/-- Adds an event behind the pending ones. -/
def push (q : EventQueue α) (event : α) : EventQueue α × Except SourceError Unit :=
  if q.isShutDown then (q, .error .shutdown)
  else ({ q with pending := q.pending ++ [event] }, .ok ())

/-- Adds an event if the queue still takes any. -/
def post (q : EventQueue α) (event : α) : EventQueue α := (q.push event).1

/-- Takes the oldest event, if there is one. -/
def tryNext (q : EventQueue α) : EventQueue α × Except SourceError (Option α) :=
  if q.isShutDown then (q, .error .shutdown)
  else match q.pending with
    | [] => (q, .ok none)
    | event :: rest => ({ q with pending := rest }, .ok (some event))

/-- Drops what is pending and refuses every later call. -/
def shutdown (_ : EventQueue α) : EventQueue α := ⟨[], true⟩

@[simp] theorem pending_post (q : EventQueue α) (event : α) :
    (q.post event).pending = if q.isShutDown then q.pending else q.pending ++ [event] := by
  unfold post push
  split <;> rfl

@[simp] theorem isShutDown_post (q : EventQueue α) (event : α) :
    (q.post event).isShutDown = q.isShutDown := by
  unfold post push
  split <;> rfl

end EventQueue
end PullStreams
