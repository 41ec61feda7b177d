/-
Consumers that wait at an event queue.

A consumer that finds the queue empty falls asleep.  A push wakes one sleeper,
shutting down wakes all, and a sleeper that waits for a limited time may also give
up by itself.  A woken consumer has not run yet: until it does, others may take the
event that woke it, and then it falls asleep again.  Nor has one whose time is up; when it
runs it looks at the queue once more and does not sleep again.

Each function is one critical section, so a run of any number of threads is a list
of these steps in some order.
-/
import PullStreams.EventQueue

namespace PullStreams.EventQueue

variable {α : Type}

/-- A queue with the consumers that wait at it, by number. -/
structure Monitor (α : Type) where
  queue : EventQueue α
  asleep : List Nat
  /-- Notified, and not yet run. -/
  woken : List Nat
  deriving Repr

/-- What a consumer's step comes to. -/
inductive Turn (α : Type) where
  /-- The call is over; `none` means that nothing came in time. -/
  | answered (result : Except SourceError (Option α))
  | sleeps

namespace Monitor

def empty : Monitor α := ⟨.empty, [], []⟩

/-- Adds an event and wakes the sleeper at position `pick` of the sleeping ones, or the first
when there are not so many. -/
def push (m : Monitor α) (event : α) (pick : Nat := 0) : Monitor α × Except SourceError Unit :=
  if m.queue.isShutDown then (m, .error .shutdown)
  else
    let chosen := m.asleep[pick]? <|> m.asleep.head?
    ({ queue := m.queue.post event
       asleep := chosen.elim m.asleep m.asleep.erase
       woken := m.woken ++ chosen.toList }, .ok ())

/-- A call that does not wait. -/
def tryNext (m : Monitor α) : Monitor α × Except SourceError (Option α) :=
  let (queue, result) := m.queue.tryNext
  ({ m with queue }, result)

/-- The look at the queue that a waiting call begins with and repeats whenever it is woken. -/
def look (m : Monitor α) (consumer : Nat) : Monitor α × Turn α :=
  match m.tryNext with
  | (m, .ok none) => ({ m with asleep := m.asleep ++ [consumer] }, .sleeps)
  | (m, result) => (m, .answered result)

/-- A consumer calls and is ready to wait. -/
def call (m : Monitor α) (consumer : Nat) : Monitor α × Turn α := m.look consumer

/-- A woken consumer runs. -/
def resume (m : Monitor α) (consumer : Nat) : Monitor α × Turn α :=
  { m with woken := m.woken.erase consumer }.look consumer

/-- A sleeper's time is up: a push wakes it no more. -/
def expire (m : Monitor α) (consumer : Nat) : Monitor α :=
  { m with asleep := m.asleep.erase consumer }

/-- A consumer runs whose time is up. -/
def timeOut (m : Monitor α) (consumer : Nat) : Monitor α × Except SourceError (Option α) :=
  (m.expire consumer).tryNext

def shutdown (m : Monitor α) : Monitor α :=
  { queue := m.queue.shutdown, asleep := [], woken := m.woken ++ m.asleep }

end Monitor
end PullStreams.EventQueue
