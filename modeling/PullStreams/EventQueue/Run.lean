/-
Runs of an event queue: any number of threads that push, take, wait and shut down.

A history is the queue with its waiting consumers, and a journal of what every call came
to.  A run is a list of moves; a move that its thread cannot make leaves the history
alone: nobody runs who was neither woken nor out of time, and only who waits for a limited
time runs out of it.

* `History.move` — one move;
* `History.run` — a list of them;
* `History.pushed`, `History.taken` — the events whose push succeeded, and those that were
  taken, as the journal has them.
-/
import PullStreams.EventQueue.Monitor

namespace PullStreams.EventQueue

variable {α : Type}

/-- What a thread does next. -/
inductive Move (α : Type) where
  /-- The sleeper to be woken is given by its place. -/
  | push (event : α) (pick : Nat)
  | tryNext
  /-- A consumer calls and is ready to wait, for a limited time or for as long as it takes. -/
  | call (consumer : Nat) (isLimited : Bool := true)
  /-- A woken consumer runs. -/
  | resume (consumer : Nat)
  /-- A sleeper's time is up. -/
  | expire (consumer : Nat)
  /-- A consumer runs whose time is up, whether or not it had left the sleepers before. -/
  | timeOut (consumer : Nat)
  | shutdown

/-- What a call came to. -/
inductive Line (α : Type) where
  | pushed (event : α) (result : Except SourceError Unit)
  /-- The answer to a take, or to a wait, whose consumer is named then. -/
  | answered (consumer : Option Nat) (result : Except SourceError (Option α))

namespace Line

def pushed? : Line α → Option α
  | pushed event (.ok ()) => some event
  | _ => none

def answer? : Line α → Option (Except SourceError (Option α))
  | answered _ result => some result
  | _ => none

def taken? : Line α → Option α
  | answered _ (.ok event) => event
  | _ => none

end Line

structure History (α : Type) where
  monitor : Monitor α
  /-- Whether the present wait of a consumer is for a limited time. -/
  isLimited : Nat → Bool
  /-- Their time is up, and they have not run yet. -/
  expired : List Nat
  /-- Oldest first. -/
  journal : List (Line α)

namespace History

def empty : History α := ⟨.empty, fun _ => false, [], []⟩

/-- The events whose push succeeded, oldest first. -/
def pushed (h : History α) : List α := h.journal.filterMap Line.pushed?

/-- The events that were taken, in the order of the takes. -/
def taken (h : History α) : List α := h.journal.filterMap Line.taken?

/-- What takes and ended waits came to, oldest first. -/
def answers (h : History α) : List (Except SourceError (Option α)) :=
  h.journal.filterMap Line.answer?

/-- Whether a consumer has called and has no answer yet. -/
def isWaiting (h : History α) (consumer : Nat) : Bool :=
  h.monitor.asleep.contains consumer || h.monitor.woken.contains consumer ||
    h.expired.contains consumer

/-- Whether a consumer sleeps for a limited time. -/
def mayExpire (h : History α) (consumer : Nat) : Bool :=
  h.monitor.asleep.contains consumer && h.isLimited consumer

/-- Notes what a call came to. -/
def note (h : History α) (line : Line α) : History α := { h with journal := h.journal ++ [line] }

/-- Notes a consumer's look at the queue, after which it may sleep. -/
def looked (h : History α) (consumer : Nat) (look : Monitor α × Turn α) : History α :=
  match look with
  | (monitor, .answered answer) => { h with monitor }.note (.answered (some consumer) answer)
  | (monitor, .sleeps) => { h with monitor }

def move (h : History α) : Move α → History α
  | .push event pick =>
    let (monitor, result) := h.monitor.push event pick
    { h with monitor }.note (.pushed event result)
  | .tryNext =>
    let (monitor, answer) := h.monitor.tryNext
    { h with monitor }.note (.answered none answer)
  | .call consumer isLimited =>
    if h.isWaiting consumer then h
    else
      { h with isLimited := fun other => if other = consumer then isLimited else h.isLimited other
        }.looked consumer (h.monitor.call consumer)
  | .resume consumer =>
    if h.monitor.woken.contains consumer then h.looked consumer (h.monitor.resume consumer) else h
  | .expire consumer =>
    if h.mayExpire consumer then
      { h with monitor := h.monitor.expire consumer, expired := h.expired ++ [consumer] }
    else h
  | .timeOut consumer =>
    if h.mayExpire consumer || h.expired.contains consumer then
      let (monitor, answer) := h.monitor.timeOut consumer
      { h with monitor, expired := h.expired.erase consumer }.note (.answered (some consumer) answer)
    else h
  | .shutdown => { h with monitor := h.monitor.shutdown }

def run (h : History α) (moves : List (Move α)) : History α := moves.foldl move h

end History
end PullStreams.EventQueue
