/-
The journal of a session: what happened, in order.

It only grows.  It holds the calls that the engine and the byte source got, what was
said, the events that the session posted of its own accord, and what became of every
request that was accepted.
-/
import PullStreams.Log.Notice
import PullStreams.Media.Event
import PullStreams.Session.Command

namespace PullStreams

/-- A call to the engine, its backend or the byte source. -/
inductive Call where
  | probe (chunkSize : Nat)
  | create
  | connect (total : Nat)
  | enable (index : Nat) (format : MediaFormat)
  | disable (index : Nat)
  | seek (rate : Number.Single) (position : Duration)
  | pull (index : Nat)
  | disconnect
  /-- The byte source was given back. -/
  | close
  deriving DecidableEq, Repr

/-- One line of a journal. -/
inductive Entry (τ : Type) where
  | called (call : Call)
  | said (said : Said)
  /-- An event was posted on the source's queue. -/
  | posted (event : SourceEvent)
  /-- An event that answers no request was posted on a stream's queue. -/
  | announced (stream : Nat) (event : StreamEvent τ)
  | accepted (stream : Nat) (request : Request τ)
  /-- An event was posted on a stream's queue that answers a request. -/
  | answered (stream : Nat) (request : Request τ) (event : StreamEvent τ)
  /-- A request was given up without an answer. -/
  | dropped (stream : Nat) (request : Request τ)
  deriving Repr

namespace Entry

variable {τ : Type}

def call? : Entry τ → Option Call
  | called call => some call
  | _ => none

def said? : Entry τ → Option Said
  | said s => some s
  | _ => none

/-- The event of a line on the source's queue. -/
def sourceEvent? : Entry τ → Option SourceEvent
  | posted event => some event
  | _ => none

/-- The event of a line on one stream's queue. -/
def streamEvent? (stream : Nat) : Entry τ → Option (StreamEvent τ)
  | announced s event | answered s _ event => if s = stream then some event else none
  | _ => none

end Entry
end PullStreams
