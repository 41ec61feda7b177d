/-
Engines: what finds and delivers the streams of a byte source.

An engine probes a byte source and creates a backend.  A backend is connected once,
enables and disables streams, is sought and pulled; on the way it may ask for bytes.
An engine is a record of functions over a type `σ` of byte sources and a type `β` of
backends, so that any behaviour whatever is an engine.
-/
import PullStreams.Catalog
import PullStreams.Log.Notice
import PullStreams.Media.Event
import PullStreams.Pull

namespace PullStreams

/-- What an operation on a backend, or on a byte source, comes to: what it is after that, what was
said, and the result. -/
structure Outcome (β α : Type) where
  after : β
  notices : List Notice
  result : Except SourceError α

namespace Outcome

variable {β α : Type}

def ok (after : β) (result : α) : Outcome β α := ⟨after, [], .ok result⟩

def error (after : β) (e : SourceError) : Outcome β α := ⟨after, [], .error e⟩

end Outcome

structure Engine (σ β : Type) where
  /-- Looks at the beginning of a byte source, so many bytes for its signature, and at its
  streams. -/
  probe : Nat → σ → Outcome σ ProbeInfo
  create : Except SourceError β
  /-- Whether a thread can be had that answers the backend's requests. -/
  spawnFeeder : Except IoError Unit := .ok ()
  /-- The streams of a connected backend. -/
  catalog : β → Catalog
  /-- Starts on a byte stream of a total size; afterwards the streams are known. -/
  connect : β → Nat → Pull (Outcome β Unit)
  enable : β → Nat → MediaFormat → Pull (Outcome β Unit)
  disable : β → Nat → Pull (Outcome β Unit)
  seek : β → Number.Single → Duration → Pull (Outcome β Unit)
  /-- The next buffer of a stream; nothing when the stream is exhausted. -/
  pull : β → Nat → Pull (Outcome β (Option Buffer))
  /-- Lets go of everybody who waits at the backend. -/
  disconnect : β → β × List Notice

end PullStreams
