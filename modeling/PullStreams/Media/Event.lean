/-
Samples, and the events that a source and its streams post.

A sample carries the token of the request that it answers.  Tokens are opaque: the
events are over any type `τ` of them.
-/
import PullStreams.Bytes
import PullStreams.Number.Single
import PullStreams.Time.Duration

namespace PullStreams

/-- One unit of stream data as a backend gives it. -/
structure Buffer where
  data : Bytes
  pts : Duration
  duration : Duration
  deriving DecidableEq, Repr

/-- One unit of stream data as a consumer gets it. -/
structure Sample (τ : Type) where
  data : Bytes
  pts : Duration
  duration : Duration
  /-- The token of the request that this sample answers. -/
  token : Option τ
  deriving Repr

/-- Events on a stream's queue. -/
inductive StreamEvent (τ : Type) where
  /-- The position is missing when playback resumes without one. -/
  | started (position : Option Duration)
  | seeked (position : Duration)
  | paused
  | stopped
  | endOfStream
  | sample (sample : Sample τ)
  /-- The backend failed to produce the requested sample. -/
  | error (message : String)
  deriving Repr

/-- Events on the source's queue. -/
inductive SourceEvent where
  /-- A stream became active. -/
  | newStream (id : UInt32)
  /-- A stream that was active already was started again. -/
  | updatedStream (id : UInt32)
  | started (position : Option Duration)
  | seeked (position : Duration)
  | paused
  | stopped
  | endOfPresentation
  | rateChanged (rate : Number.Single)
  deriving DecidableEq, Repr

end PullStreams
