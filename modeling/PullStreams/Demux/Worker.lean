/-
The demux worker: it sorts the packets of a container by track.

A pull of one track reads on until a packet of that track turns up; packets of other
enabled tracks are kept in their tracks' queues for later pulls, those of disabled
and unknown tracks are dropped.  What lies in the queue of a disabled track is
dropped at the next pull.  Once the container has ended, the queues are emptied and
then every pull gives nothing, until a seek succeeds.
-/
import PullStreams.Demux.FormatReader
import PullStreams.Demux.Track

namespace PullStreams

/-- A format reader, its tracks, and per track the buffers that wait to be pulled. -/
structure Worker (ρ : Type) where
  reader : ρ
  tracks : List Track
  queues : List (List Buffer)
  ended : Bool

/-- Why a pull gives no answer. -/
inductive PullFault where
  | notEnabled (track : Nat)
  | unreadable (e : DemuxError)
  deriving DecidableEq, Repr

def PullFault.toError : PullFault → SourceError
  | .notEnabled track => .backend ("track " ++ toString track ++ " is not enabled")
  | .unreadable e => .backend e.message

namespace Worker

variable {ρ : Type} {m : Type → Type}

/-- A worker that has read nothing yet. -/
def ofReader (reader : ρ) (tracks : List Track) : Worker ρ :=
  { reader, tracks, queues := tracks.map fun _ => [], ended := false }

/-- Whether a list of marks has one at `index`. -/
def isOn (marks : List Bool) (index : Nat) : Bool := marks[index]?.getD false

/-- The queues with those of disabled tracks emptied. -/
def clearDisabled (w : Worker ρ) (enabled : List Bool) : Worker ρ :=
  { w with queues := w.queues.mapIdx fun i queue => if isOn enabled i then queue else [] }

/-- Takes the buffer at the front of a track's queue. -/
def takeFront (w : Worker ρ) (track : Nat) : Option (Buffer × Worker ρ) :=
  match w.queues[track]? with
  | some (buffer :: rest) => some (buffer, { w with queues := w.queues.set track rest })
  | _ => none

/-- Keeps a packet for its track, if that track exists and is enabled. -/
def keep (w : Worker ρ) (enabled : List Bool) (p : Packet) : Worker ρ :=
  match w.tracks.findIdx? (·.id == p.track) with
  | none => w
  | some index =>
    match w.tracks[index]?, isOn enabled index with
    | some track, true =>
      { w with queues := w.queues.modify index fun queue => queue ++ [track.buffer p] }
    | _, _ => w

/-- Reads on until the track has a buffer, the container ends or cannot be read. -/
def readOn [Monad m] [FormatReader ρ m] (enabled : List Bool) (track : Nat) (w : Worker ρ) :
    m (Worker ρ × Except PullFault (Option Buffer)) :=
  match w.takeFront track with
  | some (buffer, w) => pure (w, .ok (some buffer))
  | none =>
    if w.ended then pure (w, .ok none)
    else do
      match ← FormatReader.next w.reader with
      | .packet p after _ => readOn enabled track { w.keep enabled p with reader := after }
      | .failed e after =>
        if e.isEnd then pure ({ w with reader := after, ended := true }, .ok none)
        else pure ({ w with reader := after }, .error (.unreadable e))
termination_by FormatReader.remaining w.reader
decreasing_by assumption

/-- Gives the next buffer of a track; nothing when the container has no more. -/
def pull [Monad m] [FormatReader ρ m] (enabled : List Bool) (track : Nat) (w : Worker ρ) :
    m (Worker ρ × Except PullFault (Option Buffer)) :=
  if isOn enabled track then (w.clearDisabled enabled).readOn enabled track
  else pure (w, .error (.notEnabled track))

/-- Moves the reader.  All that was kept is dropped when that succeeds. -/
def seek [Monad m] [FormatReader ρ m] (position : Duration) (w : Worker ρ) :
    m (Worker ρ × Except DemuxError Unit) := do
  match ← FormatReader.seek w.reader (.ofDuration position) with
  | (reader, .error e) => pure ({ w with reader }, .error e)
  | (reader, .ok ()) =>
    pure ({ w with reader, queues := w.queues.map fun _ => [], ended := false }, .ok ())

end Worker
end PullStreams
