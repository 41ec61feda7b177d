/-
Tracks of a container: what is known about each, and its clock.
-/
import PullStreams.Catalog
import PullStreams.Demux.Packet
import PullStreams.Media.Event
import PullStreams.Time.Base

namespace PullStreams

structure Track where
  id : UInt32
  format : MediaFormat
  language : Option String
  timeBase : Option TimeBase
  /-- How many ticks, or else samples, the track lasts. -/
  frames : Option Nat
  deriving DecidableEq, Repr

namespace Track

/-- How long the track lasts.  Without a time base its frames are counted at the sample rate. -/
def duration? (t : Track) : Option Duration := do
  let frames ← t.frames
  match t.timeBase with
  | some base => some (base.timeOf frames).toDuration
  | none =>
    match t.format with
    | .audio { sampleRate := some rate, .. } =>
      if rate = 0 then none
      else some (.ofSeconds (.div (.ofNat frames) (.ofNat rate)))
    | _ => none

/-- The time of a number of ticks; without a time base every time is zero. -/
def timestamp (t : Track) (ticks : Nat) : Duration :=
  match t.timeBase with
  | some base => (base.timeOf ticks).toDuration
  | none => .zero

/-- A packet of this track as a consumer gets it. -/
def buffer (t : Track) (p : Packet) : Buffer :=
  { data := p.data, pts := t.timestamp p.ts, duration := t.timestamp p.dur }

/-- What a catalog tells about the track. -/
def toEntry (t : Track) : CatalogEntry := ⟨some t.format, t.language, none⟩

end Track
end PullStreams
