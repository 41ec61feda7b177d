/-
Opened containers.

Whoever opens a container may be given a hint what it is.  Opening it comes to a reader
of its packets with the tracks it found, or to an error; either way there may have been
something to remark.
-/
import PullStreams.Demux.Track
import PullStreams.Log.Notice

namespace PullStreams

/-- What is known of a container before it is opened. -/
structure Hint where
  /-- The usual extension of such files. -/
  extension : Option String
  mimeType : String
  deriving DecidableEq, Repr

/-- What opening a container comes to, with readers of type `ρ`. -/
structure OpenedContainer (ρ : Type) where
  /-- Oldest first. -/
  remarks : List Remark
  result : Except DemuxError (ρ × List Track)

namespace OpenedContainer

variable {ρ : Type}

def notices (c : OpenedContainer ρ) : List Notice := c.remarks.map .remark

end OpenedContainer
end PullStreams
