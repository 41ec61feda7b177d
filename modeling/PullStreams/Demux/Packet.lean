/-
Packets, and what reading them can fail with.

A packet belongs to a track by its id and counts its time in ticks of the track.
-/
import PullStreams.Bytes
import PullStreams.Error

namespace PullStreams

/-- One unit of a track's data, as a container stores it. -/
structure Packet where
  track : UInt32
  ts : Nat
  dur : Nat
  data : Bytes
  deriving DecidableEq, Repr

/-- Why a container cannot be sought. -/
inductive SeekFault where
  | unseekable
  | forwardOnly
  | outOfRange
  | invalidTrack
  deriving DecidableEq, Repr

def SeekFault.text : SeekFault → String
  | .unseekable => "stream is not seekable"
  | .forwardOnly => "stream can only be seeked forward"
  | .outOfRange => "requested seek timestamp is out-of-range for stream"
  | .invalidTrack => "invalid track id"

/-- What reading a container fails with. -/
inductive DemuxError where
  | io (cause : IoError)
  | malformed (text : String)
  | unsupported (text : String)
  | limit (text : String)
  | seek (fault : SeekFault)
  /-- The list of tracks has changed. -/
  | resetRequired
  /-- The reader broke off and gives no answer. -/
  | brokeOff
  deriving DecidableEq, Repr

namespace DemuxError

def message : DemuxError → String
  | io cause => cause.message
  | malformed text => "malformed stream: " ++ text
  | unsupported text => "unsupported feature: " ++ text
  | limit text => "limit reached: " ++ text
  | seek fault => "seek error: " ++ fault.text
  | resetRequired => "decoder needs to be reset"
  | brokeOff => "container reader broke off"

/-- The data ends where more was expected. -/
def endOfStream : DemuxError := io (.custom .unexpectedEof "end of stream")

/-- Whether a failed read means that there is nothing more to read. -/
def isEnd : DemuxError → Bool
  | io cause => cause.kind = .unexpectedEof
  | resetRequired => true
  | _ => false

end DemuxError
end PullStreams
