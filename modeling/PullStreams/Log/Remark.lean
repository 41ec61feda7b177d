/-
What the reader of a container remarks.

The reader of containers is a part of its own, with a logger of its own.  A filter
knows its remarks by the part that makes them (`Remark.target`).
-/
import PullStreams.Log.Level

namespace PullStreams

inductive Remark where
  /-- The data ended after so many bytes, and no container began in them. -/
  | searchEnded (count : Nat)
  /-- No container began in the first so many bytes. -/
  | searchGivenUp (count : Nat)
  | chunkIgnored (tag : String) (length : Nat)
  /-- The list of chunks is one of something else. -/
  | foreignForm (form : String)
  /-- A mask of channels does not have as many as there are. -/
  | channelMaskAmended
  deriving DecidableEq, Repr

namespace Remark

def level : Remark → LogLevel
  | searchEnded _ | searchGivenUp _ | foreignForm _ => .error
  | chunkIgnored .. | channelMaskAmended => .info

/-- The part of the reader that speaks. -/
def target : Remark → String
  | searchEnded _ | searchGivenUp _ => "symphonia_core::probe"
  | chunkIgnored .. | channelMaskAmended => "symphonia_format_riff::common"
  | foreignForm _ => "symphonia_format_riff::wave"

/-- What is recorded of a remark: its text, and where it was made. -/
def fields : List String :=
  ["message", "log.target", "log.module_path", "log.file", "log.line"]

def message : Remark → String
  | searchEnded count => "probe reach EOF at " ++ toString count ++ " bytes."
  | searchGivenUp count => "reached probe limit of " ++ toString count ++ " bytes."
  | chunkIgnored tag length =>
    "ignoring unknown chunk: tag=" ++ tag ++ ", len=" ++ toString length ++ "."
  | foreignForm form => "riff form is not wave (" ++ form ++ ")"
  | channelMaskAmended =>
    "Channel mask not set correctly, channel positions may be incorrect!"

end Remark
end PullStreams
