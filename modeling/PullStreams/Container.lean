/-
Container families, told by the first bytes of the data.

The signatures overlap, so they are tried in a fixed order; none reaches past the
twelfth byte.
-/
import PullStreams.Bytes

namespace PullStreams

inductive Container where
  | mp4
  | matroska
  | ogg
  | flac
  | wav
  | mp3
  | unknown
  deriving DecidableEq, Repr

namespace Container

def name : Container → String
  | mp4 => "Mp4"
  | matroska => "Matroska"
  | ogg => "Ogg"
  | flac => "Flac"
  | wav => "Wav"
  | mp3 => "Mp3"
  | unknown => "Unknown"

def mimeType : Container → String
  | mp4 => "video/mp4"
  | matroska => "video/webm"
  | ogg => "audio/ogg"
  | flac => "audio/flac"
  | wav => "audio/wav"
  | mp3 => "audio/mpeg"
  | unknown => "application/octet-stream"

/-- The usual extension of such files. -/
def extension? : Container → Option String
  | mp4 => some "mp4"
  | matroska => some "mkv"
  | ogg => some "ogg"
  | flac => some "flac"
  | wav => some "wav"
  | mp3 => some "mp3"
  | unknown => none

/-- Whether `header` holds `tag` at position `start`. -/
def hasTag (header : Bytes) (start : Nat) (tag : String) : Bool :=
  header.slice start tag.length == Bytes.ofText tag

/-- Eleven set bits begin an MPEG audio frame. -/
def hasFrameSync : Bytes → Bool
  | first :: second :: _ => first == 0xff && 0xe0 ≤ second
  | _ => false

/-- The container that `header` begins.  Fewer than four bytes tell nothing. -/
def detect (header : Bytes) : Container :=
  if header.length < 4 then unknown
  else if header.slice 0 4 == [0x1a, 0x45, 0xdf, 0xa3] then matroska
  else if hasTag header 4 "ftyp" then mp4
  else if hasTag header 0 "OggS" then ogg
  else if hasTag header 0 "fLaC" then flac
  else if hasTag header 0 "RIFF" && hasTag header 8 "WAVE" then wav
  else if hasTag header 0 "ID3" || hasFrameSync header then mp3
  else unknown

end Container
end PullStreams
