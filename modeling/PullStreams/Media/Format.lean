/-
Formats of elementary streams.

A stream is audio, video or subtitles, or nothing is known about it.  Audio and
video streams are the ones of which a player shows one at a time: they take part in
default activation and mutual exclusion (`MediaKind.isElementary`).

`MediaFormat.advertised` is the format as consumers see it: planar I420 video is
announced as NV12, while the backend keeps working with the format it has.
-/

namespace PullStreams

/-- The broad category of a stream. -/
inductive MediaKind where
  | audio
  | video
  | subtitle
  | unknown
  deriving DecidableEq, Repr

namespace MediaKind

/-- Audio and video streams take part in default activation and mutual exclusion. -/
def isElementary : MediaKind → Bool
  | audio | video => true
  | subtitle | unknown => false

def text : MediaKind → String
  | audio => "audio"
  | video => "video"
  | subtitle => "subtitle"
  | unknown => "unknown"

/-- The name of a kind in reports. -/
def name : MediaKind → String
  | audio => "Audio"
  | video => "Video"
  | subtitle => "Subtitle"
  | unknown => "Unknown"

end MediaKind

/-- The picture layouts that a video stream may carry. -/
inductive PixelFormat where
  /-- Planar 4:2:0 with separate U and V planes. -/
  | i420
  /-- Planar 4:2:0 with one plane that interleaves U and V. -/
  | nv12
  | yv12
  | yuy2
  | rgb24
  | rgba
  deriving DecidableEq, Repr

namespace PixelFormat

def name : PixelFormat → String
  | i420 => "i420"
  | nv12 => "nv12"
  | yv12 => "yv12"
  | yuy2 => "yuy2"
  | rgb24 => "rgb24"
  | rgba => "rgba"

def all : List PixelFormat := [i420, nv12, yv12, yuy2, rgb24, rgba]

def ofName? (s : String) : Option PixelFormat := all.find? (·.name == s)

end PixelFormat

structure AudioFormat where
  codec : String
  sampleRate : Option Nat
  channels : Option Nat
  bitsPerSample : Option Nat
  deriving DecidableEq, Repr

structure VideoFormat where
  codec : String
  pixelFormat : Option PixelFormat
  width : Nat
  height : Nat
  deriving DecidableEq, Repr

/-- The format of one elementary stream. -/
inductive MediaFormat where
  | audio (format : AudioFormat)
  | video (format : VideoFormat)
  | subtitle (codec : String)
  | unknown
  deriving DecidableEq, Repr

namespace MediaFormat

def kind : MediaFormat → MediaKind
  | audio _ => .audio
  | video _ => .video
  | subtitle _ => .subtitle
  | unknown => .unknown

def codec? : MediaFormat → Option String
  | audio a => some a.codec
  | video v => some v.codec
  | subtitle codec => some codec
  | unknown => none

/-- The format as consumers see it: I420 video is announced as NV12. -/
def advertised : MediaFormat → MediaFormat
  | video v =>
    if v.pixelFormat = some .i420 then video { v with pixelFormat := some .nv12 } else video v
  | format => format

@[simp] theorem kind_advertised (f : MediaFormat) : f.advertised.kind = f.kind := by
  cases f with
  | video v => simp only [advertised]; split <;> rfl
  | _ => rfl

def text : MediaFormat → String
  | audio a =>
    "audio/" ++ a.codec ++ " " ++ toString (a.sampleRate.getD 0) ++ "Hz " ++
      toString (a.channels.getD 0) ++ "ch"
  | video v => "video/" ++ v.codec ++ " " ++ toString v.width ++ "x" ++ toString v.height
  | subtitle codec => "subtitle/" ++ codec
  | unknown => "unknown"

end MediaFormat
end PullStreams
