/-
Probing a byte source, and the engine that takes containers apart.

The first bytes tell the container, and with it the mime type, unless the source knows
it itself.  Then the container is opened in the byte source to learn its tracks, with
both of them as a hint.  Which containers can be opened is a matter of the opener.
-/
import PullStreams.Container
import PullStreams.Demux.Backend
import PullStreams.Reading.SourceReader

namespace PullStreams

namespace Demux

variable {σ : Type} [ByteSource σ]

/-- What the opened container tells about its source. -/
def probeInfo (mimeType : String) (tracks : List Track) : ProbeInfo :=
  { mimeType
    duration := tracks.findSome? Track.duration?
    streams := tracks.map Track.toEntry }

/-- The first bytes of a source, `count` at most. -/
def headerBytes (source : σ) (count : Nat) : σ × Except IoError Bytes :=
  match ByteSource.seek source 0 with
  | (source, .error e) => (source, .error e)
  | (source, .ok ()) => ByteSource.readFully source count

/-- What the first bytes and the mime type tell whoever opens the container. -/
def hintFor (container : Container) (mimeType : String) : Hint :=
  { extension := container.extension?, mimeType }

/-- Learns the mime type and the streams of a source, whose container is opened with `opener`. -/
def probeWith {ρ : Type} (opener : Hint → Reading (OpenedContainer ρ)) (chunkSize : Nat)
    (source : σ) : Outcome σ ProbeInfo :=
  let known := ByteSource.contentType source
  match ByteSource.length source with
  | .error e => .error source (.io e)
  | .ok length =>
    match headerBytes source (min chunkSize length) with
    | (source, .error e) => .error source (.io e)
    | (source, .ok header) =>
      let container := Container.detect header
      let mimeType := known.getD container.mimeType
      let (reader, opened) :=
        SourceReader.run (opener (hintFor container mimeType)) (.ofSource source length)
      ⟨reader.source, opened.notices, match opened.result with
        | .error e => .error (.unsupportedFormat e.message)
        | .ok (_, tracks) => .ok (probeInfo mimeType tracks)⟩

/-- A probe that opens WAV files, whatever the hint. -/
def probe (chunkSize : Nat) (source : σ) : Outcome σ ProbeInfo :=
  probeWith (fun _ => Wav.openReader) chunkSize source

/-- The engine that takes containers apart, over byte sources of any kind. -/
def engine (σ : Type) [ByteSource σ] : Engine σ (DemuxBackend Wav.Reader) where
  probe := probe
  create := .ok .new
  catalog := DemuxBackend.catalog
  connect := DemuxBackend.connect Wav.openReader
  enable b index _ := .done (b.setEnabled index true)
  disable b index := .done (b.setEnabled index false)
  seek b _ position := b.seek position
  pull b index := b.pull index
  disconnect := DemuxBackend.disconnect

end Demux
end PullStreams
