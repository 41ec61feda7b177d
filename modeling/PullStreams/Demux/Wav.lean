/-
WAV files.

The data is searched byte by byte for the marker of a container; what stands before it
is passed over, and no container but this one is known here.  A RIFF list of the form
`WAVE` then holds chunks: `fmt ` describes the samples, `fact` counts their frames,
`LIST` is a list of its own, `data` holds the samples, and all others are passed over.

The samples form one track.  They lie in blocks, and are cut into packets of as many
blocks as have 1152 frames; a seek goes to the start of a packet.
-/
import PullStreams.Demux.FormatReader
import PullStreams.Demux.OpenedContainer
import PullStreams.Demux.Riff
import PullStreams.Demux.SampleFormat
import PullStreams.Text.Lossy

namespace PullStreams.Wav

open Blocks Riff

/-! ### Finding the container -/

/-- How many bytes are searched for a marker. -/
def searchLimit : Nat := 0x100000

/-- How many bytes are looked at to recognize a marker. -/
def contextSize : Nat := 16

def notFound : DemuxError :=
  .unsupported "core (probe): no suitable format reader found"

def missingData : DemuxError := .unsupported "wav: missing data chunk"

/-- Whether there is a next byte, and it can be read. -/
def hasNext : Scan Bool :=
  tryCatch (do
    refill
    return !(← get).ready.isEmpty) fun _ => return false

/-- The marker of the container that can be read. -/
def marker : Bytes := Bytes.ofText "RIFF"

/-- What other containers begin with. -/
def foreignMarkers : List Bytes :=
  ["fLaC", "ftyp", "OggS", "ID3"].map Bytes.ofText ++ [[0x1a, 0x45, 0xdf, 0xa3]]

/-- Whether a marker begins with two bytes. -/
def beginsMarker (first second : UInt8) : Bool :=
  (marker :: foreignMarkers).any fun m => m[0]? == some first && m[1]? == some second

/-- Within the first `left` bytes: how many there are up to the end of the first two with which a
marker begins, or at all; the last of them; and whether a marker begins. -/
def upToMarker : (left : Nat) → (previous : UInt8) → Bytes → Nat × UInt8 × Bool
  | 0, previous, _ | _, previous, [] => (0, previous, false)
  | left + 1, previous, current :: rest =>
    if beginsMarker previous current then (1, current, true)
    else
      let (count, last, begins) := upToMarker left current rest
      (count + 1, last, begins)

/-- Searches the next `left` bytes for the marker and stops before it.  `previous` is the byte
before the next one, and `fuel` bounds the blocks that are searched. -/
def findMarkerIn : (fuel left : Nat) → (previous : UInt8) → Scan Unit
  | 0, _, _ => throw notFound
  | fuel + 1, left, previous => do
    if left = 0 then
      remark (.searchGivenUp searchLimit)
      throw notFound
    if !(← hasNext) then
      remark (.searchEnded (searchLimit - left))
      throw notFound
    let (count, last, begins) := upToMarker left previous (← get).ready
    let used ← use count
    if begins then
      let rest ← exactly (contextSize - 2)
      putBack rest
      let context := (previous :: used).drop (count - 1) ++ rest
      if marker.isPrefixOf context then putBack (marker.take 2)
      else if foreignMarkers.any (·.isPrefixOf context) then throw notFound
      else findMarkerIn fuel (left - count) last
    else findMarkerIn fuel (left - count) last

/-- Searches for the marker and stops before it. -/
def findMarker : Scan Unit := findMarkerIn (searchLimit + 1) searchLimit 0

/-! ### The header -/

/-- What the chunks in front of the samples tell. -/
structure Heading where
  format : Option SampleFormat
  /-- How many frames there are, where a chunk of its own says so. -/
  frames : Option Nat
  deriving DecidableEq, Repr

/-- A file whose header is read. -/
structure File where
  heading : Heading
  dataStart : Nat
  /-- The length of the samples as the file declares it. -/
  dataLength : Nat
  deriving DecidableEq, Repr

/-- Reads a chunk that says how many frames there are. -/
def frameCount (length : Nat) : Scan Nat := do
  if length ≠ 4 then throw (.malformed "wav: malformed fact chunk")
  number 4

/-- Reads a list inside the file.  What it tells about the file is of no use here. -/
def innerList (length : Nat) : Scan Unit := do
  if length < 4 then throw (.malformed "wav: malformed list chunk")
  let form ← each 4
  let list := ChunkList.ofLength (length - 4)
  if form = Bytes.ofText "INFO" then (← list.readAll mostChunks).finish else list.finish

/-- Reads the chunks of a list up to the samples, `fuel` at most. -/
def chunks : (fuel : Nat) → ChunkList → Heading → Scan File
  | 0, _, _ => throw missingData
  | fuel + 1, list, heading => do
    match ← list.next with
    | (_, none) => throw missingData
    | (list, some chunk) =>
      if chunk.tag = Bytes.ofText "fmt " then
        let format ← SampleFormat.read chunk.length
        chunks fuel list { heading with format := some (format.inPlaceOf heading.format) }
      else if chunk.tag = Bytes.ofText "fact" then
        chunks fuel list { heading with frames := some (← frameCount chunk.length) }
      else if chunk.tag = Bytes.ofText "LIST" then
        innerList chunk.length
        chunks fuel list heading
      else if chunk.tag = Bytes.ofText "data" then
        return { heading, dataStart := (← get).position, dataLength := chunk.length }
      else
        remark (.chunkIgnored (Text.ofBytesLossy chunk.tag) chunk.length)
        skip chunk.length
        chunks fuel list heading

/-- Finds the container and reads its header. -/
def header : Scan File := do
  findMarker
  let _marker ← each 4
  let list := ChunkList.ofLength (← number 4)
  let form ← each 4
  if form ≠ Bytes.ofText "WAVE" then
    remark (.foreignForm (Text.ofBytesLossy form))
    throw (.unsupported "wav: riff form is not wave")
  chunks mostChunks list { format := none, frames := none }

/-! ### Samples -/

/-- A packet has so many frames at most, or else one block. -/
def framesPerPacket : Nat := 1152

namespace File

def format (f : File) : Option SampleFormat := f.heading.format

def blockAlign (f : File) : Nat := f.format.elim 0 (·.blockAlign)

def framesPerBlock (f : File) : Nat := f.format.elim 1 (·.framesPerBlock)

/-- A packet has so many blocks at most. -/
def blocksPerPacket (f : File) : Nat :=
  max f.framesPerBlock framesPerPacket / f.framesPerBlock

def dataEnd (f : File) : Nat := f.dataStart + f.dataLength

/-- How many frames lie in a number of bytes. -/
def framesIn (f : File) (bytes : Nat) : Nat := bytes / f.blockAlign * f.framesPerBlock

/-- How many frames the file declares: where blocks have a size, it is theirs that counts. -/
def frames (f : File) : Option Nat :=
  if f.blockAlign = 0 then f.heading.frames else some (f.framesIn f.dataLength)

/-- The one track of the file. -/
def track (f : File) : Track :=
  { id := 0
    format := match f.format with
      | none => .unknown
      | some s => .audio ⟨s.codec, some s.rate, some s.channels, s.bits⟩
    language := none
    timeBase := f.format.map fun s => ⟨1, s.rate⟩
    frames := f.frames }

end File

/-- An opened file and how far it is read. -/
structure Reader where
  file : File
  blocks : Blocks

namespace Reader

/-- How many bytes of samples are still to come. -/
def remaining (r : Reader) : Nat := r.file.dataEnd - r.blocks.position

/-- Reads the next packet. -/
def packet (file : File) : Scan Packet := do
  let position := (← get).position
  if file.blockAlign = 0 then throw (.malformed "riff: block size is 0")
  let blocksLeft := (file.dataEnd - position) / file.blockAlign
  if blocksLeft = 0 then throw .endOfStream
  let count := min blocksLeft file.blocksPerPacket
  let data ← take (count * file.blockAlign)
  if data.isEmpty then throw .endOfStream
  return { track := 0, ts := file.framesIn (position - file.dataStart)
           dur := count * file.framesPerBlock, data }

/-- Reads the next packet; one that left no less to read would be the end. -/
def next (r : Reader) : Reading (Fetched remaining r) := do
  let (result, blocks) ← ((packet r.file).run).run r.blocks
  let after : Reader := { r with blocks }
  match result with
  | .error e => return .failed e after
  | .ok p =>
    if h : after.remaining < r.remaining then return .packet p after h
    else return .failed .endOfStream after

/-- The position of the packet that is playing at a time. -/
def seekPosition (file : File) (time : ClockTime) : Except SeekFault Nat :=
  match file.format with
  | none => .error .unseekable
  | some format =>
    if file.blockAlign = 0 then .error .unseekable
    else
      let tick := TimeBase.ticksAt format.rate time
      if file.framesIn file.dataLength < tick then .error .outOfRange
      else
        let packet := file.blocksPerPacket * file.framesPerBlock
        .ok (file.dataStart + tick / packet * packet * file.blockAlign)

/-- Goes to the start of the packet that is playing at a time. -/
def seek (r : Reader) (time : ClockTime) : Reading (Reader × Except DemuxError Unit) :=
  match seekPosition r.file time with
  | .error fault => return (r, .error (.seek fault))
  | .ok position => do
    let (result, blocks) ← (rawSeek (.start position)).run.run r.blocks
    return ({ r with blocks }, result)

instance : FormatReader Reader Reading where
  remaining := remaining
  next := next
  seek := seek

end Reader

/-- Opens a container and lists its tracks. -/
def openReader : Reading (OpenedContainer Reader) := do
  let (result, blocks) ← header.run.run (startingAt 0)
  return ⟨blocks.remarks.reverse, result.map fun file => ({ file, blocks }, [file.track])⟩

end PullStreams.Wav
