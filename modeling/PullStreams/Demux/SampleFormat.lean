/-
How samples are stored.

A chunk that describes samples begins with a tag, the number of channels, the rate,
the bytes of a block, and the bits of a sample.  What follows depends on the tag:
whole numbers, floating-point numbers, companded samples, samples that are coded in
blocks of several frames, and an extensible description that names its kind of samples
itself.
-/
import PullStreams.Demux.Blocks

namespace PullStreams

structure SampleFormat where
  codec : String
  channels : Nat
  rate : Nat
  /-- Bytes of one block: what belongs together of all channels. -/
  blockAlign : Nat
  framesPerBlock : Nat
  /-- The width of a sample, where it is declared. -/
  bits : Option Nat
  deriving DecidableEq, Repr

namespace SampleFormat

open Blocks

/-- What a description tells beside the rate and the size of a block. -/
structure Coding where
  codec : String
  channels : Nat
  bits : Option Nat
  framesPerBlock : Nat
  deriving DecidableEq, Repr

/-- The front of a description. -/
structure Outline where
  /-- How long the whole description is. -/
  length : Nat
  channels : Nat
  blockAlign : Nat
  bits : Nat
  deriving DecidableEq, Repr

/-- The codec of whole-number samples of a width. -/
def pcmCodec? : Nat → Option String
  | 8 => some "pcm_u8"
  | 16 => some "pcm_s16le"
  | 24 => some "pcm_s24le"
  | 32 => some "pcm_s32le"
  | _ => none

/-- The codec of floating-point samples of a width. -/
def floatCodec? : Nat → Option String
  | 32 => some "pcm_f32le"
  | 64 => some "pcm_f64le"
  | _ => none

def orMalformed {α : Type} (text : String) : Option α → Scan α
  | some a => return a
  | none => throw (.malformed text)

/-- There are so many places that a channel can have. -/
def mostChannels : Nat := 26

/-- A number of channels of which nobody says where they are. -/
def countedChannels (count : Nat) : Scan Nat := do
  if count = 0 ∨ mostChannels < count then throw (.malformed "riff: invalid channel count")
  return count

/-! ### The kinds of samples -/

/-- Whole numbers. -/
def pcm (o : Outline) : Scan Coding := do
  if o.length ∉ [16, 18, 40] then throw (.malformed "wav: malformed fmt_pcm chunk")
  skip (o.length - 16)
  let codec ← orMalformed "wav: bits per sample for fmt_pcm must be 8, 16, 24 or 32 bits"
    (pcmCodec? o.bits)
  return { codec, channels := ← countedChannels o.channels, bits := some o.bits
           framesPerBlock := 1 }

/-- Floating-point numbers.  What is said beyond the width may be cut off. -/
def float (o : Outline) : Scan Coding := do
  match o.length with
  | 16 => pure ()
  | 18 =>
    let extra ← number 2
    if extra ≠ 0 then throw (.malformed "wav: extra data not expected for fmt_ieee chunk")
  | 40 => tryCatch (skip 24) fun _ => pure ()
  | _ => throw (.malformed "wav: malformed fmt_ieee chunk")
  let codec ← orMalformed "wav: bits per sample for fmt_ieee must be 32 or 64 bits"
    (floatCodec? o.bits)
  return { codec, channels := ← countedChannels o.channels, bits := none, framesPerBlock := 1 }

/-- Companded samples, of the kind `kind`. -/
def companded (kind : String) (o : Outline) : Scan Coding := do
  if o.length ≠ 18 then throw (.malformed ("wav: malformed fmt_" ++ kind ++ " chunk"))
  skip (← number 2)
  return { codec := "pcm_" ++ kind, channels := ← countedChannels o.channels, bits := none
           framesPerBlock := 1 }

/-- How samples are coded as differences in blocks. -/
structure BlockCoding where
  codec : String
  /-- Whether a description may have so many more bytes. -/
  allowsExtra : Nat → Bool
  /-- The bytes of one channel in front of a block. -/
  headBytes : UInt16
  /-- The frames that the front of a block holds. -/
  headFrames : Nat

def microsoft : BlockCoding := ⟨"adpcm_ms", (32 ≤ ·), 7, 2⟩

def interactive : BlockCoding := ⟨"adpcm_ima_wav", (· == 2), 4, 1⟩

/-- How many frames a block has: four bits a sample, behind its front. -/
def BlockCoding.framesPerBlock (c : BlockCoding) (blockAlign channels : UInt16) : Nat :=
  ((blockAlign - c.headBytes * channels) * 8 / (4 * channels)).toNat + c.headFrames

/-- Samples coded as differences. -/
def differences (c : BlockCoding) (o : Outline) : Scan Coding := do
  if o.bits ≠ 4 then throw (.malformed "wav: bits per sample for fmt_adpcm must be 4 bits")
  if o.length < 20 then throw (.malformed "wav: malformed fmt_adpcm chunk")
  let extra ← number 2
  if !c.allowsExtra extra then throw (.malformed "wav: malformed fmt_adpcm chunk")
  skip extra
  let channels ← countedChannels o.channels
  return { codec := c.codec, channels, bits := none
           framesPerBlock :=
             c.framesPerBlock (UInt16.ofNat o.blockAlign) (UInt16.ofNat channels) }

/-! ### Extensible descriptions -/

/-- The number of binary ones. -/
def ones (mask : UInt32) : Nat := (List.range 32).countP fun i => mask.toNat.testBit i

/-- How many bits a mask has up to its highest one. -/
def width (mask : UInt32) : Nat :=
  if mask = 0 then 0 else Nat.log2 mask.toNat + 1

/-- A mask without its highest ones, so that `count` are left. -/
def lowest (count : Nat) : (fuel : Nat) → UInt32 → UInt32
  | 0, mask => mask
  | fuel + 1, mask =>
    if ones mask ≤ count then mask
    else lowest count fuel (mask - (1 <<< UInt32.ofNat (width mask - 1)))

/-- A mask with as many ones as there are channels: ones are added above the highest, or the
highest are taken away. -/
def amendedMask (mask : UInt32) (channels : Nat) : UInt32 :=
  if ones mask < channels then
    mask ||| ((1 <<< UInt32.ofNat (channels - ones mask)) - 1) <<< UInt32.ofNat (width mask)
  else lowest channels 32 mask

/-- The places of the channels. -/
def channelMask (o : Outline) : Scan UInt32 := do
  let mask := UInt32.ofNat (← number 4)
  if ones mask ≠ o.channels then remark .channelMaskAmended
  let mask := amendedMask mask o.channels
  if mostChannels < width mask then
    throw (.unsupported "wav: too many channels in mask for fmt_ext")
  return mask

/-- What the names of kinds of samples end with. -/
def kindEnding : Bytes :=
  [0x00, 0x00, 0x00, 0x00, 0x10, 0x00, 0x80, 0x00, 0x00, 0xaa, 0x00, 0x38, 0x9b, 0x71]

/-- What they end with where the channels are parts of a sound field. -/
def soundFieldEnding : Bytes :=
  [0x00, 0x00, 0x21, 0x07, 0xd3, 0x11, 0x86, 0x44, 0xc8, 0xc1, 0xca, 0x00, 0x00, 0x00]

/-- Kinds of samples that have names. -/
inductive SampleKind where
  | whole
  | float
  /-- Samples of another sort, which their codec tells. -/
  | named (codec : String)
  deriving DecidableEq, Repr

/-- The names of all kinds. -/
def SampleKind.names : List (Bytes × SampleKind) :=
  [ ([0x01, 0x00] ++ kindEnding, whole)
  , ([0x03, 0x00] ++ kindEnding, float)
  , ([0x04, 0x00] ++ kindEnding, named "pcm_mulaw")
  , ([0x06, 0x00] ++ kindEnding, named "pcm_alaw")
  , ([0x01, 0x00] ++ soundFieldEnding, whole)
  , ([0x03, 0x00] ++ soundFieldEnding, float) ]

/-- The codec of a kind of samples, of which `bits` bits count. -/
def codecOfKind (name : Bytes) (bits : Nat) (o : Outline) : Scan String :=
  match SampleKind.names.lookup name with
  | none => throw (.unsupported "wav: unsupported fmt_ext sub-type")
  | some .whole =>
    if 32 < o.bits then
      throw (.malformed "bits per sample for fmt_ext PCM sub-type must be <= 32 bits")
    else
      match pcmCodec? o.bits with
      | some codec => return codec
      | none => throw .brokeOff
  | some .float =>
    if bits ≠ o.bits then
      throw (.malformed
        "wav: bits per sample for fmt_ext IEEE sub-type must equal bits per coded sample")
    else
      orMalformed "wav: bits per sample for fmt_ext IEEE sub-type must be 32 or 64 bits"
        (floatCodec? o.bits)
  | some (.named codec) => return codec

/-- Samples of a kind that is named, of which not all bits need to count. -/
def extensible (o : Outline) : Scan Coding := do
  if o.length < 40 then throw (.malformed "wav: malformed fmt_ext chunk")
  let extra ← number 2
  if extra ≠ 22 then
    throw (.malformed "wav: extra data size not 22 bytes for fmt_ext chunk")
  let bits ← number 2
  if o.bits % 8 ≠ 0 then
    throw (.malformed "wav: bits per coded sample for fmt_ext must be a multiple of 8")
  if o.bits < bits then
    throw (.malformed "wav: bits per sample must be <= bits per coded sample for fmt_ext")
  let mask ← channelMask o
  let codec ← codecOfKind (← exactly 16) bits o
  return { codec, channels := ones mask, bits := some bits, framesPerBlock := 1 }

/-! ### The whole description -/

/-- What a description with a tag tells. -/
def coding (tag : Nat) (o : Outline) : Scan Coding :=
  match tag with
  | 0x0001 => pcm o
  | 0x0002 => differences microsoft o
  | 0x0003 => float o
  | 0x0006 => companded "alaw" o
  | 0x0007 => companded "mulaw" o
  | 0x0011 => differences interactive o
  | 0xfffe => extensible o
  | _ => throw (.unsupported "wav: unsupported wave format")

/-- Reads a description of `length` bytes.  A rate of zero leaves no clock to count on, and the
reader breaks off. -/
def read (length : Nat) : Scan SampleFormat := do
  if length < 16 then throw (.malformed "wav: malformed fmt chunk")
  let tag ← number 2
  let channels ← number 2
  let rate ← number 4
  let _bytesPerSecond ← number 4
  let blockAlign ← number 2
  let bits ← number 2
  let c ← coding tag { length, channels, blockAlign, bits }
  if rate = 0 then throw .brokeOff
  return { codec := c.codec, channels := c.channels, rate, blockAlign
           framesPerBlock := c.framesPerBlock, bits := c.bits }

/-- A description that takes the place of an earlier one.  The width of a sample stays declared. -/
def inPlaceOf (earlier : Option SampleFormat) (f : SampleFormat) : SampleFormat :=
  { f with bits := f.bits <|> earlier.bind (·.bits) }

end SampleFormat
end PullStreams
