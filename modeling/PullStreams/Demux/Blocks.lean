/-
Reading an input in blocks.

Container readers take a few bytes at a time.  The input is read in blocks, each
twice as long as the one before up to a limit, and only when all bytes of the last
block are used up.  The blocks go into a ring, and none runs past the ring's end.  A
move starts again with a short block.

Bytes that were used stay used when a later read fails, and what was remarked stays
remarked.
-/
import PullStreams.Demux.Packet
import PullStreams.Log.Remark
import PullStreams.Reading

namespace PullStreams

/-- What was read and not used yet, and how the next block will be read. -/
structure Blocks where
  ready : Bytes
  /-- The position of the next byte to be used. -/
  position : Nat
  /-- How many bytes the next block asks for. -/
  blockSize : Nat
  /-- Where in the ring the next block goes. -/
  ringOffset : Nat
  /-- What there was to remark, the latest first. -/
  remarks : List Remark

/-- A computation that uses the bytes of an input in order. -/
abbrev Scan (α : Type) := ExceptT DemuxError (StateT Blocks Reading) α

namespace Blocks

def shortestBlock : Nat := 1024

def longestBlock : Nat := 32768

def ringSize : Nat := 65536

/-- Nothing read yet, at a position. -/
def startingAt (position : Nat) : Blocks :=
  { ready := [], position, blockSize := shortestBlock, ringOffset := 0, remarks := [] }

/-- A read of the input itself. -/
def rawRead (count : Nat) : Scan Bytes := do
  match ← (StateT.lift (Reading.read count .done) : StateT Blocks Reading _) with
  | .ok bytes => return bytes
  | .error e => throw (.io e)

/-- A move of the input itself, after which nothing is ready. -/
def rawSeek (target : SeekTarget) : Scan Unit := do
  match ← (StateT.lift (Reading.seek target .done) : StateT Blocks Reading _) with
  | .ok position => modify fun b => { startingAt position with remarks := b.remarks }
  | .error e => throw (.io e)

def remark (r : Remark) : Scan Unit := modify fun b => { b with remarks := r :: b.remarks }

/-- Reads the next block when nothing is ready.  At the end of the data nothing is ready
afterwards either. -/
def refill : Scan Unit := do
  let b ← get
  if b.ready.isEmpty then
    let bytes ← rawRead (min b.blockSize (ringSize - b.ringOffset))
    set { b with
      ready := bytes
      blockSize := min (2 * b.blockSize) longestBlock
      ringOffset := (b.ringOffset + bytes.length) % ringSize }

/-- Uses at most `count` of the bytes that are ready. -/
def use (count : Nat) : Scan Bytes := do
  let b ← get
  let used := b.ready.take count
  set { b with ready := b.ready.drop count, position := b.position + used.length }
  return used

/-- Makes used bytes ready again. -/
def putBack (bytes : Bytes) : Scan Unit :=
  modify fun b => { b with ready := bytes ++ b.ready, position := b.position - bytes.length }

/-- At most `count` bytes, in `fuel` blocks at most; fewer only at the end of the data. -/
def takeIn : (fuel : Nat) → (count : Nat) → Scan Bytes
  | 0, _ => return []
  | _, 0 => return []
  | fuel + 1, count + 1 => do
    refill
    let bytes ← use (count + 1)
    if bytes.isEmpty then return []
    else return bytes ++ (← takeIn fuel (count + 1 - bytes.length))

/-- At most `count` bytes; fewer only at the end of the data. -/
def take (count : Nat) : Scan Bytes := takeIn count count

/-- Exactly `count` bytes, asking again while at least one comes. -/
def exactlyIn : (fuel : Nat) → (count : Nat) → Scan Bytes
  | 0, _ => return []
  | _, 0 => return []
  | fuel + 1, count + 1 => do
    let bytes ← take (count + 1)
    if bytes.isEmpty then throw .endOfStream
    else return bytes ++ (← exactlyIn fuel (count + 1 - bytes.length))

/-- Exactly `count` bytes. -/
def exactly (count : Nat) : Scan Bytes := exactlyIn count count

/-- The next byte. -/
def byte : Scan UInt8 := do
  refill
  match ← use 1 with
  | [] => throw .endOfStream
  | b :: _ => return b

/-- The next `count` bytes, one by one: where the data ends among them nothing is asked again. -/
def each : (count : Nat) → Scan Bytes
  | 0 => return []
  | count + 1 => do
    let b ← byte
    return b :: (← each count)

/-- A number of `count` bytes, the lowest first. -/
def number (count : Nat) : Scan Nat := return (← each count).toNat

/-- Passes over `count` bytes block by block. -/
def passIn : (fuel : Nat) → (count : Nat) → Scan Unit
  | 0, _ => return
  | _, 0 => return
  | fuel + 1, count + 1 => do
    refill
    let bytes ← use (count + 1)
    if bytes.isEmpty then throw .endOfStream
    else passIn fuel (count + 1 - bytes.length)

/-- Passes over `count` bytes.  Two rings or more are not read: a move leads to one ring before
the last of them. -/
def skip (count : Nat) : Scan Unit := do
  if 2 * ringSize ≤ count then
    let b ← get
    rawSeek (.current ((count - ringSize : Nat) - (b.ready.length : Int)))
    passIn ringSize ringSize
  else passIn count count

end Blocks
end PullStreams
