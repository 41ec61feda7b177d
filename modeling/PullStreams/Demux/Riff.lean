/-
Lists of chunks, as RIFF files hold them.

A chunk has a tag of four bytes, a length, and so many bytes.  It begins at an even
place of its list and does not reach past the list's end; only a list of unknown
length may hold a chunk of unknown length.  Places in a list are counted in 32 bits,
so that a list which is all but as long as can be begins anew behind its end.
-/
import PullStreams.Demux.Blocks

namespace PullStreams.Riff

open Blocks

/-- The largest length that a list or a chunk can declare; it stands for an unknown one. -/
def unknownLength : UInt32 := 0xffffffff

/-- More chunks than any data has room for, each of which takes eight bytes. -/
def mostChunks : Nat := 0x2000000000000000

/-- A list that is being read. -/
structure ChunkList where
  length : UInt32
  /-- How many bytes of it belong to chunks that were begun. -/
  consumed : UInt32
  deriving DecidableEq, Repr

/-- What stands in front of a chunk. -/
structure ChunkHead where
  tag : Bytes
  length : Nat
  deriving DecidableEq, Repr

namespace ChunkList

def ofLength (length : Nat) : ChunkList := ⟨UInt32.ofNat length, 0⟩

/-- The list with the next chunk at an even place. -/
def aligned (l : ChunkList) : Scan ChunkList := do
  if l.consumed % 2 = 0 then return l
  let _ ← byte
  return { l with consumed := l.consumed + 1 }

/-- How far a list is read with a chunk of a length that begins after `consumed` bytes. -/
def behind (consumed length : UInt32) : UInt32 :=
  if unknownLength - consumed < length then unknownLength else consumed + length

/-- The next chunk, if the list has room for one. -/
def next (l : ChunkList) : Scan (ChunkList × Option ChunkHead) := do
  let l ← l.aligned
  let consumed := l.consumed + 8
  if l.length < consumed then return (l, none)
  let tag ← each 4
  let length := UInt32.ofNat (← number 4)
  if l.length - consumed < length ∧ ¬(l.length = unknownLength ∧ length = unknownLength) then
    throw (.malformed "riff: chunk length exceeds parent (list) chunk length")
  return ({ l with consumed := behind consumed length }, some ⟨tag, length.toNat⟩)

/-- Passes over what is left of the list, and over the byte that makes its length even. -/
def finish (l : ChunkList) : Scan Unit := do
  if l.consumed < l.length then skip (l.length - l.consumed).toNat
  if l.length % 2 = 1 then
    let _ ← byte

/-- Reads all chunks of the list whole, `fuel` at most. -/
def readAll : (fuel : Nat) → ChunkList → Scan ChunkList
  | 0, l => return l
  | fuel + 1, l => do
    match ← l.next with
    | (l, none) => return l
    | (l, some chunk) =>
      let _ ← exactly chunk.length
      readAll fuel l

end ChunkList
end PullStreams.Riff
