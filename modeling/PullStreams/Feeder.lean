/-
The feeder: it answers a backend's requests for bytes from a byte source.

A request is first cut to what the source holds (`ReadRequest.clamp`).  Nothing left
means an empty chunk, without a look at the source.  Otherwise the bytes are read
into one buffer that all requests share: it grows when a request needs more room and
is never emptied, but only what was read for this request is passed on.

* `offset_add_clamp_le` — a cut request asks for nothing past the end;
* `Feeder.run` — every request of a list gets one chunk, in order.
-/
import PullStreams.ByteSource
import PullStreams.Log.Notice
import PullStreams.Pull

namespace PullStreams

/-- The most bytes that can be had in one piece of memory: addresses have 47 bits. -/
def allocationLimit : Nat := 0x800000000000

/-- The largest room that can be asked for at all, plus one. -/
def roomLimit : Nat := 0x8000000000000000

/-- How the feeder begins its work. -/
inductive FeederStart where
  | serves
  /-- It breaks off before it serves anybody, because its buffer can have no such room. -/
  | breaksOff
  /-- It cannot be called by its name, and whoever would begin it breaks off. -/
  | unnameable
  deriving DecidableEq, Repr

/-- How a feeder begins that has this name and this much room in its buffer. -/
def FeederStart.of (name : String) (room : Nat) : FeederStart :=
  if name.toList.contains '\x00' then .unnameable
  else if roomLimit ≤ room then .breaksOff
  else .serves

namespace ReadRequest

/-- How many bytes a source of `total` bytes can give for a request. -/
def clamp (r : ReadRequest) (total : Nat) : Nat :=
  if total ≤ r.offset then 0 else min r.size (total - r.offset)

theorem offset_add_clamp_le (r : ReadRequest) {total : Nat} (h : r.clamp total ≠ 0) :
    r.offset + r.clamp total ≤ total := by
  unfold clamp at *
  split at h <;> split <;> omega

end ReadRequest

/-- The byte source, the shared buffer, and what was said on the way. -/
structure Feeder (σ : Type) where
  source : σ
  buffer : Bytes
  /-- The length of the source when it was opened. -/
  total : Nat
  /-- Oldest first. -/
  notices : List Notice

namespace Feeder

variable {σ : Type} [ByteSource σ]

/-- A feeder that has answered nothing yet. -/
def ofSource (source : σ) (total : Nat) : Feeder σ :=
  { source, buffer := [], total, notices := [] }

def say (f : Feeder σ) (notice : Notice) : Feeder σ :=
  { f with notices := f.notices ++ [notice] }

/-- The shared buffer with room for `size` bytes. -/
def grown (buffer : Bytes) (size : Nat) : Bytes :=
  buffer ++ List.replicate (size - buffer.length) 0

@[simp] theorem length_take_grown (buffer : Bytes) (size : Nat) :
    ((grown buffer size).take size).length = size := by
  simp only [grown, List.length_take, List.length_append, List.length_replicate]
  omega

/-- Reads `size` bytes from `offset` on into the front of the shared buffer. -/
def load (f : Feeder σ) (offset size : Nat) : Feeder σ × Except IoError Nat :=
  let buffer := grown f.buffer size
  match ByteSource.seek f.source offset with
  | (source, .error e) => ({ f with source, buffer }, .error e)
  | (source, .ok ()) =>
    let (source, front, result) := ByteSource.fill source (buffer.take size)
    ({ f with source, buffer := front ++ buffer.drop size }, result)

/-- Answers one request. -/
def answer (f : Feeder σ) (r : ReadRequest) : Feeder σ × Chunk :=
  let size := r.clamp f.total
  if size = 0 then (f, .data [])
  else if f.buffer.length < size ∧ allocationLimit ≤ size then
    (f.say (.bufferNotAllocated size), .failed)
  else
    match f.load r.offset size with
    | (f, .error e) => (f.say (.readFailed r.offset size e), .failed)
    | (f, .ok got) =>
      (if got = size then f else f.say (.shortRead r.offset size got),
        .data (f.buffer.take got))

/-- Answers a list of requests in order. -/
def run (f : Feeder σ) : List ReadRequest → Feeder σ × List Chunk
  | [] => (f, [])
  | r :: rest =>
    let (f, chunk) := f.answer r
    let (f, chunks) := f.run rest
    (f, chunk :: chunks)

/-- Runs a computation that asks for bytes, answering its requests. -/
def serve {α : Type} (f : Feeder σ) (p : Pull α) : Feeder σ × α :=
  p.run (fun f r => let (f, chunk) := f.answer r; (f, some chunk)) f

end Feeder
end PullStreams
