/-
Format readers: what takes the packets out of a container.

A format reader is any type with the operations of the class.  Reading may involve
an input, so the operations are computations of a kind `m` of the reader's own:
`Id` where the packets are at hand, `Reading` where they lie in a file.

Every packet leaves less to read than there was before.  The result of `next`
carries the proof, so that whoever reads on until something happens comes to an end.
-/
import PullStreams.Demux.Packet
import PullStreams.Time.Base

namespace PullStreams

/-- What asking for the next packet comes to. -/
inductive Fetched {ρ : Type} (remaining : ρ → Nat) (before : ρ) where
  | packet (p : Packet) (after : ρ) (less : remaining after < remaining before)
  | failed (e : DemuxError) (after : ρ)

class FormatReader (ρ : Type) (m : outParam (Type → Type)) where
  /-- A bound on the packets that are left. -/
  remaining : ρ → Nat
  next : (r : ρ) → m (Fetched remaining r)
  /-- Goes to the last point not after a time from which packets can be read. -/
  seek : ρ → ClockTime → m (ρ × Except DemuxError Unit)

end PullStreams
