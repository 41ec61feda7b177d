/-
A worker together with the marks that say which tracks are enabled, and runs of the two.

Marks change at any time between the worker's operations; an operation uses them as they
are when it begins.
-/
import PullStreams.Demux.Worker

namespace PullStreams

structure Demultiplexer (ρ : Type) where
  worker : Worker ρ
  /-- Per track. -/
  enabled : List Bool

/-- An operation on a demultiplexer. -/
inductive DemuxCall where
  | enable (track : Nat)
  | disable (track : Nat)
  | pull (track : Nat)
  | seek (position : Duration)
  deriving DecidableEq, Repr

/-- What an operation came to. -/
inductive DemuxAnswer where
  | marked
  | pulled (result : Except PullFault (Option Buffer))
  | sought (result : Except DemuxError Unit)

namespace Demultiplexer

variable {ρ : Type} {m : Type → Type} [Monad m] [FormatReader ρ m]

/-- Nothing read yet, and no track enabled. -/
def ofReader (reader : ρ) (tracks : List Track) : Demultiplexer ρ :=
  { worker := .ofReader reader tracks, enabled := tracks.map fun _ => false }

def mark (d : Demultiplexer ρ) (track : Nat) (on : Bool) : Demultiplexer ρ :=
  { d with enabled := d.enabled.set track on }

def pull (d : Demultiplexer ρ) (track : Nat) :
    m (Demultiplexer ρ × Except PullFault (Option Buffer)) := do
  let (worker, result) ← d.worker.pull d.enabled track
  return ({ d with worker }, result)

def seek (d : Demultiplexer ρ) (position : Duration) :
    m (Demultiplexer ρ × Except DemuxError Unit) := do
  let (worker, result) ← d.worker.seek position
  return ({ d with worker }, result)

def call (d : Demultiplexer ρ) : DemuxCall → m (Demultiplexer ρ × DemuxAnswer)
  | .enable track => return (d.mark track true, .marked)
  | .disable track => return (d.mark track false, .marked)
  | .pull track => do
    let (d, result) ← d.pull track
    return (d, .pulled result)
  | .seek position => do
    let (d, result) ← d.seek position
    return (d, .sought result)

/-- Makes a list of calls, one after the other. -/
def run (d : Demultiplexer ρ) : List DemuxCall → m (Demultiplexer ρ × List DemuxAnswer)
  | [] => return (d, [])
  | c :: calls => do
    let (d, answer) ← d.call c
    let (d, answers) ← d.run calls
    return (d, answer :: answers)

end Demultiplexer
end PullStreams
