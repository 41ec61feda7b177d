/-
The demultiplexing backend.

Its worker opens the container through requests for bytes, and from then on answers
pulls and seeks.  It is connected at most once, whether that succeeds or not.  Once
disconnected it takes no more pulls and seeks, and a container that would be opened
then gets no bytes.
-/
import PullStreams.Demux.OpenedContainer
import PullStreams.Demux.Wav
import PullStreams.Demux.Worker
import PullStreams.Engine
import PullStreams.Reading.RequestReader

namespace PullStreams

/-- A backend whose container is read by a `ρ`. -/
structure DemuxBackend (ρ : Type) where
  /-- Whether it was ever tried to connect. -/
  attempted : Bool
  /-- The worker and its place in the byte stream, while it takes orders. -/
  work : Option (Worker ρ × RequestReader)
  tracks : List Track
  enabled : List Bool
  isDisconnected : Bool

namespace DemuxBackend

variable {ρ : Type}

def new : DemuxBackend ρ :=
  { attempted := false, work := none, tracks := [], enabled := [], isDisconnected := false }

def alreadyConnected : SourceError := .backend "backend already connected"

def notConnected : SourceError := .backend "backend is not connected"

/-- Why a container does not open, for whoever connects. -/
def openingFault : DemuxError → SourceError
  | .brokeOff => .backend "demux worker exited during connect"
  | e => .unsupportedFormat e.message

/-- What opening the container leads to. -/
def opened (b : DemuxBackend ρ) (total : Nat)
    (answer : RequestReader × OpenedContainer ρ) : Outcome (DemuxBackend ρ) Unit :=
  let (input, container) := answer
  match container.result with
  | .error e => ⟨b, container.notices, .error (openingFault e)⟩
  | .ok (reader, tracks) =>
    { after := { b with
        work := some (.ofReader reader tracks, input)
        tracks
        enabled := tracks.map fun _ => false }
      notices := container.notices ++ [.demuxConnected total tracks.length]
      result := .ok () }

/-- Opens the container with `opener`, unless that was tried before. -/
def connect (opener : Reading (OpenedContainer ρ)) (b : DemuxBackend ρ)
    (total : Nat) : Pull (Outcome (DemuxBackend ρ) Unit) :=
  if b.attempted then .done (.error b alreadyConnected)
  else
    let b := { b with attempted := true }
    let opening := RequestReader.run opener (.ofLength total)
    if b.isDisconnected then .done (b.opened total opening.unanswered)
    else opening.andThen fun answer => .done (b.opened total answer)

/-- Enables or disables a track. -/
def setEnabled (b : DemuxBackend ρ) (index : Nat) (mark : Bool) :
    Outcome (DemuxBackend ρ) Unit :=
  if index < b.enabled.length then .ok { b with enabled := b.enabled.set index mark } ()
  else .error b (.invalidStream (UInt32.ofNat index))

/-- Gives the worker an order and passes on its answer. -/
def order {α : Type} (b : DemuxBackend ρ)
    (task : Worker ρ → Reading (Worker ρ × List Notice × Except SourceError α)) :
    Pull (Outcome (DemuxBackend ρ) α) :=
  match b.work with
  | none => .done (.error b notConnected)
  | some (worker, input) =>
    (RequestReader.run (task worker) input).andThen fun (input, worker, notices, result) =>
      .done ⟨{ b with work := some (worker, input) }, notices, result⟩

/-- What the worker says about a pull that failed. -/
def pullNotices {α : Type} : Except PullFault α → List Notice
  | .error (.unreadable e) => [.packetFailed e.message]
  | _ => []

def pull [FormatReader ρ Reading] (b : DemuxBackend ρ) (index : Nat) :
    Pull (Outcome (DemuxBackend ρ) (Option Buffer)) :=
  b.order fun worker => do
    let (worker, result) ← worker.pull b.enabled index
    return (worker, pullNotices result, result.mapError PullFault.toError)

/-- Why a seek failed, for whoever asked for it. -/
def seekFault (e : DemuxError) : SourceError := .backend ("seek failed: " ++ e.message)

def seek [FormatReader ρ Reading] (b : DemuxBackend ρ) (position : Duration) :
    Pull (Outcome (DemuxBackend ρ) Unit) :=
  b.order fun worker => do
    let (worker, result) ← worker.seek position
    return (worker, [], result.mapError seekFault)

/-- Takes no more orders.  Only the first time there is something to say. -/
def disconnect (b : DemuxBackend ρ) : DemuxBackend ρ × List Notice :=
  if b.isDisconnected then (b, [])
  else ({ b with isDisconnected := true, work := none }, [.demuxDisconnected])

/-- The tracks as a catalog. -/
def catalog (b : DemuxBackend ρ) : Catalog := b.tracks.map Track.toEntry

end DemuxBackend
end PullStreams
