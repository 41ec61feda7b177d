/-
The feeder as a thread of its own, and its end.

The feeder asks the backend for a request, answers it from the byte source and pushes
the chunk, until it is told to stop or the backend has no more requests for it.  Its
owner connects the backend.  When that fails, and at the shutdown, the owner lets the
backend go: it disconnects it, tells the feeder to stop and waits until the feeder has
left its loop.  Only a shutdown goes on from there, and gives the byte source back.

Of the backend nothing is known but this: a question that comes after it was disconnected
is answered with no request.  A question that came before may be answered in any way and
at any time, and connecting may end in either way.
-/
import PullStreams.Feeder

namespace PullStreams

/-- Whether the byte source is sought and read for a request: a request for nothing is answered
without it, and so is one that there is no room for. -/
def Feeder.touches {σ : Type} (f : Feeder σ) (r : ReadRequest) : Bool :=
  let size := r.clamp f.total
  size ≠ 0 && !(f.buffer.length < size && allocationLimit ≤ size)

/-- Where the feeder is in its loop. -/
inductive LoopPlace where
  /-- At the head, where it looks whether to stop. -/
  | head
  /-- Waiting for the backend's next request.  The question is late if the backend was disconnected
  before it was asked. -/
  | asking ( isLate : Bool)
  /-- A request was taken and not yet served. -/
  | holding (request : ReadRequest)
  /-- The chunk for a request is ready to be pushed. -/
  | pushing (request : ReadRequest) (chunk : Chunk)
  | left
  deriving DecidableEq, Repr

/-- Why a backend is let go. -/
inductive ReleaseCause where
  | notConnected
  | shutdown
  deriving DecidableEq, Repr

/-- What the owner is doing. -/
inductive OwnerPlace where
  | connecting
  /-- The backend is connected, and there was no shutdown yet. -/
  | working
  | disconnecting (cause : ReleaseCause)
  | stopping (cause : ReleaseCause)
  /-- The feeder was told to stop, and is waited for. -/
  | joining (cause : ReleaseCause)
  /-- The start is over that could not connect the backend. -/
  | failed
  /-- A shutdown has nothing left to do but to give the byte source back. -/
  | closing
  /-- The shutdown is over. -/
  | closed
  deriving DecidableEq, Repr

/-- Where the owner is when it has let the backend go. -/
@[simp] def ReleaseCause.next : ReleaseCause → OwnerPlace
  | .notConnected => .failed
  | .shutdown => .closing

namespace OwnerPlace

@[simp] def hasDisconnected : OwnerPlace → Bool
  | connecting | working | disconnecting _ => false
  | stopping _ | joining _ | failed | closing | closed => true

/-- Whether the owner has waited for the feeder, if it ever had to. -/
@[simp] def hasJoined : OwnerPlace → Bool
  | connecting | working | disconnecting _ | stopping _ | joining _ => false
  | failed | closing | closed => true

end OwnerPlace

/-- What happened at the loop and at its owner. -/
inductive LoopEntry where
  | taken (request : ReadRequest)
  /-- The byte source was sought and read for a request. -/
  | touched (request : ReadRequest)
  | pushed (request : ReadRequest) (chunk : Chunk)
  | left
  /-- Connecting the backend failed. -/
  | notConnected
  | disconnected
  /-- The owner has waited for the feeder. -/
  | joined
  /-- The byte source was given back. -/
  | closed
  deriving DecidableEq, Repr

/-- The two threads. -/
structure FeederLoop (σ : Type) where
  feeder : Feeder σ
  place : LoopPlace
  isToldToStop : Bool
  owner : OwnerPlace
  /-- Oldest first. -/
  journal : List LoopEntry

/-- What happens next. -/
inductive LoopMove where
  /-- The feeder looks whether to stop. -/
  | look
  /-- The backend answers the feeder's question. -/
  | reply (answer : Option ReadRequest)
  | serve
  | push
  /-- Connecting the backend ends. -/
  | connect (succeeds : Bool)
  /-- Somebody asks the owner to shut down. -/
  | shutDown
  /-- The owner takes the next step of letting the backend or the byte source go. -/
  | release
  deriving DecidableEq, Repr

namespace FeederLoop

variable {σ : Type} [ByteSource σ]

/-- A feeder whose backend is being connected.  A feeder that does not begin has left. -/
def start (feeder : Feeder σ) : FeederStart → FeederLoop σ
  | .serves =>
    { feeder, place := .head, isToldToStop := false, owner := .connecting, journal := [] }
  | .breaksOff | .unnameable =>
    { feeder, place := .left, isToldToStop := false, owner := .connecting, journal := [.left] }

def note (l : FeederLoop σ) (entry : LoopEntry) : FeederLoop σ :=
  { l with journal := l.journal ++ [entry] }

def leave (l : FeederLoop σ) : FeederLoop σ := { l with place := .left }.note .left

/-- Answers the request in hand.  The feeder has the byte source to itself meanwhile. -/
def serve (l : FeederLoop σ) (request : ReadRequest) : FeederLoop σ :=
  let (feeder, chunk) := l.feeder.answer request
  let served := { l with feeder, place := .pushing request chunk }
  if l.feeder.touches request then served.note (.touched request) else served

/-- The next step of letting go; the owner waits for the feeder before it goes on. -/
def release (l : FeederLoop σ) : FeederLoop σ :=
  match l.owner with
  | .disconnecting cause => { l with owner := .stopping cause }.note .disconnected
  | .stopping cause => { l with owner := .joining cause, isToldToStop := true }
  | .joining cause => if l.place = .left then { l with owner := cause.next }.note .joined else l
  | .closing =>
    { l with
      owner := .closed
      feeder := { l.feeder with source := ByteSource.close l.feeder.source } }.note .closed
  | .connecting | .working | .failed | .closed => l

/-- One move.  A move that its thread cannot make changes nothing. -/
def move (l : FeederLoop σ) : LoopMove → FeederLoop σ
  | .look =>
    match l.place, l.isToldToStop with
    | .head, true => l.leave
    | .head, false => { l with place := .asking l.owner.hasDisconnected }
    | _, _ => l
  | .reply answer =>
    match l.place, answer with
    | .asking false, some request => { l with place := .holding request }.note (.taken request)
    | .asking false, none | .asking true, _ => l.leave
    | _, _ => l
  | .serve =>
    match l.place with
    | .holding request => l.serve request
    | _ => l
  | .push =>
    match l.place with
    | .pushing request chunk => { l with place := .head }.note (.pushed request chunk)
    | _ => l
  | .connect succeeds =>
    match l.owner, succeeds with
    | .connecting, true => { l with owner := .working }
    | .connecting, false => { l with owner := .disconnecting .notConnected }.note .notConnected
    | _, _ => l
  | .shutDown =>
    match l.owner with
    | .working => { l with owner := .disconnecting .shutdown }
    -- There is no backend any more.
    | .failed => { l with owner := .closing }
    | _ => l
  | .release => l.release

def run (l : FeederLoop σ) (moves : List LoopMove) : FeederLoop σ := moves.foldl move l

end FeederLoop
end PullStreams
