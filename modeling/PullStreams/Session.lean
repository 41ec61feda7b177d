/-
Sessions: a source of streams between its opening and its shutdown.

A session shows the streams of a byte source to consumers and drives a backend that
delivers them.  Calls are checked at once and become commands; the executor carries
them out later (`PullStreams.Session.Execution`).  The backend is created at the
first start and let go at the shutdown.

This module holds the state of a session, what changes small parts of it, and what
callers ask about it.
-/
import PullStreams.Config
import PullStreams.Engine
import PullStreams.EventQueue
import PullStreams.Feeder
import PullStreams.Layout.Binding
import PullStreams.Session.Journal

namespace PullStreams

/-- Where a session is in its life. -/
inductive Phase where
  | stopped
  | paused
  | running
  /-- Nothing follows it. -/
  | shutdown
  deriving DecidableEq, Repr

def Phase.text : Phase → String
  | .stopped => "stopped"
  | .paused => "paused"
  | .running => "running"
  | .shutdown => "shutdown"

structure StreamState (τ : Type) where
  isActive : Bool
  hasEnded : Bool
  /-- Requests that were executed while the session was paused, oldest first. -/
  deferred : List (Request τ)
  events : EventQueue (StreamEvent τ)

namespace StreamState

variable {τ : Type}

/-- A stream that nobody has started. -/
def idle : StreamState τ := ⟨false, false, [], .empty⟩

/-- Whether a request that is executed now would be answered. -/
def isServed (s : StreamState τ) : Bool := s.isActive && !s.hasEnded

end StreamState

/-- The backend of a session. -/
inductive Resources (β : Type) where
  | unopened
  | opened (backend : β) (binding : Binding)
  /-- Opening failed, for a reason that later starts report again. -/
  | failed (message : String)
  | released

/-- What is known of a source from its probe on. -/
structure MediaInfo where
  mimeType : String
  size : Nat
  duration : Option Duration
  deriving DecidableEq, Repr

/-- A source of streams over byte sources `σ` and backends `β`, with tokens `τ`. -/
structure Session (σ β τ : Type) where
  info : MediaInfo
  layout : Layout
  phase : Phase
  rate : Number.Single
  /-- In the order of the layout. -/
  streams : List (StreamState τ)
  /-- The selection that new presentations show. -/
  selection : List Bool
  resources : Resources β
  presentationEnded : Bool
  commands : CommandQueue τ
  /-- Whether the executor broke off, and no command is carried out any more. -/
  executorBroke : Bool
  feederStart : FeederStart
  feeder : Feeder σ
  events : EventQueue SourceEvent
  /-- Oldest first. -/
  journal : List (Entry τ)

namespace Session

variable {σ β τ α : Type}

/-! ### The journal -/

def record (s : Session σ β τ) (entry : Entry τ) : Session σ β τ :=
  { s with journal := s.journal ++ [entry] }

def recordAll (s : Session σ β τ) (entries : List (Entry τ)) : Session σ β τ :=
  { s with journal := s.journal ++ entries }

def noteCall (s : Session σ β τ) (call : Call) : Session σ β τ := s.record (.called call)

def say (s : Session σ β τ) (party : Party) (notice : Notice) : Session σ β τ :=
  s.record (.said ⟨party, notice⟩)

/-- Records what a backend said while `party` called it. -/
def sayAll (s : Session σ β τ) (party : Party) (notices : List Notice) : Session σ β τ :=
  s.recordAll (notices.map fun n => .said ⟨n.speaker party, n⟩)

/-! ### Events and streams -/

/-- Posts an event on the source's queue. -/
def post (s : Session σ β τ) (event : SourceEvent) : Session σ β τ :=
  { s with events := s.events.post event }.record (.posted event)

def updateStream (s : Session σ β τ) (index : Nat) (f : StreamState τ → StreamState τ) :
    Session σ β τ :=
  { s with streams := s.streams.modify index f }

/-- Posts an event on a stream's queue. -/
def tell (s : Session σ β τ) (index : Nat) (event : StreamEvent τ) : Session σ β τ :=
  s.updateStream index fun stream => { stream with events := stream.events.post event }

/-- Posts an event that answers no request. -/
def announce (s : Session σ β τ) (index : Nat) (event : StreamEvent τ) : Session σ β τ :=
  (s.tell index event).record (.announced index event)

/-- Answers a request. -/
def answer (s : Session σ β τ) (index : Nat) (request : Request τ) (event : StreamEvent τ) :
    Session σ β τ :=
  (s.tell index event).record (.answered index request event)

/-- Gives a request up. -/
def drop (s : Session σ β τ) (index : Nat) (request : Request τ) : Session σ β τ :=
  s.record (.dropped index request)

/-- The indices of the active streams. -/
def activeIndices (s : Session σ β τ) : List Nat :=
  (List.range s.streams.length).filter fun i => (s.streams[i]?.map (·.isActive)).getD false

/-- Posts an event on the queue of every active stream. -/
def announceActive (s : Session σ β τ) (event : StreamEvent τ) : Session σ β τ :=
  s.activeIndices.foldl (fun s i => s.announce i event) s

/-! ### The backend -/

/-- Whether there is somebody who answers a backend's requests. -/
def isServing (s : Session σ β τ) : Bool := s.feederStart = .serves

/-- Runs a backend's operation, answering its requests for bytes if anybody does. -/
def drive [ByteSource σ] (s : Session σ β τ) (party : Party) (operation : Pull (Outcome β α)) :
    Session σ β τ × Outcome β α :=
  let (feeder, outcome) :=
    if s.isServing then s.feeder.serve operation else (s.feeder, operation.unanswered)
  let s := { s with feeder := { feeder with notices := [] } }
  ((s.sayAll .feeder feeder.notices).sayAll party outcome.notices, outcome)

/-- Calls the backend of an opened session. -/
def callBackend [ByteSource σ] (s : Session σ β τ) (binding : Binding) (call : Call)
    (operation : Pull (Outcome β α)) : Session σ β τ × Except SourceError α :=
  let (s, outcome) := (s.noteCall call).drive .executor operation
  ({ s with resources := .opened outcome.after binding }, outcome.result)

/-- The feeder answers a request that a backend makes outside its operations.  There is no feeder
without an opened backend. -/
def feed [ByteSource σ] (s : Session σ β τ) (request : ReadRequest) :
    Session σ β τ × Option Chunk :=
  match s.resources, s.isServing with
  | .opened .., true =>
    let (feeder, chunk) := s.feeder.answer request
    ({ s with feeder := { feeder with notices := [] } }.sayAll .feeder feeder.notices, some chunk)
  | _, _ => (s, none)

/-! ### What callers ask -/

/-- What a call is worth that a session refuses after its shutdown. -/
def whileAlive (s : Session σ β τ) (result : α) : Except SourceError α :=
  if s.phase = .shutdown then .error .shutdown else .ok result

/-- The streams with the current selection. -/
def presentation (s : Session σ β τ) : Except SourceError Presentation :=
  s.whileAlive
    (.ofMarks s.layout.descriptors s.selection s.info.mimeType s.info.size s.info.duration)

/-- What a session can do. -/
structure Abilities where
  canSeek : Bool
  canPause : Bool
  deriving DecidableEq, Repr

def abilities (s : Session σ β τ) : Except SourceError Abilities := s.whileAlive ⟨true, true⟩

/-- The index of the stream with a given id. -/
def streamIndex (s : Session σ β τ) (id : UInt32) : Except SourceError Nat :=
  if id ≠ 0 ∧ id.toNat ≤ s.streams.length then .ok (id.toNat - 1) else .error (.invalidStream id)

/-- The description of a stream, for whoever holds the stream. -/
def descriptor (s : Session σ β τ) (index : Nat) : Except SourceError (Option StreamDescriptor) :=
  s.whileAlive s.layout.descriptors[index]?

/-- Takes the oldest event of the source's queue. -/
def nextEvent (s : Session σ β τ) : Session σ β τ × Except SourceError (Option SourceEvent) :=
  let (events, result) := s.events.tryNext
  ({ s with events }, result)

/-- A caller's own event for the source's queue. -/
def queueEvent (s : Session σ β τ) (event : SourceEvent) :
    Session σ β τ × Except SourceError Unit :=
  let (events, result) := s.events.push event
  ({ s with events }, result)

/-- Takes the oldest event of a stream's queue.  No stream has no event. -/
def nextStreamEvent (s : Session σ β τ) (index : Nat) :
    Session σ β τ × Except SourceError (Option (StreamEvent τ)) :=
  match s.streams[index]? with
  | none => (s, .ok none)
  | some stream =>
    let (events, result) := stream.events.tryNext
    (s.updateStream index fun stream => { stream with events }, result)

/-- A caller's own event for a stream's queue. -/
def queueStreamEvent (s : Session σ β τ) (index : Nat) (event : StreamEvent τ) :
    Session σ β τ × Except SourceError Unit :=
  match s.streams[index]? with
  | none => (s, .ok ())
  | some stream =>
    let (events, result) := stream.events.push event
    (s.updateStream index fun stream => { stream with events }, result)

end Session
end PullStreams
