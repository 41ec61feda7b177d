/-
Starting, resuming and moving.

A start without a position begins at zero when the session is stopped, and
otherwise where the session is.  It selects the streams to be delivered, in place of
the earlier selection.  Every selected stream is announced on the source's queue and
told on its own queue that it was started or, when a session under way was moved,
sought; the source's queue hears the same at the end.

Requests that were deferred in a pause go back to the command queue when the session
stays where it is, and are given up when it moves.
-/
import PullStreams.Session.Opening

namespace PullStreams

/-- What a start is about to do. -/
structure StartPlan where
  /-- Whether the session was stopped. -/
  fromStop : Bool
  /-- Where the session goes, if it moves. -/
  target : Option Duration
  /-- Per stream. -/
  selected : List Bool
  deriving Repr

namespace StartPlan

/-- Whether a session under way is moved. -/
def isSeek (plan : StartPlan) : Bool := !plan.fromStop && plan.target.isSome

/-- What a selected stream is told. -/
def streamEvent {τ : Type} (plan : StartPlan) : StreamEvent τ :=
  match plan.isSeek, plan.target with
  | true, some time => .seeked time
  | _, target => .started target

/-- What the source's queue hears at the end. -/
def sourceEvent (plan : StartPlan) : SourceEvent :=
  match plan.isSeek, plan.target with
  | true, some time => .seeked time
  | _, target => .started target

def selects (plan : StartPlan) (index : Nat) : Bool := plan.selected[index]?.getD false

/-- A stream's state under a start: what it was told to end with is forgotten when the session
moves or the stream joins in. -/
def applyTo {τ : Type} (plan : StartPlan) (on : Bool) (stream : StreamState τ) : StreamState τ :=
  { stream with
    isActive := on
    hasEnded := stream.hasEnded && !(plan.target.isSome || (on && !stream.isActive)) }

end StartPlan

/-- Marks the streams of `count` whose ids occur. -/
def marksOfIds (count : Nat) (ids : List UInt32) : List Bool :=
  (List.range count).map fun i => ids.any (·.toNat == i + 1)

/-- The ids that belong to none of `count` streams. -/
def foreignIds (count : Nat) (ids : List UInt32) : List UInt32 :=
  ids.filter fun id => id == 0 || decide (count < id.toNat)

namespace Session

variable {σ β τ : Type} [ByteSource σ]

/-- Where a start that gives `position` goes. -/
def startTarget (s : Session σ β τ) (position : StartPosition) : Option Duration :=
  match position with
  | .at time => some time
  | .current => if s.phase = .stopped then some .zero else none

def planStart (s : Session σ β τ) (ids : List UInt32) (position : StartPosition) : StartPlan :=
  { fromStop := s.phase = .stopped
    target := s.startTarget position
    selected := marksOfIds s.streams.length ids }

/-- What there is to complain about in a selection. -/
def selectionNotices (s : Session σ β τ) (ids : List UInt32) (plan : StartPlan) : List Notice :=
  (foreignIds s.streams.length ids).map .unknownSelection ++
    (exclusiveConflicts s.layout.descriptors plan.selected).map .exclusiveConflict

/-- Complains when a call failed. -/
def complain (complaint : SourceError → Notice) :
    Session σ β τ × Except SourceError Unit → Session σ β τ
  | (s, .error e) => s.say .executor (complaint e)
  | (s, .ok ()) => s

/-- Tells the backend not to deliver a stream. -/
def disableStream (E : Engine σ β) (s : Session σ β τ) (index : Nat) : Session σ β τ :=
  match s.resources with
  | .opened backend binding =>
    match binding.backendIndex? index with
    | none => s
    | some b =>
      complain (.disableFailed (index + 1))
        (s.callBackend binding (.disable b) (E.disable backend b))
  | _ => s

/-- Tells the backend to deliver a stream. -/
def enableStream (E : Engine σ β) (s : Session σ β τ) (index : Nat) : Session σ β τ :=
  match s.resources with
  | .opened backend binding =>
    match binding.backendIndex? index with
    | none => s.say .executor (.notBound (index + 1))
    | some b =>
      match ((E.catalog backend)[b]?).bind (·.format) with
      | none => s
      | some format =>
        complain (.enableFailed (index + 1))
          (s.callBackend binding (.enable b format) (E.enable backend b format))
  | _ => s

/-- Brings one stream to what the start wants of it. -/
def startStream (E : Engine σ β) (plan : StartPlan) (s : Session σ β τ) (index : Nat) :
    Session σ β τ :=
  let wasActive := !plan.fromStop && (s.streams[index]?.map (·.isActive)).getD false
  let s := s.updateStream index (plan.applyTo (plan.selects index))
  if plan.selects index then
    let s := s.enableStream E index
    let id := streamIdAt index
    let s := s.post (if wasActive then .updatedStream id else .newStream id)
    s.announce index plan.streamEvent
  else s.disableStream E index

/-- Moves the backend. -/
def seekBackend (E : Engine σ β) (s : Session σ β τ) (time : Duration) : Session σ β τ :=
  match s.resources with
  | .opened backend binding =>
    complain (.seekFailed time)
      (s.callBackend binding (.seek s.rate time) (E.seek backend s.rate time))
  | _ => s

/-! ### Deferred requests -/

/-- The deferred requests, stream by stream, with the stream's index. -/
def deferredRequests (s : Session σ β τ) : List (Nat × Request τ) :=
  (s.streams.mapIdx fun i stream => stream.deferred.map fun r => (i, r)).flatten

def clearDeferred (s : Session σ β τ) : Session σ β τ :=
  { s with streams := s.streams.map fun stream => { stream with deferred := [] } }

/-- Puts the deferred requests back behind all waiting commands. -/
def requeueDeferred (s : Session σ β τ) : Session σ β τ :=
  { s.clearDeferred with
    commands := s.deferredRequests.foldl
      (fun q (stream, request) => q.enqueue (.requestSample stream request)) s.commands }

/-- Gives the deferred requests up. -/
def dropDeferred (s : Session σ β τ) : Session σ β τ :=
  s.clearDeferred.recordAll (s.deferredRequests.map fun (stream, request) =>
    .dropped stream request)

/-! ### The start -/

/-- Carries a start out, with the backend open. -/
def startWith (E : Engine σ β) (s : Session σ β τ) (ids : List UInt32)
    (position : StartPosition) : Session σ β τ :=
  let plan := s.planStart ids position
  let s := s.sayAll .executor (s.selectionNotices ids plan)
  let s := (List.range s.streams.length).foldl (startStream E plan) s
  let s := plan.target.elim s (s.seekBackend E)
  let s := if plan.target.isSome then s.dropDeferred else s.requeueDeferred
  { s with
    presentationEnded := false
    selection := plan.selected
    phase := .running }.post plan.sourceEvent

/-- Executes a start. -/
def runStart (E : Engine σ β) (s : Session σ β τ) (presentation : Presentation)
    (format : TimeFormat) (position : StartPosition) :
    Session σ β τ × Except SourceError Unit :=
  if format.isDefault then
    let s := s.openResources E
    match s.resources with
    | .opened .. => (s.startWith E presentation.selectedIds position, .ok ())
    | .failed message => (s, .error (.backend message))
    | _ => (s, .error .wrongState)
  else (s, .error .unsupportedTimeFormat)

end Session
end PullStreams
