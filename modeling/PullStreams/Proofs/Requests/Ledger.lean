/-
The ledger of a session: where every request is, and which commands go before it.

Most of what a session does has no bearing on requests.  The ledger keeps what has:
the commands that wait, the requests that were put off, and those that were
accepted, answered and given up.  An action changes it in one of a few ways.

* `Ledger.Turn` — what one action may do to a ledger;
* `ledger_gist` — the ledger can be read off the gist;
* `ledger_dropDeferred`, `ledger_requeueDeferred` — what was put off is given up, or
  put back behind all waiting commands;
* `ledger_carryOut` — a start does the one or the other.
-/
import PullStreams.Proofs.Session.Transition

namespace PullStreams

namespace Entry

variable {τ : Type}

def accepted? : Entry τ → Option (Nat × Request τ)
  | accepted stream request => some (stream, request)
  | _ => none

def answered? : Entry τ → Option (Nat × Request τ)
  | answered stream request _ => some (stream, request)
  | _ => none

def dropped? : Entry τ → Option (Nat × Request τ)
  | dropped stream request => some (stream, request)
  | _ => none

end Entry

/-- Where the requests of a session are. -/
structure Ledger (τ : Type) where
  phase : Phase
  waiting : List (Envelope τ)
  inHand : Option (Envelope τ)
  submitted : Nat
  /-- Per stream, oldest first. -/
  deferred : List (List (Request τ))
  accepted : List (Nat × Request τ)
  answered : List (Nat × Request τ)
  dropped : List (Nat × Request τ)

namespace Session

variable {σ β τ : Type}

/-- The requests that were accepted so far, with their streams, in the order of their
acceptance. -/
def acceptedRequests (s : Session σ β τ) : List (Nat × Request τ) :=
  s.journal.filterMap Entry.accepted?

/-- The requests that were answered so far. -/
def answeredRequests (s : Session σ β τ) : List (Nat × Request τ) :=
  s.journal.filterMap Entry.answered?

/-- The requests that were given up so far. -/
def droppedRequests (s : Session σ β τ) : List (Nat × Request τ) :=
  s.journal.filterMap Entry.dropped?

def ledger (s : Session σ β τ) : Ledger τ :=
  { phase := s.phase
    waiting := s.commands.waiting
    inHand := s.commands.inHand
    submitted := s.commands.submitted
    deferred := s.streams.map (·.deferred)
    accepted := s.acceptedRequests
    answered := s.answeredRequests
    dropped := s.droppedRequests }

end Session

/-- The requests that commands carry, with their streams. -/
def requestsOf {τ : Type} (envelopes : List (Envelope τ)) : List (Nat × Request τ) :=
  envelopes.filterMap (·.command.request?)

/-- Requests as new commands, after `submitted` others. -/
def resubmitted {τ : Type} : (submitted : Nat) → List (Nat × Request τ) → List (Envelope τ)
  | _, [] => []
  | submitted, (stream, request) :: rest =>
    ⟨submitted + 1, .requestSample stream request⟩ :: resubmitted (submitted + 1) rest

namespace Ledger

variable {τ : Type}

/-- The commands that are not executed yet, the one in hand before those that wait. -/
def line (l : Ledger τ) : List (Envelope τ) := l.inHand.toList ++ l.waiting

/-- The requests that were put off, stream by stream. -/
def deferredRequests (l : Ledger τ) : List (Nat × Request τ) :=
  (l.deferred.mapIdx fun i requests => requests.map fun r => (i, r)).flatten

/-! ### What may happen to a ledger -/

/-- A command comes to wait behind all others. -/
def enqueue (l : Ledger τ) (command : Command τ) : Ledger τ :=
  { l with
    waiting := l.waiting ++ [⟨l.submitted + 1, command⟩]
    submitted := l.submitted + 1 }

/-- A number is used up for a command that is refused. -/
def skip (l : Ledger τ) : Ledger τ := { l with submitted := l.submitted + 1 }

/-- A request is accepted. -/
def receive (l : Ledger τ) (index : Nat) (token : Option τ) : Ledger τ :=
  let request : Request τ := ⟨l.submitted + 1, token⟩
  { l.enqueue (.requestSample index request) with accepted := l.accepted ++ [(index, request)] }

/-- The command in hand is executed; it leaves the session in `phase`. -/
def finish (l : Ledger τ) (phase : Phase) : Ledger τ := { l with phase, inHand := none }

/-- What was put off is given up. -/
def giveUp (l : Ledger τ) : Ledger τ :=
  { l with
    deferred := l.deferred.map fun _ => []
    dropped := l.dropped ++ l.deferredRequests }

/-- What was put off comes to wait behind all commands. -/
def putBack (l : Ledger τ) : Ledger τ :=
  { l with
    waiting := l.waiting ++ resubmitted l.submitted l.deferredRequests
    submitted := l.submitted + l.deferredRequests.length
    deferred := l.deferred.map fun _ => [] }

/-- A request is put off. -/
def defer (l : Ledger τ) (index : Nat) (request : Request τ) : Ledger τ :=
  { l with deferred := l.deferred.modify index fun requests => requests ++ [request] }

def answer (l : Ledger τ) (index : Nat) (request : Request τ) : Ledger τ :=
  { l with answered := l.answered ++ [(index, request)] }

def drop (l : Ledger τ) (index : Nat) (request : Request τ) : Ledger τ :=
  { l with dropped := l.dropped ++ [(index, request)] }

/-- Whether executing the command in hand puts requests back: a start of a session under way, for
where the session is. -/
def isResuming (l : Ledger τ) : Bool :=
  match l.inHand with
  | some ⟨_, .start _ format .current⟩ =>
    format.isDefault && (l.phase == .running || l.phase == .paused)
  | _ => false

theorem resuming_start {l : Ledger τ} (h : l.isResuming = true) :
    ∃ number presentation format, l.inHand = some ⟨number, .start presentation format .current⟩ ∧
      format.isDefault = true ∧ (l.phase = .running ∨ l.phase = .paused) := by
  unfold isResuming at h
  split at h
  · next number presentation format hhand =>
    obtain ⟨hformat, hphase⟩ := Bool.and_eq_true_iff.mp h
    rw [Bool.or_eq_true, beq_iff_eq, beq_iff_eq] at hphase
    exact ⟨number, presentation, format, hhand, hformat, hphase⟩
  · cases h

/-- What one action may do to a ledger, and whether it puts requests back. -/
inductive Turn (l : Ledger τ) (action : Action τ) : Bool → Ledger τ → Prop
  | rest : Turn l action false l
  | submit {command : Command τ} (hrequest : command.request? = none) :
      Turn l action false (l.enqueue command)
  | skip : Turn l action false l.skip
  | receive {index : Nat} {token : Option τ} (haction : action = .requestSample index token)
      (hindex : index < l.deferred.length) :
      Turn l action false (l.receive index token)
  | take {envelope : Envelope τ} {waiting : List (Envelope τ)} (hhand : l.inHand = none)
      (hwaiting : l.waiting = envelope :: waiting) :
      Turn l action false { l with waiting, inHand := some envelope }
  | close : Turn l action false { l with phase := .shutdown }.giveUp
  | finish {envelope : Envelope τ} {phase : Phase} (hhand : l.inHand = some envelope)
      (hrequest : envelope.command.request? = none)
      (hphase : phase = l.phase ∨ l.phase = .running ∧ phase = .paused) :
      Turn l action false (l.finish phase)
  | giveUp {envelope : Envelope τ} {phase : Phase} (hhand : l.inHand = some envelope)
      (hrequest : envelope.command.request? = none) (hphase : phase ≠ .paused) :
      Turn l action false (l.finish phase).giveUp
  | putBack {envelope : Envelope τ} (hhand : l.inHand = some envelope)
      (hrequest : envelope.command.request? = none) : Turn l action true (l.finish .running).putBack
  | defer {envelope : Envelope τ} {index : Nat} {request : Request τ}
      (hhand : l.inHand = some envelope)
      (hrequest : envelope.command.request? = some (index, request)) (hphase : l.phase = .paused) :
      Turn l action false ((l.finish l.phase).defer index request)
  | answer {envelope : Envelope τ} {index : Nat} {request : Request τ}
      (hhand : l.inHand = some envelope)
      (hrequest : envelope.command.request? = some (index, request))
      (hphase : l.phase = .running) : Turn l action false ((l.finish l.phase).answer index request)
  | drop {envelope : Envelope τ} {index : Nat} {request : Request τ}
      (hhand : l.inHand = some envelope)
      (hrequest : envelope.command.request? = some (index, request)) :
      Turn l action false ((l.finish l.phase).drop index request)

end Ledger

namespace Session

variable {σ β τ : Type}

@[simp] theorem ledger_gist (s : Session σ β τ) : s.gist.ledger = s.ledger := by
  have haccepted := filterMap_gist s (f := Entry.accepted?) (fun _ => rfl) fun _ => rfl
  have hanswered := filterMap_gist s (f := Entry.answered?) (fun _ => rfl) fun _ => rfl
  have hdropped := filterMap_gist s (f := Entry.dropped?) (fun _ => rfl) fun _ => rfl
  simp only [ledger, acceptedRequests, answeredRequests, droppedRequests, gist_phase,
    gist_commands, gist_streams, haccepted, hanswered, hdropped]

theorem deferredRequests_ledger (s : Session σ β τ) :
    s.ledger.deferredRequests = s.deferredRequests := by
  simp only [Ledger.deferredRequests, deferredRequests, ledger]
  congr 1
  refine List.ext_getElem? fun i => ?_
  simp [Function.comp_def]

theorem ledger_withPhase (s : Session σ β τ) (phase : Phase) :
    { s with phase }.ledger = { s.ledger with phase } := rfl

/-! ### Events and lines -/

@[simp] theorem ledger_post (s : Session σ β τ) (event : SourceEvent) :
    (s.post event).ledger = s.ledger := by
  simp [ledger, post, record, acceptedRequests, answeredRequests, droppedRequests,
    Entry.accepted?, Entry.answered?, Entry.dropped?]

theorem ledger_updateStream (s : Session σ β τ) (index : Nat) {f : StreamState τ → StreamState τ}
    (h : ∀ stream, (f stream).deferred = stream.deferred) :
    (s.updateStream index f).ledger = s.ledger := by
  have hdeferred : (s.streams.modify index f).map (·.deferred) = s.streams.map (·.deferred) := by
    rw [map_modify (k := id) h, List.modify_id]
  simp only [ledger, updateStream, hdeferred]
  rfl

@[simp] theorem ledger_tell (s : Session σ β τ) (index : Nat) (event : StreamEvent τ) :
    (s.tell index event).ledger = s.ledger :=
  ledger_updateStream s index fun _ => rfl

@[simp] theorem ledger_announce (s : Session σ β τ) (index : Nat) (event : StreamEvent τ) :
    (s.announce index event).ledger = s.ledger := by
  rw [← ledger_tell s index event]
  simp [ledger, announce, record, acceptedRequests, answeredRequests, droppedRequests,
    Entry.accepted?, Entry.answered?, Entry.dropped?]

@[simp] theorem ledger_answer (s : Session σ β τ) (index : Nat) (request : Request τ)
    (event : StreamEvent τ) :
    (s.answer index request event).ledger = s.ledger.answer index request := by
  rw [← ledger_tell s index event]
  simp [ledger, answer, Ledger.answer, record, acceptedRequests, answeredRequests,
    droppedRequests, Entry.accepted?, Entry.answered?, Entry.dropped?]

@[simp] theorem ledger_drop (s : Session σ β τ) (index : Nat) (request : Request τ) :
    (s.drop index request).ledger = s.ledger.drop index request := by
  simp [ledger, drop, Ledger.drop, record, acceptedRequests, answeredRequests,
    droppedRequests, Entry.accepted?, Entry.answered?, Entry.dropped?]

@[simp] theorem ledger_announceActive (s : Session σ β τ) (event : StreamEvent τ) :
    (s.announceActive event).ledger = s.ledger :=
  foldl_keeps (fun s i => ledger_announce s i event) s s.activeIndices

/-! ### What was put off -/

@[simp] theorem ledger_dropDeferred (s : Session σ β τ) :
    s.dropDeferred.ledger = s.ledger.giveUp := by
  have hlines : ∀ f : Entry τ → Option (Nat × Request τ),
      s.dropDeferred.journal.filterMap f =
        s.journal.filterMap f ++ s.deferredRequests.filterMap fun a => f (.dropped a.1 a.2) := by
    intro f
    have hjournal : s.dropDeferred.journal =
        s.journal ++ s.deferredRequests.map fun a => .dropped a.1 a.2 := rfl
    rw [hjournal, List.filterMap_append, List.filterMap_map]
    rfl
  have hnone : s.deferredRequests.filterMap (fun _ => (none : Option (Nat × Request τ))) = [] :=
    List.filterMap_eq_nil_iff.mpr fun _ _ => rfl
  have hsome : s.deferredRequests.filterMap some = s.deferredRequests := List.filterMap_some
  have hdeferred : s.dropDeferred.streams.map (·.deferred) = s.streams.map fun _ => [] :=
    List.map_map
  -- The lines are all about requests given up, so they add to that list and to no other.
  simp only [Ledger.giveUp, deferredRequests_ledger]
  simp only [ledger, acceptedRequests, answeredRequests, droppedRequests, hlines, Entry.accepted?,
    Entry.answered?, Entry.dropped?, hnone, hsome, hdeferred, List.append_nil, List.map_map]
  rfl

theorem foldl_enqueue (q : CommandQueue τ) (requests : List (Nat × Request τ)) :
    requests.foldl (fun q (stream, request) => q.enqueue (.requestSample stream request)) q =
      { q with
        waiting := q.waiting ++ resubmitted q.submitted requests
        submitted := q.submitted + requests.length } := by
  induction requests generalizing q with
  | nil => simp [resubmitted]
  | cons a requests ih =>
    obtain ⟨stream, request⟩ := a
    rw [List.foldl_cons, ih]
    simp [CommandQueue.enqueue, CommandQueue.nextNumber, resubmitted, Nat.add_assoc,
      Nat.add_comm 1]

@[simp] theorem ledger_requeueDeferred (s : Session σ β τ) :
    s.requeueDeferred.ledger = s.ledger.putBack := by
  simp only [requeueDeferred, foldl_enqueue, ledger, clearDeferred, Ledger.putBack, List.map_map,
    ← deferredRequests_ledger]
  rfl

@[simp] theorem ledger_defer (s : Session σ β τ) (index : Nat) (request : Request τ) :
    (s.defer index request).ledger = s.ledger.defer index request := by
  have hdeferred := map_modify (f := fun stream : StreamState τ =>
      { stream with deferred := stream.deferred ++ [request] })
    (g := (·.deferred)) (k := (· ++ [request])) (fun _ => rfl) s.streams index
  simp only [ledger, defer, updateStream, Ledger.defer, hdeferred]
  rfl

/-! ### Answers -/

@[simp] theorem ledger_endPresentation (s : Session σ β τ) :
    s.endPresentation.ledger = s.ledger := by
  unfold endPresentation
  split
  · exact ledger_post ..
  · rfl

@[simp] theorem ledger_endStream (s : Session σ β τ) (index : Nat) (request : Request τ) :
    (s.endStream index request).ledger = s.ledger.answer index request := by
  have hupdate := ledger_updateStream s index
    (f := fun stream => { stream with hasEnded := true }) fun _ => rfl
  rw [endStream, ledger_endPresentation, ledger_answer, hupdate]

/-- Whatever a pull gave, its request is answered or given up. -/
theorem ledger_answerWith (s : Session σ β τ) (index : Nat) (request : Request τ)
    (result : Except SourceError (Option Buffer)) :
    (s.answerWith index request result).1.ledger = s.ledger.answer index request ∨
      (s.answerWith index request result).1.ledger = s.ledger.drop index request := by
  match result with
  | .ok (some buffer) =>
    simp only [answerWith]
    split
    · exact .inr (ledger_drop ..)
    · exact .inl (ledger_answer ..)
  | .ok none => exact .inl (ledger_endStream ..)
  | .error e => exact .inl (ledger_answer ..)

/-! ### Starts -/

@[simp] theorem ledger_bring (plan : StartPlan) (s : Session σ β τ) (index : Nat) :
    (s.bring plan index).ledger = s.ledger := by
  have hupdate := ledger_updateStream s index (f := plan.applyTo (plan.selects index)) fun _ => rfl
  simp only [bring]
  split
  · rw [ledger_announce, ledger_post, hupdate]
  · exact hupdate

/-- A start clears what was put off when it moves the session, and otherwise puts it back. -/
theorem ledger_carryOut (s : Session σ β τ) (plan : StartPlan) :
    (s.carryOut plan).ledger =
      { (if plan.target.isSome then s.ledger.giveUp else s.ledger.putBack) with
        phase := .running } := by
  have hbrought := foldl_keeps (ledger_bring plan) s (List.range s.streams.length)
  simp only [carryOut, ledger_post]
  split
  · rw [← hbrought, ← ledger_dropDeferred]
    rfl
  · rw [← hbrought, ← ledger_requeueDeferred]
    rfl

/-! ### Calls and consumers -/

@[simp] theorem ledger_enqueue (s : Session σ β τ) (command : Command τ) :
    (s.enqueue command).ledger = s.ledger.enqueue command := rfl

@[simp] theorem ledger_receive (s : Session σ β τ) (index : Nat) (token : Option τ) :
    (s.receive index token).ledger = s.ledger.receive index token := by
  simp [ledger, receive, enqueue, Ledger.receive, Ledger.enqueue, CommandQueue.enqueue,
    CommandQueue.nextNumber, record, acceptedRequests, answeredRequests, droppedRequests,
    Entry.accepted?, Entry.answered?, Entry.dropped?]

@[simp] theorem ledger_emptyHanded (s : Session σ β τ) :
    s.emptyHanded.ledger = s.ledger.finish s.phase := rfl

@[simp] theorem ledger_nextStreamEvent (s : Session σ β τ) (index : Nat) :
    (s.nextStreamEvent index).1.ledger = s.ledger := by
  simp only [nextStreamEvent]
  split
  · rfl
  · exact ledger_updateStream s index fun _ => rfl

@[simp] theorem ledger_queueStreamEvent (s : Session σ β τ) (index : Nat)
    (event : StreamEvent τ) : (s.queueStreamEvent index event).1.ledger = s.ledger := by
  simp only [queueStreamEvent]
  split
  · rfl
  · exact ledger_updateStream s index fun _ => rfl

theorem ledger_close (s : Session σ β τ) :
    s.close.ledger = { s.ledger with phase := .shutdown }.giveUp := by
  set quiet : Session σ β τ := { s with phase := .shutdown, resources := .released } with hquiet
  have hdropped : quiet.dropDeferred.ledger = { s.ledger with phase := .shutdown }.giveUp :=
    ledger_dropDeferred quiet
  rw [← hdropped]
  -- Shutting the queues of the streams leaves what they put off alone.
  simp only [close, shutQueues, ledger, List.map_map]
  rfl

end Session
end PullStreams
