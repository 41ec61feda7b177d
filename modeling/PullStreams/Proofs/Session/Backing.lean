/-
The life of a session's backend.

A backend is created and connected in one attempt, then it works, and at last it is let
go.  How far that has come, and what was called for it, is the backing of a session
(`Session.backing`).  Whatever a backend answers, and whatever its computations are
replied, the backing takes only few kinds of turns:

* `Engine.Leads` — where operations may lead a connected backend;
* `Engine.Attempt` — what an attempt to open a backend may come to, and what it calls;
* `Backing.Turn` — all that one action may do to the backing;
* `backing_step`, `backing_induction` — every action is such a turn, and what holds of
  the backing of an opened session and every turn keeps, holds of whatever can be reached.
-/
import PullStreams.Proofs.Session.Transition

namespace PullStreams

/-- What a computation may come to, whatever is replied to its requests. -/
inductive Pull.CanGive {α : Type} : Pull α → α → Prop
  | done {a : α} : CanGive (.done a) a
  | ask {request : ReadRequest} {resume : Option Chunk → Pull α} {a : α} (reply : Option Chunk)
      (h : CanGive (resume reply) a) : CanGive (.ask request resume) a

theorem Pull.canGive_run {α φ : Type} (answer : φ → ReadRequest → φ × Option Chunk) (p : Pull α)
    (feed : φ) : p.CanGive (p.run answer feed).2 := by
  induction p generalizing feed with
  | done a => exact .done
  | ask request resume ih =>
    exact .ask (answer feed request).2 (ih (answer feed request).2 (answer feed request).1)

theorem Pull.canGive_unanswered {α : Type} (p : Pull α) : p.CanGive p.unanswered := by
  induction p with
  | done a => exact .done
  | ask request resume ih => exact .ask none (ih none)

/-- Whether a call belongs to an attempt to open a backend. -/
def Call.isOpening : Call → Bool
  | .create | .connect _ => true
  | _ => false

/-- Whether a call lets the backend or the byte source go. -/
def Call.isReleasing : Call → Bool
  | .disconnect | .close => true
  | _ => false

theorem Call.isOpening_of_isReleasing {call : Call} (h : call.isReleasing = true) :
    call.isOpening = false := by
  cases call with
  | disconnect | close => rfl
  | _ => cases h

/-! ### What backends do -/

namespace Engine

variable {σ β : Type} {E : Engine σ β}

/-- What one operation may make of a connected backend. -/
inductive Operates (E : Engine σ β) (backend : β) : Call → β → Prop
  | enable {index : Nat} {format : MediaFormat} {outcome : Outcome β Unit}
      (h : (E.enable backend index format).CanGive outcome) :
      Operates E backend (.enable index format) outcome.after
  | disable {index : Nat} {outcome : Outcome β Unit}
      (h : (E.disable backend index).CanGive outcome) :
      Operates E backend (.disable index) outcome.after
  | seek {rate : Number.Single} {time : Duration} {outcome : Outcome β Unit}
      (h : (E.seek backend rate time).CanGive outcome) :
      Operates E backend (.seek rate time) outcome.after
  | pull {index : Nat} {outcome : Outcome β (Option Buffer)}
      (h : (E.pull backend index).CanGive outcome) :
      Operates E backend (.pull index) outcome.after

/-- Where a list of operations may lead a connected backend. -/
inductive Leads (E : Engine σ β) : β → List Call → β → Prop
  | nil {backend : β} : Leads E backend [] backend
  | cons {backend next last : β} {call : Call} {calls : List Call} (h : E.Operates backend call next)
      (hrest : Leads E next calls last) : Leads E backend (call :: calls) last

theorem Operates.leads {backend next : β} {call : Call} (h : E.Operates backend call next) :
    E.Leads backend [call] next := .cons h .nil

theorem Leads.append {backend next last : β} {calls more : List Call}
    (h : E.Leads backend calls next) (hmore : E.Leads next more last) :
    E.Leads backend (calls ++ more) last := by
  induction h with
  | nil => exact hmore
  | cons h _ ih => exact .cons h (ih hmore)

/-- No operation opens a backend. -/
theorem Leads.isOpening {backend next : β} {calls : List Call} (h : E.Leads backend calls next) :
    ∀ call ∈ calls, call.isOpening = false := by
  induction h with
  | nil => exact fun call hmem => absurd hmem List.not_mem_nil
  | cons h _ ih =>
    refine List.forall_mem_cons.mpr ⟨?_, ih⟩
    cases h <;> rfl

/-- What an attempt to open a backend for a layout, over so many bytes, may come to, and what it
calls: the backend or its feeder cannot be had, or it does not connect, or it does and the layout is
bound to its streams. -/
inductive Attempt (E : Engine σ β) (layout : Layout) (size : Nat) : Resources β → List Call → Prop
  | notCreated {e : SourceError} (hcreate : E.create = .error e) :
      Attempt E layout size (.failed e.message) [.create]
  | notFed {backend : β} {e : IoError} (hcreate : E.create = .ok backend)
      (hspawn : E.spawnFeeder = .error e) :
      Attempt E layout size (.failed (SourceError.io e).message) [.create]
  | notConnected {backend : β} {outcome : Outcome β Unit} {e : SourceError}
      (hcreate : E.create = .ok backend) (hspawn : E.spawnFeeder = .ok ())
      (hconnect : (E.connect backend size).CanGive outcome) (hresult : outcome.result = .error e) :
      Attempt E layout size (.failed e.message) [.create, .connect size, .disconnect]
  | opened {backend : β} {outcome : Outcome β Unit} (hcreate : E.create = .ok backend)
      (hspawn : E.spawnFeeder = .ok ()) (hconnect : (E.connect backend size).CanGive outcome)
      (hresult : outcome.result = .ok ()) :
      Attempt E layout size (.opened outcome.after (layout.bind (E.catalog outcome.after)))
        [.create, .connect size]

end Engine

/-! ### Backings -/

/-- How far the life of a backend has come, what was called for it, and what it is opened with. -/
structure Backing (β : Type) where
  resources : Resources β
  /-- Whether the executor broke off. -/
  executorBroke : Bool
  isShut : Bool
  layout : Layout
  info : MediaInfo
  /-- Oldest first. -/
  calls : List Call

namespace Backing

variable {σ β : Type} {E : Engine σ β} {b c d : Backing β}

/-- Whether nobody has tried to open a backend. -/
def IsUntouched (b : Backing β) : Prop := b.resources = .unopened ∧ b.executorBroke = false

/-- An opened backend may work; where there is none, nothing happens. -/
inductive Works (E : Engine σ β) (b : Backing β) : Backing β → Prop
  | rest : Works E b b
  | operate {backend after : β} {binding : Binding} {calls : List Call}
      (hopened : b.resources = .opened backend binding) (h : E.Leads backend calls after) :
      Works E b { b with resources := .opened after binding, calls := b.calls ++ calls }

theorem Works.trans (h : b.Works E c) (h' : c.Works E d) : b.Works E d := by
  cases h with
  | rest => exact h'
  | @operate backend after binding calls hopened h =>
    cases h' with
    | rest => exact .operate hopened h
    | @operate backend' after' binding' calls' hopened' h' =>
      obtain ⟨rfl, rfl⟩ := Resources.opened.inj hopened'
      rw [List.append_assoc]
      exact .operate hopened (h.append h')

/-- Work changes the stage of the backend and the calls, and nothing else. -/
theorem Works.same (h : b.Works E c) :
    c = { b with resources := c.resources, calls := c.calls } := by
  cases h <;> rfl

theorem Works.isShut (h : b.Works E c) : c.isShut = b.isShut := by rw [h.same]

/-- All that one action may do to the backing, by whether it executes a start that is accepted. -/
inductive Turn (E : Engine σ β) (b : Backing β) (starts : Prop) : Backing β → Prop
  -- A start does more than to work where nobody has tried to open a backend.
  | works {c : Backing β} (hstarts : starts → ¬b.IsUntouched) (h : b.Works E c) : Turn E b starts c
  -- It tries, and a backend that it has opened goes on to work at once.
  | attempt {r : Resources β} {calls : List Call} {c : Backing β} (hstarts : starts)
      (hfrom : b.IsUntouched) (hattempt : E.Attempt b.layout b.info.size r calls)
      (h : Works E { b with resources := r, calls := b.calls ++ calls } c) : Turn E b starts c
  -- Without a name for its feeder the backend is created in vain, and the executor is gone.
  | breakOff (hstarts : starts) (hfrom : b.IsUntouched) :
      Turn E b starts { b with executorBroke := true, calls := b.calls ++ [.create] }
  -- A shutdown comes once, and calls for no opening.
  | release {calls : List Call} (hstarts : ¬starts) (halive : b.isShut = false)
      (hcalls : ∀ call ∈ calls, call.isOpening = false) :
      Turn E b starts
        { b with resources := .released, isShut := true, calls := b.calls ++ calls }

/-- What a backend is opened with stays as it is. -/
theorem Turn.same {starts : Prop} (h : b.Turn E starts c) :
    c.layout = b.layout ∧ c.info = b.info := by
  cases h with
  | works _ h | attempt _ _ _ h =>
    rw [h.same]
    exact ⟨rfl, rfl⟩
  | breakOff _ _ | release _ _ _ => exact ⟨rfl, rfl⟩

end Backing

namespace Session

variable {σ β τ α : Type}

/-- The calls that were made so far, oldest first. -/
def calls (s : Session σ β τ) : List Call := s.journal.filterMap Entry.call?

def backing (s : Session σ β τ) : Backing β :=
  { resources := s.resources, executorBroke := s.executorBroke, isShut := s.phase == .shutdown
    layout := s.layout, info := s.info, calls := s.calls }

/-- The backing of a session whose backend has come to another stage. -/
theorem backing_withResources (s : Session σ β τ) (r : Resources β) :
    { s with resources := r }.backing = { s.backing with resources := r } := rfl

/-- A session that is alive stays so in another phase. -/
theorem backing_withPhase (s : Session σ β τ) {phase : Phase} (hphase : phase ≠ .shutdown)
    (halive : s.backing.isShut = false) : { s with phase }.backing = s.backing := by
  have hshut : (phase == .shutdown) = s.backing.isShut := by rw [halive, beq_false_of_ne hphase]
  exact congrArg (fun isShut => { s.backing with isShut }) hshut

/-! ### What leaves the backing alone -/

theorem backing_recordAll (s : Session σ β τ) {entries : List (Entry τ)}
    (h : ∀ e ∈ entries, e.call? = none) : (s.recordAll entries).backing = s.backing := by
  have hnone : entries.filterMap Entry.call? = [] := List.filterMap_eq_nil_iff.mpr h
  simp only [backing, calls, recordAll, List.filterMap_append, hnone, List.append_nil]

theorem backing_record (s : Session σ β τ) {e : Entry τ} (h : e.call? = none) :
    (s.record e).backing = s.backing :=
  backing_recordAll s fun _ he => List.mem_singleton.mp he ▸ h

@[simp] theorem backing_noteCall (s : Session σ β τ) (call : Call) :
    (s.noteCall call).backing = { s.backing with calls := s.backing.calls ++ [call] } := by
  simp only [backing, calls, noteCall, record, List.filterMap_append]
  rfl

@[simp] theorem backing_say (s : Session σ β τ) (party : Party) (notice : Notice) :
    (s.say party notice).backing = s.backing := backing_record s rfl

@[simp] theorem backing_sayAll (s : Session σ β τ) (party : Party) (notices : List Notice) :
    (s.sayAll party notices).backing = s.backing := by
  refine backing_recordAll s fun e he => ?_
  obtain ⟨n, _, rfl⟩ := List.mem_map.mp he
  rfl

@[simp] theorem backing_post (s : Session σ β τ) (event : SourceEvent) :
    (s.post event).backing = s.backing := backing_record { s with events := _ } rfl

@[simp] theorem backing_announce (s : Session σ β τ) (index : Nat) (event : StreamEvent τ) :
    (s.announce index event).backing = s.backing := backing_record (s.tell index event) rfl

@[simp] theorem backing_answer (s : Session σ β τ) (index : Nat) (request : Request τ)
    (event : StreamEvent τ) : (s.answer index request event).backing = s.backing :=
  backing_record (s.tell index event) rfl

@[simp] theorem backing_drop (s : Session σ β τ) (index : Nat) (request : Request τ) :
    (s.drop index request).backing = s.backing := backing_record s rfl

theorem backing_announceActive (s : Session σ β τ) (event : StreamEvent τ) :
    (s.announceActive event).backing = s.backing :=
  foldl_keeps (fun s i => backing_announce s i event) s s.activeIndices

@[simp] theorem backing_dropDeferred (s : Session σ β τ) :
    s.dropDeferred.backing = s.backing := by
  refine backing_recordAll s.clearDeferred fun e he => ?_
  obtain ⟨a, _, rfl⟩ := List.mem_map.mp he
  rfl

theorem backing_endPresentation (s : Session σ β τ) : s.endPresentation.backing = s.backing := by
  unfold endPresentation
  split
  · exact backing_post ..
  · rfl

@[simp] theorem backing_answerWith (s : Session σ β τ) (index : Nat) (request : Request τ)
    (result : Except SourceError (Option Buffer)) :
    (s.answerWith index request result).1.backing = s.backing := by
  match result with
  | .ok (some buffer) =>
    simp only [answerWith]
    split <;> simp
  | .ok none =>
    simp only [answerWith, endStream]
    rw [backing_endPresentation, backing_answer]
    rfl
  | .error e => exact backing_answer ..

@[simp] theorem backing_discard (s : Session σ β τ) (command : Command τ) :
    (s.discard command).backing = s.backing := by
  unfold discard
  split
  · exact backing_drop ..
  · rfl

@[simp] theorem backing_complain (complaint : SourceError → Notice)
    (r : Session σ β τ × Except SourceError Unit) : (complain complaint r).backing = r.1.backing := by
  obtain ⟨s, _ | _⟩ := r <;> simp [complain]

@[simp] theorem backing_releaseBackend (E : Engine σ β) (s : Session σ β τ) (party : Party)
    (backend : β) : (s.releaseBackend E party backend).backing =
      { s.backing with calls := s.backing.calls ++ [.disconnect] } := by
  simp only [releaseBackend]
  split <;> simp

/-- Work in turn is work. -/
theorem works_foldl {E : Engine σ β} {f : Session σ β τ → Nat → Session σ β τ}
    (h : ∀ (s : Session σ β τ) (index : Nat), s.backing.Works E (f s index).backing)
    (s : Session σ β τ)
    (indices : List Nat) : s.backing.Works E (indices.foldl f s).backing := by
  induction indices generalizing s with
  | nil => exact .rest
  | cons index indices ih => exact (h s index).trans (ih (f s index))

section

variable [ByteSource σ]

theorem backing_drive (s : Session σ β τ) (party : Party) (operation : Pull (Outcome β α)) :
    (s.drive party operation).1.backing = s.backing := by
  simp only [drive, backing_sayAll]
  rfl

theorem canGive_drive (s : Session σ β τ) (party : Party) (operation : Pull (Outcome β α)) :
    operation.CanGive (s.drive party operation).2 := by
  simp only [drive]
  split
  · exact Pull.canGive_run _ operation s.feeder
  · exact Pull.canGive_unanswered operation

/-! ### Work -/

theorem backing_callBackend (s : Session σ β τ) (binding : Binding) (call : Call)
    (operation : Pull (Outcome β α)) :
    (s.callBackend binding call operation).1.backing =
      { s.backing with
        resources := .opened ((s.noteCall call).drive .executor operation).2.after binding
        calls := s.backing.calls ++ [call] } := by
  simp only [callBackend, backing_withResources, backing_drive, backing_noteCall]

/-- A call of the backend is an operation of it. -/
theorem works_callBackend {E : Engine σ β} {s : Session σ β τ} {backend : β} {binding : Binding}
    (hopened : s.resources = .opened backend binding) {call : Call}
    {operation : Pull (Outcome β α)}
    (h : ∀ {outcome}, operation.CanGive outcome → E.Operates backend call outcome.after) :
    s.backing.Works E (s.callBackend binding call operation).1.backing := by
  rw [backing_callBackend]
  exact .operate hopened (h (canGive_drive ..)).leads

theorem works_disableStream (E : Engine σ β) (s : Session σ β τ) (index : Nat) :
    s.backing.Works E (s.disableStream E index).backing := by
  unfold disableStream
  split
  · next hopened =>
    split
    · exact .rest
    · rw [backing_complain]
      exact works_callBackend hopened .disable
  · exact .rest

theorem works_enableStream (E : Engine σ β) (s : Session σ β τ) (index : Nat) :
    s.backing.Works E (s.enableStream E index).backing := by
  unfold enableStream
  split
  · next hopened =>
    split
    · rw [backing_say]
      exact .rest
    · split
      · exact .rest
      · rw [backing_complain]
        exact works_callBackend hopened .enable
  · exact .rest

theorem works_seekBackend (E : Engine σ β) (s : Session σ β τ) (time : Duration) :
    s.backing.Works E (s.seekBackend E time).backing := by
  unfold seekBackend
  split
  · next hopened =>
    rw [backing_complain]
    exact works_callBackend hopened .seek
  · exact .rest

theorem works_startStream (E : Engine σ β) (plan : StartPlan) (s : Session σ β τ) (index : Nat) :
    s.backing.Works E (s.startStream E plan index).backing := by
  simp only [startStream]
  split
  · rw [backing_announce, backing_post]
    exact works_enableStream E (s.updateStream index _) index
  · exact works_disableStream E (s.updateStream index _) index

theorem works_startWith (E : Engine σ β) {s : Session σ β τ} (halive : s.phase ≠ .shutdown)
    (ids : List UInt32) (position : StartPosition) :
    s.backing.Works E (s.startWith E ids position).backing := by
  set plan := s.planStart ids position with hplan
  set told := s.sayAll .executor (s.selectionNotices ids plan) with htold
  set brought := (List.range told.streams.length).foldl (startStream E plan) told with hbrought
  set moved := plan.target.elim brought (brought.seekBackend E) with hmoved
  set cleared := if plan.target.isSome then moved.dropDeferred else moved.requeueDeferred
    with hcleared
  have hworks : s.backing.Works E cleared.backing := by
    have hbegun : told.backing = s.backing := backing_sayAll ..
    have hended : cleared.backing = moved.backing := by
      rw [hcleared]
      split
      · exact backing_dropDeferred moved
      · rfl
    have hstreams := works_foldl (works_startStream E plan) told (List.range told.streams.length)
    have hseek : brought.backing.Works E moved.backing := by
      rw [hmoved]
      cases plan.target with
      | none => exact .rest
      | some time => exact works_seekBackend E brought time
    rw [hended, ← hbegun]
    exact hstreams.trans hseek
  -- That the session runs now does not show, as it was not shut down.
  have hshut : cleared.backing.isShut = false := hworks.isShut.trans (beq_false_of_ne halive)
  have hrunning : (s.startWith E ids position).backing = cleared.backing := by
    simp only [startWith, backing_post]
    exact backing_withPhase cleared (by decide) hshut
  rw [hrunning]
  exact hworks

theorem works_deliver (E : Engine σ β) (s : Session σ β τ) (index : Nat) (request : Request τ) :
    s.backing.Works E (s.deliver E index request).1.backing := by
  unfold deliver
  split
  · next hopened =>
    split
    · rw [backing_drop]
      exact .rest
    · rw [backing_answerWith]
      exact works_callBackend hopened .pull
  · rw [backing_drop]
    exact .rest

/-! ### Opening -/

theorem attempt_connectBackend (E : Engine σ β) {s : Session σ β τ} {backend : β}
    (hcreate : E.create = .ok backend) (hspawn : E.spawnFeeder = .ok ()) :
    ∃ r more, E.Attempt s.layout s.info.size r (.create :: more) ∧
      (s.connectBackend E backend).backing =
        { s.backing with resources := r, calls := s.backing.calls ++ more } := by
  have hdrive := backing_drive (s.noteCall (.connect s.info.size)) .executor
    (E.connect backend s.info.size)
  rw [backing_noteCall] at hdrive
  have hgive := canGive_drive (s.noteCall (.connect s.info.size)) .executor
    (E.connect backend s.info.size)
  simp only [connectBackend]
  set driven := (s.noteCall (.connect s.info.size)).drive .executor (E.connect backend s.info.size)
  split
  · next e hresult =>
    refine ⟨_, _, .notConnected hcreate hspawn hgive hresult, ?_⟩
    rw [backing_withResources, backing_releaseBackend, hdrive, List.append_assoc]
    rfl
  · next hresult =>
    refine ⟨_, _, .opened hcreate hspawn hgive hresult, ?_⟩
    have hlayout : driven.1.layout = s.layout := congrArg Backing.layout hdrive
    rw [← hlayout]
    rw [bindBackend, backing_withResources, backing_say, backing_sayAll, hdrive]

/-- Opening is one attempt. -/
theorem attempt_openResources (E : Engine σ β) {s : Session σ β τ}
    (hunopened : s.resources = .unopened) :
    ∃ r calls, E.Attempt s.layout s.info.size r calls ∧
      (s.openResources E).backing =
        { s.backing with resources := r, calls := s.backing.calls ++ calls } := by
  simp only [openResources, hunopened]
  split
  · next e hcreate =>
    refine ⟨_, _, .notCreated hcreate, ?_⟩
    rw [backing_withResources, backing_noteCall]
  · next backend e hcreate hspawn =>
    refine ⟨_, _, .notFed hcreate hspawn, ?_⟩
    rw [backing_withResources, forgoBackend, backing_sayAll, backing_noteCall]
  · next backend hcreate hspawn =>
    obtain ⟨r, more, hattempt, hconnected⟩ :=
      attempt_connectBackend E (s := s.noteCall .create) hcreate hspawn
    refine ⟨r, _, hattempt, ?_⟩
    rw [hconnected, backing_noteCall, List.append_assoc]
    rfl

/-- What was tried to be opened is not opened again. -/
theorem openResources_of_ne {E : Engine σ β} {s : Session σ β τ} (h : s.resources ≠ .unopened) :
    s.openResources E = s := by
  unfold openResources
  split
  · next hunopened => exact absurd hunopened h
  · rfl

/-- After it was tried to be opened, a backend is open or failed to open. -/
theorem resources_openResources (E : Engine σ β) {s : Session σ β τ}
    (hheld : s.resources ≠ .released) :
    (∃ backend binding, (s.openResources E).resources = .opened backend binding) ∨
      ∃ message, (s.openResources E).resources = .failed message := by
  by_cases hunopened : s.resources = .unopened
  · obtain ⟨r, calls, hattempt, hopened⟩ := attempt_openResources E hunopened
    have hresources : (s.openResources E).resources = r := congrArg Backing.resources hopened
    rw [hresources]
    cases hattempt with
    | opened => exact .inl ⟨_, _, rfl⟩
    | _ => exact .inr ⟨_, rfl⟩
  · rw [openResources_of_ne hunopened]
    cases hresources : s.resources with
    | unopened => exact absurd hresources hunopened
    | released => exact absurd hresources hheld
    | opened backend binding => exact .inl ⟨backend, binding, rfl⟩
    | failed message => exact .inr ⟨message, rfl⟩

/-- A start is carried out with the backend open, or it fails and leaves what the attempt to open
the backend left, or nothing at all. -/
theorem runStart_ends (E : Engine σ β) (s : Session σ β τ) (presentation : Presentation)
    (format : TimeFormat) (position : StartPosition) :
    (∃ backend binding, (s.openResources E).resources = .opened backend binding ∧
      s.runStart E presentation format position =
        ((s.openResources E).startWith E presentation.selectedIds position, .ok ())) ∨
    ∃ t e, s.runStart E presentation format position = (t, .error e) ∧
      (t = s ∨ t = s.openResources E) := by
  unfold runStart
  split
  · dsimp only
    split
    · next backend binding hopened => exact .inl ⟨backend, binding, hopened, rfl⟩
    · exact .inr ⟨_, _, rfl, .inr rfl⟩
    · exact .inr ⟨_, _, rfl, .inr rfl⟩
  · exact .inr ⟨_, _, rfl, .inl rfl⟩

/-- A start whose format is accepted is carried out if the backend is open then, and otherwise
changes nothing but the backend. -/
theorem works_runStart (E : Engine σ β) {s : Session σ β τ} (halive : s.phase ≠ .shutdown)
    (presentation : Presentation) {format : TimeFormat} (hformat : format.isDefault = true)
    (position : StartPosition) :
    (s.openResources E).backing.Works E
      (s.runStart E presentation format position).1.backing := by
  have hopen : (s.openResources E).phase ≠ .shutdown := by
    have hphase := congrArg Session.phase (gist_openResources E s)
    rw [gist_phase] at hphase
    rwa [hphase]
  unfold runStart
  rw [if_pos hformat]
  dsimp only
  split
  · exact works_startWith E hopen presentation.selectedIds position
  · exact .rest
  · exact .rest

end

/-! ### Every action -/

/-- An action executes a start whose time format is accepted. -/
structure ExecutesStart (s : Session σ β τ) (action : Action τ) : Prop where
  isExecute : action = .execute
  isAlive : s.phase ≠ .shutdown
  works : s.executorBroke = false
  inHand : ∃ number presentation format position,
    s.commands.inHand = some ⟨number, .start presentation format position⟩ ∧
      format.isDefault = true

/-- The executor breaks off over a start that is accepted. -/
theorem stumble?_start {E : Engine σ β} {s : Session σ β τ} {command : Command τ} {backend : β}
    (h : s.stumble? E command = some backend) :
    ∃ presentation format position, command = .start presentation format position ∧
      format.isDefault = true := by
  unfold stumble? at h
  split at h
  · split at h
    · next hformat => exact ⟨_, _, _, rfl, hformat⟩
    · cases h
  · cases h

theorem backing_breakOff (E : Engine σ β) (s : Session σ β τ) (backend : β) :
    (s.breakOff E backend).backing =
      { s.backing with executorBroke := true, calls := s.backing.calls ++ [.create] } := by
  have hforgone : ((s.noteCall .create).forgoBackend E backend).backing =
      { s.backing with calls := s.backing.calls ++ [.create] } :=
    (backing_sayAll ..).trans (backing_noteCall ..)
  exact congrArg (fun b : Backing β => { b with executorBroke := true }) hforgone

variable [ByteSource σ]

theorem turn_runStart (E : Engine σ β) {s : Session σ β τ} (halive : s.phase ≠ .shutdown)
    (hworks : s.executorBroke = false) (presentation : Presentation) (format : TimeFormat)
    (position : StartPosition) :
    s.backing.Turn E (format.isDefault = true)
      (s.runStart E presentation format position).1.backing := by
  by_cases hformat : format.isDefault = true
  · have hstart := works_runStart E halive presentation hformat position
    by_cases hresources : s.resources = .unopened
    · obtain ⟨r, calls, hattempt, hopened⟩ := attempt_openResources E hresources
      rw [hopened] at hstart
      exact .attempt hformat ⟨hresources, hworks⟩ hattempt hstart
    · rw [openResources_of_ne hresources] at hstart
      exact .works (fun _ huntouched => hresources huntouched.1) hstart
  · rw [runStart, if_neg hformat]
    exact .works (fun h => absurd h hformat) .rest

theorem works_perform (E : Engine σ β) {s : Session σ β τ} (halive : s.phase ≠ .shutdown)
    {command : Command τ} (hcommand : command.isStart = false) :
    s.backing.Works E (s.perform E command).1.backing := by
  have hquiet : ∀ event, (s.announceActive event).backing.isShut = false := fun event => by
    rw [backing_announceActive]
    exact beq_false_of_ne halive
  cases command with
  | start => cases hcommand
  | pause =>
    simp only [perform, runPause]
    split
    · rw [backing_post, backing_withPhase _ (by decide) (hquiet .paused), backing_announceActive]
      exact .rest
    · exact .rest
  | stop =>
    simp only [perform, runStop]
    split
    · rw [backing_post, backing_dropDeferred, backing_withPhase _ (by decide) (hquiet .stopped),
        backing_announceActive]
      exact .rest
    · rw [backing_post, backing_dropDeferred, backing_withPhase _ (by decide) (hquiet .stopped),
        backing_announceActive]
      exact .rest
    · exact .rest
  | requestSample index request =>
    simp only [perform, runRequest]
    split
    · exact .rest
    · split
      · exact works_deliver E s index request
      · rw [backing_drop]
        exact .rest
    · rw [backing_drop]
      exact .rest
    · rw [backing_drop]
      exact .rest

theorem turn_perform (E : Engine σ β) {s : Session σ β τ} {envelope : Envelope τ}
    (hhand : s.commands.inHand = some envelope) (halive : s.phase ≠ .shutdown)
    (hworks : s.executorBroke = false) :
    s.backing.Turn E (s.ExecutesStart .execute)
      (s.emptyHanded.perform E envelope.command).1.backing := by
  obtain ⟨number, command⟩ := envelope
  cases hstart : command.isStart with
  | true =>
    cases command with
    | start presentation format position =>
      have hstarts : s.ExecutesStart .execute ↔ format.isDefault = true := by
        refine ⟨fun h => ?_, fun h => ⟨rfl, halive, hworks, _, _, _, _, hhand, h⟩⟩
        obtain ⟨_, _, _, _, hhand', hformat⟩ := h.inHand
        cases hhand.symm.trans hhand'
        exact hformat
      rw [propext hstarts]
      exact turn_runStart E (s := s.emptyHanded) halive hworks presentation format position
    | _ => cases hstart
  | false =>
    refine .works (fun hstarts => ?_) (works_perform E (s := s.emptyHanded) halive hstart)
    obtain ⟨_, _, _, _, hhand', _⟩ := hstarts.inHand
    cases hhand.symm.trans hhand'
    cases hstart

/-- Whether a command succeeds or fails, the backing is what the command left. -/
theorem backing_execute {E : Engine σ β} {s : Session σ β τ} {envelope : Envelope τ}
    (hhand : s.commands.inHand = some envelope)
    (hlate : ¬(s.phase = .shutdown ∨ s.executorBroke = true))
    (hsteady : s.emptyHanded.stumble? E envelope.command = none) :
    (s.execute E).backing = (s.emptyHanded.perform E envelope.command).1.backing := by
  rw [execute_of_hand E hhand, if_neg hlate, hsteady]
  dsimp only
  split
  · next t hresult => rw [hresult]
  · next t e hresult => rw [hresult, backing_say]

theorem turn_execute (E : Engine σ β) (s : Session σ β τ) :
    s.backing.Turn E (s.ExecutesStart .execute) (s.execute E).backing := by
  cases hhand : s.commands.inHand with
  | none =>
    have hsame : s.execute E = s := by rw [execute, hhand]
    rw [hsame]
    refine .works (fun hstarts => ?_) .rest
    obtain ⟨_, _, _, _, hhand', _⟩ := hstarts.inHand
    cases hhand.symm.trans hhand'
  | some envelope =>
    by_cases hlate : s.phase = .shutdown ∨ s.executorBroke = true
    · rw [execute_of_hand E hhand, if_pos hlate, backing_discard]
      exact .works (fun hstarts => by simp [hstarts.isAlive, hstarts.works] at hlate) .rest
    · obtain ⟨halive, hnot⟩ := not_or.mp hlate
      have hworks : s.executorBroke = false := Bool.eq_false_iff.mpr hnot
      cases hstumble : s.emptyHanded.stumble? E envelope.command with
      | some backend =>
        obtain ⟨number, command⟩ := envelope
        obtain ⟨presentation, format, position, rfl, hformat⟩ := stumble?_start hstumble
        rw [execute_of_hand E hhand, if_neg hlate, hstumble, backing_breakOff]
        exact .breakOff ⟨rfl, halive, hworks, _, _, _, _, hhand, hformat⟩
          ⟨(stumble?_eq_some hstumble).2, hworks⟩
      | none =>
        rw [backing_execute hhand hlate hstumble]
        exact turn_perform E hhand halive hworks

/-! ### Shutting down -/

omit [ByteSource σ] in
theorem backing_releaseResources (E : Engine σ β) (s : Session σ β τ) :
    ∃ calls, (∀ call ∈ calls, call.isReleasing = true) ∧ (s.releaseResources E).backing =
      { s.backing with resources := .released, calls := s.backing.calls ++ calls } := by
  simp only [releaseResources, backing_withResources]
  split
  · refine ⟨[.disconnect], by decide, ?_⟩
    rw [backing_releaseBackend]
  · exact ⟨[], by decide, by rw [List.append_nil]⟩

omit [ByteSource σ] in
theorem backing_joinExecutor (s : Session σ β τ) : s.joinExecutor.backing = s.backing := by
  unfold joinExecutor
  split
  · exact backing_say ..
  · rfl

/-- A shutdown lets the backend and the byte source go. -/
theorem backing_shutdown (E : Engine σ β) {s : Session σ β τ} (halive : s.phase ≠ .shutdown) :
    ∃ calls, (∀ call ∈ calls, call.isReleasing = true) ∧ (s.shutdown E).1.backing =
      { s.backing with
        resources := .released, isShut := true, calls := s.backing.calls ++ calls } := by
  set quiet := { s.say .caller .shuttingDown with phase := .shutdown } with hquiet
  set shut := (quiet.releaseResources E).closeSource.shutQueues with hshut
  have hbegun : quiet.backing = { s.backing with isShut := true } :=
    congrArg (fun b : Backing β => { b with isShut := true }) (backing_say ..)
  obtain ⟨calls, hcalls, hreleased⟩ := backing_releaseResources E quiet
  have hclosed : shut.backing =
      { (quiet.releaseResources E).backing with
        calls := (quiet.releaseResources E).backing.calls ++ [.close] } :=
    (backing_dropDeferred (quiet.releaseResources E).closeSource).trans (backing_noteCall ..)
  refine ⟨calls ++ [.close], List.forall_mem_append.mpr ⟨hcalls, by decide⟩, ?_⟩
  rw [shutdown, if_neg halive]
  calc ({ shut with commands := shut.commands.close }.joinExecutor).backing
      = shut.backing := backing_joinExecutor _
    _ = _ := by rw [hclosed, hreleased, hbegun, List.append_assoc]

/-! ### Every action -/

omit [ByteSource σ] in
theorem backing_submit (s : Session σ β τ) (command : Command τ) :
    (s.submit command).1.backing = s.backing := by
  rw [submit_eq]
  split <;> rfl

theorem backing_command (E : Engine σ β) (s : Session σ β τ) {action : Action τ}
    {command : Command τ} (h : action.command? = some command) :
    (s.step E action).backing = s.backing := by
  rw [step]
  rcases act_of_command E s h with ⟨e, hsame⟩ | ⟨_, hsubmit⟩
  · rw [hsame]
  · rw [hsubmit]
    exact backing_submit s command

omit [ByteSource σ] in
theorem backing_requestSample (s : Session σ β τ) (index : Nat) (token : Option τ) :
    (s.requestSample index token).1.backing = s.backing := by
  obtain ⟨e, hsame⟩ | ⟨_, _, haccept⟩ := requestSample_cases s index token
  · rw [hsame]
  · rw [haccept, acceptRequest_eq]
    split
    · exact backing_record (s.enqueue _) rfl
    · rfl

/-- Only the executor and the shutdown touch the backing. -/
theorem backing_act (E : Engine σ β) (s : Session σ β τ) {action : Action τ}
    (hexecute : action ≠ .execute) (hshutdown : action ≠ .shutdown) :
    (s.step E action).backing = s.backing := by
  cases action with
  | execute => exact absurd rfl hexecute
  | shutdown => exact absurd rfl hshutdown
  | start presentation format position | pause | stop => exact backing_command E s rfl
  | requestSample index token => exact backing_requestSample s index token
  | setRate thin rate =>
    simp only [step, act, setRate]
    split
    · rfl
    · split
      · rfl
      · exact backing_post ..
  | nextEvent | queueEvent | take => rfl
  | nextStreamEvent index =>
    simp only [step, act, forget, nextStreamEvent]
    split <;> rfl
  | queueStreamEvent index event =>
    simp only [step, act, queueStreamEvent]
    split <;> rfl
  | feed request =>
    simp only [step, act, feed]
    split
    · exact backing_sayAll ..
    · rfl

theorem backing_step (E : Engine σ β) (s : Session σ β τ) (action : Action τ) :
    s.backing.Turn E (s.ExecutesStart action) (s.step E action).backing := by
  by_cases hexecute : action = .execute
  · rw [hexecute]
    exact turn_execute E s
  · have hstarts : ¬s.ExecutesStart action := fun h => hexecute h.isExecute
    by_cases hshutdown : action = .shutdown
    · rw [hshutdown] at hstarts ⊢
      by_cases halive : s.phase = .shutdown
      · have hsame : s.step E .shutdown = s := by simp [step, act, shutdown, halive]
        rw [hsame]
        exact .works (fun h => absurd h hstarts) .rest
      · obtain ⟨calls, hcalls, hshut⟩ := backing_shutdown E halive
        have hstep : (s.step E .shutdown).backing = _ := hshut
        rw [hstep]
        exact .release hstarts (beq_false_of_ne halive)
          fun call hmem => Call.isOpening_of_isReleasing (hcalls call hmem)
    · rw [backing_act E s hexecute hshutdown]
      exact .works (fun h => absurd h hstarts) .rest

/-! ### What can be reached -/

/-- A session begins with a layout of some streams, with no backend, and with a probe. -/
theorem backing_ofSource {E : Engine σ β} {config : SourceConfig} {source : σ}
    {s : Session σ β τ} (h : ofSource E config source = .ok s) :
    ∃ policy catalog info, (Layout.plan policy catalog).isEmpty = false ∧
      s.backing = { resources := .unopened, executorBroke := false, isShut := false
                    layout := .plan policy catalog, info
                    calls := [.probe config.probeChunkSize] } := by
  unfold ofSource at h
  split at h
  · cases h
  · split at h
    · cases h
    · next size _ =>
      set probe := E.probe config.probeChunkSize source with hprobe
      cases hresult : probe.result with
      | error e => simp [hresult, Except.bind, Except.mapError] at h
      | ok found =>
        simp only [hresult, Except.bind, ofProbe] at h
        split at h
        · simp [Except.mapError] at h
        · next hsome =>
          simp only [Except.mapError, Except.ok.injEq] at h
          subst h
          set policy := config.policyFor found.mimeType
          set info : MediaInfo := ⟨found.mimeType, size, found.duration⟩
          refine ⟨policy, found.streams, info, Bool.eq_false_iff.mpr hsome, ?_⟩
          -- The lines of the probe are a call and what was said.
          set begun : Session σ β τ :=
            fresh config info (Layout.plan policy found.streams) probe.after
          rw [backing_say]
          exact (backing_sayAll (begun.noteCall _) .caller probe.notices).trans
            (backing_noteCall begun _)

/-- What every turn keeps, a run keeps. -/
theorem backing_run {E : Engine σ β} {P : Backing β → Prop}
    (hturn : ∀ {b c : Backing β} {starts : Prop}, P b → b.Turn E starts c → P c)
    {s : Session σ β τ} (h : P s.backing) (actions : List (Action τ)) :
    P (s.run E actions).backing := by
  induction actions generalizing s with
  | nil => exact h
  | cons action actions ih => exact ih (hturn h (backing_step E s action))

/-- Whatever is done, the streams are laid out as at the beginning, over the same bytes. -/
theorem same_run (E : Engine σ β) (s : Session σ β τ) (actions : List (Action τ)) :
    (s.run E actions).layout = s.layout ∧ (s.run E actions).info = s.info := by
  refine backing_run (P := fun b => b.layout = s.layout ∧ b.info = s.info) ?_ ⟨rfl, rfl⟩ actions
  intro b c starts hb hturn
  rw [hturn.same.1, hturn.same.2]
  exact hb

/-- What the backing of every session has that was just opened, and every turn keeps, the backing of
whatever can be reached has. -/
theorem backing_induction {E : Engine σ β} {P : Backing β → Prop}
    (hopened : ∀ (policy : OrderPolicy) (catalog : Catalog) (info : MediaInfo) (chunkSize : Nat),
      (Layout.plan policy catalog).isEmpty = false →
        P { resources := .unopened, executorBroke := false, isShut := false
            layout := .plan policy catalog, info, calls := [.probe chunkSize] })
    (hturn : ∀ {b c : Backing β} {starts : Prop}, P b → b.Turn E starts c → P c)
    {s : Session σ β τ} (h : Reachable E s) : P s.backing := by
  induction h with
  | @opened config _ _ h =>
    obtain ⟨policy, catalog, info, hsome, hbegun⟩ := backing_ofSource h
    exact hbegun ▸ hopened policy catalog info _ hsome
  | step _ action ih => exact hturn ih (backing_step E _ action)

end Session
end PullStreams
