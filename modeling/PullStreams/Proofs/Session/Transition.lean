/-
What one action does to the gist of a session.

Three relations between gists say all that a command, the executor and an action can
do, whatever the engine and the byte source are.  Proofs about sessions go by their
cases, and open no function that calls a backend:

* `performs_perform` — carrying a command out is one of `Performs`;
* `executes_execute` — the executor's step is one of `Executes`;
* `moves_step` — every action is one of `Moves`;
* `gist_induction` — what the gist of an opened session has and every move keeps, the
  gist of whatever can be reached has.
-/
import PullStreams.ByteSource.Scripted
import PullStreams.Engine.Scripted
import PullStreams.Proofs.Session.Gist

namespace PullStreams

namespace Action

variable {τ : Type} {action : Action τ} {command : Command τ}

/-- The command that a call to start, pause or stop is to submit. -/
def command? : Action τ → Option (Command τ)
  | .start presentation format position => some (.start presentation format position)
  | .pause => some .pause
  | .stop => some .stop
  | _ => none

theorem ne_execute_of_command (h : action.command? = some command) : action ≠ .execute := by
  rintro rfl
  cases h

theorem request?_of_command (h : action.command? = some command) : command.request? = none := by
  cases action with
  | start | pause | stop =>
    obtain rfl := Option.some.inj h
    rfl
  | _ => cases h

end Action

namespace Session

variable {σ β τ : Type}

/-! ### Carrying out a command -/

/-- How a command may change a session, the backend apart. -/
inductive Performs (g : Session Unit Unit τ) : Command τ → Session Unit Unit τ → Prop
  | start {presentation : Presentation} {format : TimeFormat} {position : StartPosition}
      {binding : Binding} (hformat : format.isDefault = true)
      (hfrom : g.resources = .unopened ∨ g.resources = .opened () binding) :
      Performs g (.start presentation format position)
        ({ g with resources := .opened () binding }.carryOut
          (g.planStart presentation.selectedIds position))
  | noStart {presentation : Presentation} {format : TimeFormat} {position : StartPosition}
      {r : Resources Unit}
      (hfrom : format.isDefault = true → g.resources = .unopened ∨ r = g.resources)
      (hsame : format.isDefault = false → r = g.resources)
      (hclosed : format.isDefault = true → ∀ binding, r ≠ .opened () binding) :
      Performs g (.start presentation format position) { g with resources := r }
  | pause (hphase : g.phase = .running) :
      Performs g .pause ({ g.announceActive .paused with phase := .paused }.post .paused)
  | noPause (hphase : g.phase ≠ .running) : Performs g .pause g
  | stop (hphase : g.phase = .running ∨ g.phase = .paused) :
      Performs g .stop
        ({ g.announceActive .stopped with phase := .stopped }.dropDeferred.post .stopped)
  | noStop (hphase : g.phase ≠ .running ∧ g.phase ≠ .paused) : Performs g .stop g
  | defer {index : Nat} {request : Request τ} (hphase : g.phase = .paused) :
      Performs g (.requestSample index request) (g.defer index request)
  | answer {index : Nat} {request : Request τ} (hphase : g.phase = .running)
      (hserves : g.serves index = true) (result : Except SourceError (Option Buffer)) :
      Performs g (.requestSample index request) (g.answerWith index request result).1
  | drop {index : Nat} {request : Request τ} (hphase : g.phase ≠ .paused) :
      Performs g (.requestSample index request) (g.drop index request)

/-- How a start ends: it is carried out with the backend open, or it fails and leaves all but the
backend's stage as it was. -/
theorem runStart_cases [ByteSource σ] (E : Engine σ β) (s : Session σ β τ)
    (presentation : Presentation) (format : TimeFormat) (position : StartPosition) :
    (∃ binding, (s.runStart E presentation format position).2 = .ok () ∧
      format.isDefault = true ∧
      (s.gist.resources = .unopened ∨ s.gist.resources = .opened () binding) ∧
      (s.runStart E presentation format position).1.gist =
        { s.gist with resources := .opened () binding }.carryOut
          (s.gist.planStart presentation.selectedIds position)) ∨
    (∃ r e, (s.runStart E presentation format position).2 = .error e ∧
      (format.isDefault = true → s.gist.resources = .unopened ∨ r = s.gist.resources) ∧
      (format.isDefault = false → r = s.gist.resources) ∧
      (format.isDefault = true → ∀ binding, r ≠ .opened () binding) ∧
      (s.runStart E presentation format position).1.gist = { s.gist with resources := r }) := by
  have hopen := gist_openResources E s
  -- What is not unopened is not opened again.
  have hfrom : s.gist.resources = .unopened ∨ (s.openResources E).resources = s.resources := by
    rw [gist_resources]
    cases hr : s.resources with
    | unopened => exact .inl rfl
    | _ => exact .inr (by rw [openResources, hr]; simpa using hr)
  unfold runStart
  by_cases hformat : format.isDefault = true
  · have hnot : ¬format.isDefault = false := by simp [hformat]
    rw [if_pos hformat]
    dsimp only
    split
    · next backend binding h =>
      refine .inl ⟨binding, rfl, hformat, hfrom.imp_right fun heq => ?_, ?_⟩
      · rw [gist_resources, ← heq, h]
        rfl
      · rw [gist_startWith, hopen, h]
        rfl
    · next message h =>
      refine .inr ⟨_, _, rfl, fun _ => hfrom.imp_right fun heq => ?_, fun hf => absurd hf hnot,
        fun _ => ?_, hopen⟩
      · rw [heq, gist_resources]
      · rw [h]
        simp [Resources.shape]
    · next hne _ =>
      refine .inr ⟨_, _, rfl, fun _ => hfrom.imp_right fun heq => ?_, fun hf => absurd hf hnot,
        fun _ binding hb => ?_, hopen⟩
      · rw [heq, gist_resources]
      · cases hr : (s.openResources E).resources with
        | opened backend binding' => exact hne _ _ hr
        | _ => simp [hr, Resources.shape] at hb
  · rw [if_neg hformat]
    exact .inr ⟨s.gist.resources, _, rfl, fun hf => absurd hf hformat, fun _ => rfl,
      fun hf => absurd hf hformat, rfl⟩

theorem performs_runStart [ByteSource σ] (E : Engine σ β) (s : Session σ β τ)
    (presentation : Presentation) (format : TimeFormat) (position : StartPosition) :
    Performs s.gist (.start presentation format position)
      (s.runStart E presentation format position).1.gist := by
  rcases runStart_cases E s presentation format position with
    ⟨binding, _, hformat, hfrom, hgist⟩ | ⟨r, _, _, hfrom, hsame, hclosed, hgist⟩
  · rw [hgist]
    exact .start hformat hfrom
  · rw [hgist]
    exact .noStart hfrom hsame hclosed

theorem performs_runPause (s : Session σ β τ) : Performs s.gist .pause s.runPause.1.gist := by
  unfold runPause
  split
  · next h =>
    have heq : ({ s.announceActive .paused with phase := .paused }.post .paused).gist =
        { s.gist.announceActive .paused with phase := .paused }.post .paused := by
      rw [gist_post, ← gist_announceActive]
      rfl
    rw [heq]
    exact .pause h
  · next h => exact .noPause h

theorem performs_runStop (s : Session σ β τ) : Performs s.gist .stop s.runStop.1.gist := by
  have heq :
      ({ s.announceActive .stopped with phase := .stopped }.dropDeferred.post .stopped).gist =
        { s.gist.announceActive .stopped with phase := .stopped }.dropDeferred.post .stopped := by
    rw [gist_post, gist_dropDeferred, ← gist_announceActive]
    rfl
  unfold runStop
  split
  · next h => exact heq ▸ .stop (.inl h)
  · next h => exact heq ▸ .stop (.inr h)
  · next hrunning hpaused => exact .noStop ⟨hrunning, hpaused⟩

theorem performs_runRequest [ByteSource σ] (E : Engine σ β) (s : Session σ β τ) (index : Nat)
    (request : Request τ) :
    Performs s.gist (.requestSample index request) (s.runRequest E index request).1.gist := by
  unfold runRequest
  split
  · next h => exact .defer h
  · next h =>
    have hphase : s.gist.phase ≠ .paused := by rw [gist_phase, h]; decide
    split
    · next hserves =>
      rcases gist_deliver E s index request with hdrop | ⟨result, hanswer⟩
      · rw [hdrop]
        exact .drop hphase
      · rw [hanswer]
        exact .answer h hserves result
    · rw [gist_drop]
      exact .drop hphase
  · next h =>
    rw [gist_drop]
    exact .drop (by rw [gist_phase, h]; decide)
  · next h =>
    rw [gist_drop]
    exact .drop (by rw [gist_phase, h]; decide)

theorem performs_perform [ByteSource σ] (E : Engine σ β) (s : Session σ β τ)
    (command : Command τ) : Performs s.gist command (s.perform E command).1.gist := by
  cases command with
  | start presentation format position => exact performs_runStart E s presentation format position
  | pause => exact performs_runPause s
  | stop => exact performs_runStop s
  | requestSample index request => exact performs_runRequest E s index request

/-! ### The executor -/

/-- The session when nothing is in the executor's hand. -/
def emptyHanded (s : Session σ β τ) : Session σ β τ :=
  { s with commands := { s.commands with inHand := none } }

@[simp] theorem gist_discard (s : Session σ β τ) (command : Command τ) :
    (s.discard command).gist = s.gist.discard command := by
  unfold discard
  split
  · exact gist_drop ..
  · rfl

/-- What the executor may do with the command in its hand, the backend apart. -/
inductive Executes (g : Session Unit Unit τ) : Session Unit Unit τ → Prop
  | idle (hhand : g.commands.inHand = none) : Executes g g
  /-- After the shutdown, or when the executor has broken off, the command comes too late. -/
  | discard {envelope : Envelope τ} (hhand : g.commands.inHand = some envelope)
      (hlate : g.phase = .shutdown ∨ g.executorBroke = true) :
      Executes g (g.emptyHanded.discard envelope.command)
  | breakOff {envelope : Envelope τ} (hhand : g.commands.inHand = some envelope)
      (hstart : envelope.command.isStart = true) (hresources : g.resources = .unopened) :
      Executes g
        { g.emptyHanded with executorBroke := true, commands := g.emptyHanded.commands.close }
  | perform {envelope : Envelope τ} {t : Session Unit Unit τ}
      (hhand : g.commands.inHand = some envelope) (halive : g.phase ≠ .shutdown)
      (hworks : g.executorBroke = false) (h : Performs g.emptyHanded envelope.command t) :
      Executes g t

/-- Only a start that would create the backend makes the executor break off. -/
theorem stumble?_eq_some {E : Engine σ β} {s : Session σ β τ} {command : Command τ} {backend : β}
    (h : s.stumble? E command = some backend) :
    command.isStart = true ∧ s.resources = .unopened := by
  unfold stumble? at h
  split at h
  · next hresources _ _ => exact ⟨rfl, hresources⟩
  · exact absurd h (by simp)

/-- When the executor breaks off, nothing else changes than that the queue takes no more
commands. -/
theorem gist_breakOff (E : Engine σ β) (s : Session σ β τ) (backend : β) :
    (s.breakOff E backend).gist =
      { s.gist with executorBroke := true, commands := s.gist.commands.close } := by
  have hforgo := gist_forgoBackend E (s.noteCall .create) backend
  rw [gist_noteCall] at hforgo
  rw [← hforgo]
  rfl

theorem execute_of_hand [ByteSource σ] (E : Engine σ β) {s : Session σ β τ}
    {envelope : Envelope τ} (h : s.commands.inHand = some envelope) :
    s.execute E =
      if s.phase = .shutdown ∨ s.executorBroke = true then s.emptyHanded.discard envelope.command
      else
        match s.emptyHanded.stumble? E envelope.command with
        | some backend => s.emptyHanded.breakOff E backend
        | none =>
          match s.emptyHanded.perform E envelope.command with
          | (t, .ok ()) => t
          | (t, .error e) =>
            t.say .executor (.commandFailed envelope.number envelope.command.name e) := by
  unfold execute
  rw [h]
  rfl

/-- A command is in hand, and will be carried out with success. -/
structure Completes [ByteSource σ] (E : Engine σ β) (s : Session σ β τ) (command : Command τ) :
    Prop where
  inHand : ∃ number, s.commands.inHand = some ⟨number, command⟩
  isAlive : s.phase ≠ .shutdown
  works : s.executorBroke = false
  isSteady : s.emptyHanded.stumble? E command = none
  succeeds : (s.emptyHanded.perform E command).2 = .ok ()

theorem Completes.execute_eq [ByteSource σ] {E : Engine σ β} {s : Session σ β τ}
    {command : Command τ} (h : s.Completes E command) :
    s.execute E = (s.emptyHanded.perform E command).1 := by
  obtain ⟨number, hhand⟩ := h.inHand
  have hlate : ¬(s.phase = .shutdown ∨ s.executorBroke = true) := by simp [h.isAlive, h.works]
  have hperform : s.emptyHanded.perform E command =
      ((s.emptyHanded.perform E command).1, .ok ()) := Prod.ext rfl h.succeeds
  rw [execute_of_hand E hhand, if_neg hlate]
  simp only [h.isSteady]
  rw [hperform]

/-- A command is in hand, and will be carried out without success. -/
structure Fails [ByteSource σ] (E : Engine σ β) (s : Session σ β τ) (envelope : Envelope τ)
    (e : SourceError) : Prop where
  inHand : s.commands.inHand = some envelope
  isAlive : s.phase ≠ .shutdown
  works : s.executorBroke = false
  isSteady : s.emptyHanded.stumble? E envelope.command = none
  fails : (s.emptyHanded.perform E envelope.command).2 = .error e

theorem Fails.execute_eq [ByteSource σ] {E : Engine σ β} {s : Session σ β τ}
    {envelope : Envelope τ} {e : SourceError} (h : s.Fails E envelope e) :
    s.execute E = (s.emptyHanded.perform E envelope.command).1.say .executor
      (.commandFailed envelope.number envelope.command.name e) := by
  have hlate : ¬(s.phase = .shutdown ∨ s.executorBroke = true) := by simp [h.isAlive, h.works]
  have hperform : s.emptyHanded.perform E envelope.command =
      ((s.emptyHanded.perform E envelope.command).1, .error e) := Prod.ext rfl h.fails
  rw [execute_of_hand E h.inHand, if_neg hlate, h.isSteady, hperform]

theorem executes_execute [ByteSource σ] (E : Engine σ β) (s : Session σ β τ) :
    Executes s.gist (s.execute E).gist := by
  cases h : s.commands.inHand with
  | none =>
    have hsame : s.execute E = s := by rw [execute, h]
    rw [hsame]
    exact .idle h
  | some envelope =>
    rw [execute_of_hand E h]
    split
    · next hlate =>
      rw [gist_discard]
      exact .discard h hlate
    · next hlate =>
      obtain ⟨halive, hworks⟩ := not_or.mp hlate
      -- Whether the command succeeds or fails, the session goes on as the command left it.
      have hperforms := performs_perform E s.emptyHanded envelope.command
      split
      · next backend hstumble =>
        obtain ⟨hstart, hresources⟩ := stumble?_eq_some hstumble
        have hshape : s.gist.resources = .unopened := congrArg Resources.shape hresources
        rw [gist_breakOff]
        exact .breakOff h hstart hshape
      · split
        · next t hresult =>
          have hfst : t = (s.emptyHanded.perform E envelope.command).1 :=
            (congrArg Prod.fst hresult).symm
          exact .perform h halive (Bool.eq_false_iff.mpr hworks) (hfst ▸ hperforms)
        · next t e hresult =>
          have hfst : t = (s.emptyHanded.perform E envelope.command).1 :=
            (congrArg Prod.fst hresult).symm
          rw [gist_say]
          exact .perform h halive (Bool.eq_false_iff.mpr hworks) (hfst ▸ hperforms)

/-! ### Shutting down -/

theorem gist_releaseResources (E : Engine σ β) (s : Session σ β τ) :
    (s.releaseResources E).gist = { s.gist with resources := .released } := by
  simp only [releaseResources, gist_withResources]
  split
  · rw [gist_releaseBackend]
    rfl
  · rfl

@[simp] theorem gist_closeSource [ByteSource σ] (s : Session σ β τ) :
    s.closeSource.gist = s.gist :=
  gist_noteCall _ _

@[simp] theorem gist_shutQueues (s : Session σ β τ) : s.shutQueues.gist = s.gist.shutQueues := by
  have h : s.shutQueues.gist =
      { s.dropDeferred.gist with
        events := s.dropDeferred.gist.events.shutdown
        streams := s.dropDeferred.gist.streams.map fun stream =>
          { stream with isActive := false, events := stream.events.shutdown } } := rfl
  rw [h, gist_dropDeferred]
  rfl

@[simp] theorem gist_joinExecutor (s : Session σ β τ) : s.joinExecutor.gist = s.gist := by
  unfold joinExecutor
  split
  · exact gist_say ..
  · rfl

/-- A shutdown, the backend apart. -/
def close (s : Session σ β τ) : Session σ β τ :=
  let s := { s with phase := .shutdown, resources := .released }.shutQueues
  { s with commands := s.commands.close }

theorem gist_shutdown [ByteSource σ] (E : Engine σ β) {s : Session σ β τ}
    (h : s.phase ≠ .shutdown) : (s.shutdown E).1.gist = s.gist.close := by
  set quiet := { s.say .caller .shuttingDown with phase := .shutdown } with hquiet
  set shut := (quiet.releaseResources E).closeSource.shutQueues with hshut
  have hgist : shut.gist =
      { s.gist with phase := .shutdown, resources := .released }.shutQueues := by
    rw [hshut, gist_shutQueues, gist_closeSource, gist_releaseResources, hquiet, gist_withPhase,
      gist_say]
  have hcommands : shut.commands = shut.gist.commands := rfl
  unfold shutdown
  rw [if_neg h]
  calc ({ shut with commands := shut.commands.close }.joinExecutor).gist
      = { shut.gist with commands := shut.gist.commands.close } := gist_joinExecutor _
    _ = s.gist.close := by rw [hgist]; rfl

/-! ### Actions -/

/-- The session with a command behind all that wait. -/
def enqueue (s : Session σ β τ) (command : Command τ) : Session σ β τ :=
  { s with commands := s.commands.enqueue command }

/-- The session with a number used up. -/
def skip (s : Session σ β τ) : Session σ β τ := { s with commands := s.commands.skip }

/-- The session with a request of its own number behind all that waits, and a line about it. -/
def receive (s : Session σ β τ) (index : Nat) (token : Option τ) : Session σ β τ :=
  let request : Request τ := ⟨s.commands.nextNumber, token⟩
  (s.enqueue (.requestSample index request)).record (.accepted index request)

/-- What an action may do to a session, the backend apart. -/
inductive Moves (g : Session Unit Unit τ) : Action τ → Session Unit Unit τ → Prop
  /-- A call that is refused, or an action that is no business of the session's. -/
  | nothing {action : Action τ} (h : action = .execute → g.commands.inHand = none) :
      Moves g action g
  | submit {action : Action τ} {command : Command τ} (haction : action ≠ .execute)
      (halive : g.phase ≠ .shutdown) (h : command.request? = none) :
      Moves g action (g.enqueue command)
  /-- A command that the queue refuses. -/
  | skip {action : Action τ} (haction : action ≠ .execute) (halive : g.phase ≠ .shutdown)
      (hclosed : g.commands.isOpen = false) : Moves g action g.skip
  | accept {index : Nat} {token : Option τ} (halive : g.phase ≠ .shutdown)
      (hserves : g.serves index = true) :
      Moves g (.requestSample index token) (g.receive index token)
  | shutdown (halive : g.phase ≠ .shutdown) : Moves g .shutdown g.close
  | setRate {thin : Bool} {rate : Number.Single} (halive : g.phase ≠ .shutdown) :
      Moves g (.setRate thin rate) ({ g with rate }.post (.rateChanged rate))
  | nextEvent : Moves g .nextEvent g.nextEvent.1
  | queueEvent {event : SourceEvent} : Moves g (.queueEvent event) (g.queueEvent event).1
  | nextStreamEvent {index : Nat} :
      Moves g (.nextStreamEvent index) (g.nextStreamEvent index).1
  | queueStreamEvent {index : Nat} {event : StreamEvent τ} :
      Moves g (.queueStreamEvent index event) (g.queueStreamEvent index event).1
  | take : Moves g .take g.take
  | execute {t : Session Unit Unit τ} (h : Executes g t) : Moves g .execute t

@[simp] theorem gist_receive (s : Session σ β τ) (index : Nat) (token : Option τ) :
    (s.receive index token).gist = s.gist.receive index token :=
  gist_record _ rfl

theorem submit_eq (s : Session σ β τ) (command : Command τ) :
    s.submit command =
      if s.commands.isOpen then (s.enqueue command, .ok ()) else (s.skip, .error .shutdown) := by
  simp only [submit, CommandQueue.submit]
  cases s.commands.isOpen <;> rfl

theorem acceptRequest_eq (s : Session σ β τ) (index : Nat) (token : Option τ) :
    s.acceptRequest index token =
      if s.commands.isOpen then (s.receive index token, .ok ()) else (s.skip, .error .shutdown) := by
  simp only [acceptRequest, submit_eq]
  cases s.commands.isOpen <;> rfl

/-- A request for a sample is turned down, or it comes to the command queue for a stream that is
served. -/
theorem requestSample_cases (s : Session σ β τ) (index : Nat) (token : Option τ) :
    (∃ e, s.requestSample index token = (s, .error e)) ∨
    (s.phase ≠ .shutdown ∧ s.serves index = true ∧
      s.requestSample index token = s.acceptRequest index token) := by
  unfold requestSample
  split
  · exact .inl ⟨_, rfl⟩
  · exact .inl ⟨_, rfl⟩
  · next stream hstream halive =>
    split
    · exact .inl ⟨_, rfl⟩
    · next hactive =>
      split
      · exact .inl ⟨_, rfl⟩
      · next hended =>
        have hon : stream.isActive = true := by simpa using hactive
        have hserves : s.serves index = true := by
          simp [serves, hstream, StreamState.isServed, hon, hended]
        exact .inr ⟨halive, hserves, rfl⟩

/-- A call to start, pause or stop is turned down, or it submits its command. -/
theorem act_of_command [ByteSource σ] (E : Engine σ β) (s : Session σ β τ) {action : Action τ}
    {command : Command τ} (h : action.command? = some command) :
    (∃ e, s.act E action = (s, .error e)) ∨
      (s.phase ≠ .shutdown ∧ s.act E action = s.submit command) := by
  cases action with
  | start presentation format position =>
    obtain rfl := Option.some.inj h
    simp only [act, start]
    split
    · exact .inl ⟨_, rfl⟩
    · next halive =>
      split
      · exact .inr ⟨halive, rfl⟩
      · exact .inl ⟨_, rfl⟩
  | pause =>
    obtain rfl := Option.some.inj h
    simp only [act, pause]
    split
    · exact .inl ⟨_, rfl⟩
    · next hrunning => exact .inr ⟨by rw [hrunning]; decide, rfl⟩
    · exact .inl ⟨_, rfl⟩
  | stop =>
    obtain rfl := Option.some.inj h
    simp only [act, stop]
    split
    · exact .inl ⟨_, rfl⟩
    · next halive => exact .inr ⟨halive, rfl⟩
  | _ => cases h

theorem moves_command [ByteSource σ] (E : Engine σ β) (s : Session σ β τ) {action : Action τ}
    {command : Command τ} (h : action.command? = some command) :
    Moves s.gist action (s.step E action).gist := by
  have haction := Action.ne_execute_of_command h
  rw [step]
  rcases act_of_command E s h with ⟨e, hsame⟩ | ⟨halive, hsubmit⟩
  · rw [hsame]
    exact .nothing fun hexecute => absurd hexecute haction
  · rw [hsubmit, submit_eq]
    split
    · exact .submit haction halive (Action.request?_of_command h)
    · next hclosed => exact .skip haction halive (Bool.eq_false_iff.mpr hclosed)

theorem moves_requestSample (s : Session σ β τ) (index : Nat) (token : Option τ) :
    Moves s.gist (.requestSample index token) (s.requestSample index token).1.gist := by
  obtain ⟨e, hsame⟩ | ⟨halive, hserves, haccept⟩ := requestSample_cases s index token
  · rw [hsame]
    exact .nothing nofun
  · rw [haccept, acceptRequest_eq]
    split
    · rw [gist_receive]
      exact .accept halive hserves
    · next hclosed => exact .skip nofun halive (Bool.eq_false_iff.mpr hclosed)

theorem moves_setRate (s : Session σ β τ) (thin : Bool) (rate : Number.Single) :
    Moves s.gist (.setRate thin rate) (s.setRate thin rate).1.gist := by
  unfold setRate
  split
  · exact .nothing nofun
  · split
    · exact .nothing nofun
    · next halive =>
      rw [gist_post]
      exact .setRate halive

theorem gist_nextStreamEvent (s : Session σ β τ) (index : Nat) :
    (s.nextStreamEvent index).1.gist = (s.gist.nextStreamEvent index).1 := by
  simp only [nextStreamEvent, gist_streams]
  cases s.streams[index]? <;> rfl

theorem gist_queueStreamEvent (s : Session σ β τ) (index : Nat) (event : StreamEvent τ) :
    (s.queueStreamEvent index event).1.gist = (s.gist.queueStreamEvent index event).1 := by
  simp only [queueStreamEvent, gist_streams]
  cases s.streams[index]? <;> rfl

/-- The feeder's work leaves no trace in the gist. -/
theorem gist_feed [ByteSource σ] (s : Session σ β τ) (request : ReadRequest) :
    (s.feed request).1.gist = s.gist := by
  unfold feed
  split
  · exact gist_sayAll ..
  · rfl

theorem moves_step [ByteSource σ] (E : Engine σ β) (s : Session σ β τ) (action : Action τ) :
    Moves s.gist action (s.step E action).gist := by
  cases action with
  | start presentation format position | pause | stop => exact moves_command E s rfl
  | shutdown =>
    by_cases h : s.phase = .shutdown
    · have hsame : s.step E .shutdown = s := by simp [step, act, Session.shutdown, h]
      rw [hsame]
      exact .nothing nofun
    · have hclose : (s.step E .shutdown).gist = s.gist.close := gist_shutdown E h
      rw [hclose]
      exact .shutdown h
  | requestSample index token => exact moves_requestSample s index token
  | setRate thin rate => exact moves_setRate s thin rate
  | nextEvent => exact .nextEvent
  | queueEvent event => exact .queueEvent
  | nextStreamEvent index =>
    have h : (s.step E (.nextStreamEvent index)).gist = (s.gist.nextStreamEvent index).1 :=
      gist_nextStreamEvent s index
    rw [h]
    exact .nextStreamEvent
  | queueStreamEvent index event =>
    have h : (s.step E (.queueStreamEvent index event)).gist =
        (s.gist.queueStreamEvent index event).1 := gist_queueStreamEvent s index event
    rw [h]
    exact .queueStreamEvent
  | feed request =>
    have h : (s.step E (.feed request)).gist = s.gist := gist_feed s request
    rw [h]
    exact .nothing nofun
  | take => exact .take
  | execute => exact .execute (executes_execute E s)

/-! ### What can be reached -/

/-- A session that has just been opened has only talked. -/
theorem gist_ofSource [ByteSource σ] {E : Engine σ β} {config : SourceConfig} {source : σ}
    {s : Session σ β τ} (h : ofSource E config source = .ok s) :
    ∃ (info : MediaInfo) (layout : Layout) (after : σ),
      s.gist = (fresh config info layout after : Session σ β τ).gist := by
  unfold ofSource at h
  split at h
  · exact absurd h (by simp)
  · split at h
    · exact absurd h (by simp)
    · next size _ =>
      set probe := E.probe config.probeChunkSize source with hprobe
      cases hresult : probe.result with
      | error e => simp [hresult, Except.bind, Except.mapError] at h
      | ok found =>
        simp only [hresult, Except.bind, ofProbe] at h
        split at h
        · simp [Except.mapError] at h
        · simp only [Except.mapError, Except.ok.injEq] at h
          subst h
          refine ⟨_, _, _, (gist_say ..).trans (gist_recordAll_talk _ fun e he => ?_)⟩
          rcases List.mem_cons.mp he with rfl | he
          · rfl
          · obtain ⟨n, _, rfl⟩ := List.mem_map.mp he
            rfl

/-- What the gist of every session has that was just opened, and every move keeps, the gist of
whatever can be reached has. -/
theorem gist_induction [ByteSource σ] {E : Engine σ β} {P : Session Unit Unit τ → Prop}
    (hfresh : ∀ (config : SourceConfig) (info : MediaInfo) (layout : Layout) (source : σ),
      P (fresh config info layout source : Session σ β τ).gist)
    (hmove : ∀ {g t : Session Unit Unit τ} {action : Action τ}, P g → Moves g action t → P t)
    {s : Session σ β τ} (h : Reachable E s) : P s.gist := by
  induction h with
  | opened h =>
    obtain ⟨info, layout, after, heq⟩ := gist_ofSource h
    exact heq ▸ hfresh _ info layout after
  | step _ action ih => exact hmove ih (moves_step E _ action)

end Session

/-! ### A session to look at -/

namespace Sketch

/-- Two streams; the first is empty, and the second gives two buffers. -/
def script : EngineScript :=
  let entry : CatalogEntry := ⟨some .unknown, none, none⟩
  let streams : List ScriptedStream :=
    [⟨entry, []⟩, ⟨entry, [.ok ⟨[1, 10, 11], ⟨40000000⟩, ⟨20000000⟩⟩,
      .ok ⟨[2, 20], ⟨60000000⟩, ⟨15000000⟩⟩]⟩]
  { mimeType := "audio/wav", duration := none, streams, connected := streams
    probeFault := none, createFault := none, connectFault := none, seekFault := none
    enableFaults := [], disableFaults := [] }

def engine : Engine ScriptedSource ScriptedBackend := script.engine ScriptedSource

def source : ScriptedSource := .ofContents #[]

def opened : Session ScriptedSource ScriptedBackend Nat :=
  (Session.ofSource engine .standard source).toOption.get (by decide)

/-- The session after some actions. -/
def play (actions : List (Action Nat)) : Session ScriptedSource ScriptedBackend Nat :=
  opened.run engine actions

/-- A call to start the streams that are marked, wherever the session is. -/
def start (marks : List Bool) : Action Nat :=
  .start (.ofMarks opened.layout.descriptors marks "" 0 none) .default .current

/-- Both streams are started, and the session is paused. -/
def paused : List (Action Nat) :=
  [start [true, true], .take, .execute, .pause, .take, .execute]

theorem opened_eq : Session.ofSource engine .standard source = .ok opened := rfl

theorem reachable (actions : List (Action Nat)) : Session.Reachable engine (play actions) :=
  (Session.Reachable.opened opened_eq).run actions

end Sketch
end PullStreams
