/-
Sessions whose executor broke off.

The executor breaks off when it is to open the backend and no thread can have the
feeder's name.  The session is stopped then, nothing of it was opened or started, and its
queue is closed.  Of all calls only starts and stops still come as far as the queue, which
refuses them; and as a number is given out before a command is handed over, each of them
uses one up.

* `attended_of_reachable` — until the shutdown the queue is open as long as the executor
  works, and an executor that broke off leaves a session that was never started;
* `Completes`, `Fails`, `BreaksOff` — how the execution of a command ends (`ends_execute`);
* `BreaksOff.leavesOff` — what breaking off leaves;
* `isUnheard`, `act_of_unheard` — the calls that use a number up.
-/
import PullStreams.Proofs.Requests.Ledger
import PullStreams.Proofs.Session.Grounding

namespace PullStreams

namespace Session

variable {σ β τ : Type}

/-! ### The queue and the executor -/

/-- Whether the queue takes commands, and whether the executor broke off. -/
def attendance (s : Session σ β τ) : Bool × Bool := (s.commands.isOpen, s.executorBroke)

/-- Until the shutdown the queue is open as long as the executor works.  When the executor breaks
off, the backend is still unopened; and while it is, nothing was started. -/
structure IsAttended (s : Session σ β τ) : Prop where
  isOpen : s.phase ≠ .shutdown → s.commands.isOpen = !s.executorBroke
  unopened : s.phase ≠ .shutdown → s.executorBroke = true → s.resources = .unopened
  unstarted : s.phase ≠ .shutdown → s.resources = .unopened →
    s.phase = .stopped ∧ ∀ index, s.serves index = false

theorem IsAttended.kept {s t : Session σ β τ} (hs : s.IsAttended) (hphase : t.phase = s.phase)
    (hresources : t.resources = s.resources) (hattendance : t.attendance = s.attendance)
    (hserves : ∀ index, t.serves index = s.serves index) : t.IsAttended := by
  obtain ⟨hopen, hbroke⟩ := Prod.mk.inj hattendance
  constructor
  · rw [hphase, hopen, hbroke]
    exact hs.isOpen
  · rw [hphase, hbroke, hresources]
    exact hs.unopened
  · rw [hphase, hresources]
    simpa only [hserves] using hs.unstarted

/-- Of a session whose backend is not unopened nothing more is asked than that its executor
works. -/
theorem IsAttended.opened {s t : Session σ β τ} (hs : s.IsAttended) (halive : s.phase ≠ .shutdown)
    (hworks : s.executorBroke = false) (hopened : t.resources ≠ .unopened)
    (hattendance : t.attendance = s.attendance) : t.IsAttended := by
  obtain ⟨hopen, hbroke⟩ := Prod.mk.inj hattendance
  refine ⟨fun _ => ?_, fun _ hbroken => ?_, fun _ hunopened => absurd hunopened hopened⟩
  · rw [hopen, hbroke]
    exact hs.isOpen halive
  · rw [hbroke, hworks] at hbroken
    cases hbroken

/-! ### What leaves the attendance alone -/

theorem attendance_carryOut (s : Session σ β τ) (plan : StartPlan) :
    (s.carryOut plan).attendance = s.attendance := by
  have hbring : ∀ (s : Session σ β τ) (index : Nat),
      (s.bring plan index).attendance = s.attendance := by
    intro s index
    simp only [bring]
    split <;> rfl
  rw [← foldl_keeps hbring s (List.range s.streams.length)]
  set brought := (List.range s.streams.length).foldl (bring plan) s with hbrought
  have hcleared : (if plan.target.isSome then brought.dropDeferred
      else brought.requeueDeferred).attendance = brought.attendance := by
    split
    · rfl
    · simp only [attendance, requeueDeferred, foldl_enqueue]
      rfl
  exact hcleared

theorem attendance_announceActive (s : Session σ β τ) (event : StreamEvent τ) :
    (s.announceActive event).attendance = s.attendance := by
  have hannounce : ∀ (s : Session σ β τ) (index : Nat),
      (s.announce index event).attendance = s.attendance := fun _ _ => rfl
  exact foldl_keeps hannounce s s.activeIndices

theorem attendance_answerWith (s : Session σ β τ) (index : Nat) (request : Request τ)
    (result : Except SourceError (Option Buffer)) :
    (s.answerWith index request result).1.attendance = s.attendance := by
  match result with
  | .ok (some buffer) =>
    simp only [answerWith]
    split <;> rfl
  | .ok none =>
    simp only [answerWith, endStream, endPresentation]
    split <;> rfl
  | .error e => rfl

theorem serves_updateStream_events (s : Session σ β τ) (index : Nat)
    (events : EventQueue (StreamEvent τ)) (place : Nat) :
    (s.updateStream index fun stream => { stream with events }).serves place = s.serves place := by
  simp only [serves, updateStream, List.getElem?_modify]
  cases s.streams[place]? with
  | none => rfl
  | some stream => split <;> rfl

/-! ### The invariant -/

theorem attended_performs {g t : Session Unit Unit τ} {command : Command τ} (hg : g.IsAttended)
    (halive : g.phase ≠ .shutdown) (hworks : g.executorBroke = false)
    (h : Performs g command t) : t.IsAttended := by
  -- What is under way was opened.
  have hopened : g.phase = .running ∨ g.phase = .paused → g.resources ≠ .unopened := by
    intro hphase hunopened
    obtain ⟨hstopped, _⟩ := hg.unstarted halive hunopened
    rcases hphase with hrunning | hpaused
    · cases hstopped.symm.trans hrunning
    · cases hstopped.symm.trans hpaused
  cases h with
  | @start presentation _ position binding _ _ =>
    set plan := g.planStart presentation.selectedIds position with hplan
    have hresources : ({ g with resources := .opened () binding }.carryOut plan).resources =
        .opened () binding := congrArg Prod.fst (footing_carryOut _ plan)
    exact hg.opened halive hworks (by rw [hresources]; nofun) (attendance_carryOut _ plan)
  | @noStart presentation format position r hfrom hsame _ =>
    refine ⟨hg.isOpen, fun _ hbroken => ?_, fun _ hunopened => ?_⟩
    · cases hworks.symm.trans hbroken
    · -- What is unopened after it was so before.
      refine hg.unstarted halive ?_
      by_cases hformat : format.isDefault = true
      · exact (hfrom hformat).elim id fun hr => hr.symm.trans hunopened
      · exact (hsame (Bool.eq_false_iff.mpr hformat)).symm.trans hunopened
  | pause hrunning =>
    have hfooting := congrArg Prod.fst (footing_announceActive g .paused)
    refine hg.opened halive hworks ?_ (attendance_announceActive g .paused)
    exact fun hunopened => hopened (.inl hrunning) (hfooting.symm.trans hunopened)
  | stop hphase =>
    have hfooting := congrArg Prod.fst (footing_announceActive g .stopped)
    refine hg.opened halive hworks ?_ (attendance_announceActive g .stopped)
    exact fun hunopened => hopened hphase (hfooting.symm.trans hunopened)
  | noPause _ | noStop _ | drop _ => exact hg.kept rfl rfl rfl fun _ => rfl
  | defer hpaused => exact hg.opened halive hworks (hopened (.inr hpaused)) rfl
  | @answer index request hrunning _ result =>
    have hfooting := congrArg Prod.fst (footing_answerWith g index request result).1
    refine hg.opened halive hworks ?_ (attendance_answerWith g index request result)
    exact fun hunopened => hopened (.inl hrunning) (hfooting.symm.trans hunopened)

theorem attended_executes {g t : Session Unit Unit τ} (hg : g.IsAttended) (h : Executes g t) :
    t.IsAttended := by
  have hempty : g.emptyHanded.IsAttended := hg.kept rfl rfl rfl fun _ => rfl
  cases h with
  | idle _ => exact hg
  | discard _ _ =>
    unfold discard
    split <;> exact hempty.kept rfl rfl rfl fun _ => rfl
  | breakOff _ _ hresources =>
    exact ⟨fun _ => rfl, fun _ _ => hresources, fun halive => hg.unstarted halive⟩
  | perform _ halive hworks h => exact attended_performs hempty halive hworks h

theorem attended_moves {g t : Session Unit Unit τ} {action : Action τ} (hg : g.IsAttended)
    (h : Moves g action t) : t.IsAttended := by
  cases h with
  | shutdown _ =>
    exact ⟨fun halive => absurd rfl halive, fun halive => absurd rfl halive,
      fun halive => absurd rfl halive⟩
  | nextStreamEvent =>
    simp only [nextStreamEvent]
    split
    · exact hg
    · exact hg.kept rfl rfl rfl (serves_updateStream_events g _ _)
  | queueStreamEvent =>
    simp only [queueStreamEvent]
    split
    · exact hg
    · exact hg.kept rfl rfl rfl (serves_updateStream_events g _ _)
  | take =>
    refine hg.kept rfl rfl ?_ fun _ => rfl
    simp only [take, CommandQueue.take]
    split <;> rfl
  | execute h => exact attended_executes hg h
  | _ => exact hg.kept rfl rfl rfl fun _ => rfl

variable [ByteSource σ] {E : Engine σ β}

theorem attended_of_reachable {s : Session σ β τ} (h : Reachable E s) : s.gist.IsAttended := by
  refine gist_induction (P := IsAttended) (fun config info layout source => ?_) attended_moves h
  refine ⟨fun _ => rfl, fun _ _ => rfl, fun _ _ => ⟨rfl, fun index => ?_⟩⟩
  -- Streams begin idle.
  simp only [serves, fresh, gist, List.getElem?_map]
  cases layout.descriptors[index]? <;> rfl

/-! ### How an execution ends -/

/-- A command is in hand at which the executor will break off. -/
structure BreaksOff (E : Engine σ β) (s : Session σ β τ) (envelope : Envelope τ) : Prop where
  inHand : s.commands.inHand = some envelope
  isAlive : s.phase ≠ .shutdown
  works : s.executorBroke = false
  stumbles : (s.emptyHanded.stumble? E envelope.command).isSome = true

/-- Before the shutdown, an executor that works completes the command in its hand, fails at it or
breaks off. -/
theorem ends_execute (E : Engine σ β) {s : Session σ β τ} {envelope : Envelope τ}
    (hhand : s.commands.inHand = some envelope) (halive : s.phase ≠ .shutdown)
    (hworks : s.executorBroke = false) :
    s.Completes E envelope.command ∨ (∃ e, s.Fails E envelope e) ∨ s.BreaksOff E envelope := by
  cases hstumble : s.emptyHanded.stumble? E envelope.command with
  | some backend => exact .inr (.inr ⟨hhand, halive, hworks, by rw [hstumble]; rfl⟩)
  | none =>
    cases hresult : (s.emptyHanded.perform E envelope.command).2 with
    | ok _ => exact .inl ⟨⟨envelope.number, hhand⟩, halive, hworks, hstumble, hresult⟩
    | error e => exact .inr (.inl ⟨e, hhand, halive, hworks, hstumble, hresult⟩)

/-- What is left when the executor breaks off: the command is used up and the queue takes no more
of them, and all else is as it was; the backend stays unopened. -/
structure LeavesOff (E : Engine σ β) (s : Session σ β τ) : Prop where
  phase : (s.execute E).phase = s.phase
  rate : (s.execute E).rate = s.rate
  selection : (s.execute E).selection = s.selection
  presentationEnded : (s.execute E).presentationEnded = s.presentationEnded
  streams : (s.execute E).streams = s.streams
  events : (s.execute E).events = s.events
  executorBroke : (s.execute E).executorBroke = true
  commands : (s.execute E).commands = { s.commands with inHand := none, isOpen := false }
  before : s.resources = .unopened
  after : (s.execute E).resources = .unopened

theorem BreaksOff.leavesOff {s : Session σ β τ} {envelope : Envelope τ}
    (h : s.BreaksOff E envelope) : s.LeavesOff E := by
  obtain ⟨backend, hbackend⟩ := Option.isSome_iff_exists.mp h.stumbles
  have hunopened : s.resources = .unopened := (stumble?_eq_some hbackend).2
  have hlate : ¬(s.phase = .shutdown ∨ s.executorBroke = true) := by simp [h.isAlive, h.works]
  have hexecute : s.execute E = s.emptyHanded.breakOff E backend := by
    rw [execute_of_hand E h.inHand, if_neg hlate, hbackend]
  -- All of it shows in the gist.
  have hgist : (s.execute E).gist =
      { s.gist with
        executorBroke := true, commands := { s.commands with inHand := none, isOpen := false } } :=
    (congrArg gist hexecute).trans (gist_breakOff E s.emptyHanded backend)
  have hafter : (s.execute E).resources = .unopened := by
    have hshape : (s.execute E).resources.shape = s.resources.shape :=
      congrArg Session.resources hgist
    rw [hunopened] at hshape
    cases hresources : (s.execute E).resources with
    | unopened => rfl
    | _ => rw [hresources] at hshape; cases hshape
  constructor
  case phase => exact (congrArg Session.phase hgist :)
  case rate => exact (congrArg Session.rate hgist :)
  case selection => exact (congrArg Session.selection hgist :)
  case presentationEnded => exact (congrArg Session.presentationEnded hgist :)
  case streams => exact (congrArg Session.streams hgist :)
  case events => exact (congrArg Session.events hgist :)
  case executorBroke => exact (congrArg Session.executorBroke hgist :)
  case commands => exact (congrArg Session.commands hgist :)
  case before => exact hunopened
  case after => exact hafter

/-! ### Calls that nobody hears -/

/-- Whether a call hands a command over to an executor that broke off. -/
def isUnheard (s : Session σ β τ) (action : Action τ) : Bool :=
  s.executorBroke && s.phase != .shutdown &&
    match action with
    | .start _ format _ => format.isDefault
    | .stop => true
    | _ => false

/-- A call that nobody hears is refused, and uses a number up. -/
theorem act_of_unheard {s : Session σ β τ} (hs : Reachable E s) {action : Action τ}
    (h : s.isUnheard action = true) :
    s.act E action =
      ({ s with commands := { s.commands with submitted := s.commands.submitted + 1 } },
        .error .shutdown) := by
  simp only [isUnheard, Bool.and_eq_true, bne_iff_ne, ne_eq] at h
  obtain ⟨⟨hbroke, halive⟩, hcall⟩ := h
  have hclosed : s.commands.isOpen = false := by
    have hopen : s.commands.isOpen = !s.executorBroke :=
      (attended_of_reachable hs).isOpen halive
    rw [hopen, hbroke]
    rfl
  have hsubmit : ∀ command, s.submit command =
      ({ s with commands := { s.commands with submitted := s.commands.submitted + 1 } },
        .error .shutdown) := by
    intro command
    rw [submit_eq, hclosed]
    rfl
  cases action with
  | start presentation format position =>
    have hformat : format.isDefault = true := hcall
    simp only [act, start, if_neg halive, if_pos hformat]
    exact hsubmit _
  | stop =>
    simp only [act, stop, if_neg halive]
    exact hsubmit _
  | _ => cases hcall

end Session
end PullStreams
