/-
What is selected, what plays and what the backend delivers.

A session keeps its selection in three places: the marks that new presentations show, the
activity of its streams, and the marks of the backend behind them.  Only a start that is
carried out changes them, and it changes them all alike.

* `Session.latestStart` — what the latest start of a run selected that was carried out;
* `frame_moves`, `resources_quiet` — whatever executes no start leaves the three alone;
* `agrees_start`, `agrees_run` — a start makes them agree, and so they do in every run;
* `selection_agrees` — before the first start and after it, until the shutdown.
-/
import PullStreams.Proofs.Demux.Marking
import PullStreams.Proofs.Demux.Rules
import PullStreams.Proofs.Session.Coherence
import PullStreams.Proofs.Session.Marking
import PullStreams.Proofs.Session.Pulling

namespace PullStreams

theorem fitMarks_of_length {marks : List Bool} {count : Nat} (h : marks.length = count) :
    fitMarks marks count = marks := by
  subst h
  simp [fitMarks]

/-- Whatever executes no start takes no stream up, and drops none while the session lives. -/
theorem Standing.Turn.isActive {τ : Type} {a b : Standing τ} {starting : Prop}
    (h : a.Turn starting b) (hquiet : ¬starting) (halive : b.phase ≠ .shutdown) :
    b.isActive = a.isActive := by
  have htell : ∀ event, (a.tellActive event).isActive = a.isActive := by
    intro event
    unfold tellActive
    split <;> rfl
  cases h with
  | start hstarting => exact absurd hstarting hquiet
  | shutdown => exact absurd rfl halive
  | pause _ | stop _ => exact htell _
  | rest | answer _ _ _ _ => rfl

namespace Session

variable {σ β τ : Type}

/-! ### Actions that execute no start -/

theorem frame_performs {g t : Session Unit Unit τ} {command : Command τ}
    (h : Performs g command t) (hquiet : command.isStart = false) : t.frame = g.frame := by
  cases h with
  | start _ _ | noStart _ _ _ => cases hquiet
  | pause _ => exact frame_announceActive g .paused
  | stop _ =>
    exact (frame_dropDeferred { g.announceActive .stopped with phase := .stopped }).trans
      (frame_announceActive g .stopped)
  | noPause _ | noStop _ | drop _ => rfl
  | defer _ => exact frame_updateStream g _ _
  | answer _ _ result => exact frame_answerWith g _ _ result

/-- The selection stays as it is. -/
theorem frame_moves {g t : Session Unit Unit τ} {action : Action τ} (h : Moves g action t)
    (hquiet : ¬g.Starts action) : t.frame = g.frame := by
  cases h with
  | nothing _ | submit _ _ _ | skip _ _ _ | accept _ _ | setRate _ | nextEvent | queueEvent
  | take => rfl
  | shutdown _ =>
    simp only [frame, close, shutQueues, dropDeferred, clearDeferred, recordAll, List.length_map]
  | nextStreamEvent =>
    simp only [nextStreamEvent]
    split
    · rfl
    · exact frame_updateStream g _ _
  | queueStreamEvent =>
    simp only [queueStreamEvent]
    split
    · rfl
    · exact frame_updateStream g _ _
  | execute h =>
    cases h with
    | idle _ | breakOff _ _ _ => rfl
    | discard _ _ =>
      unfold discard
      split <;> rfl
    | perform hhand _ _ h =>
      have hframe := frame_performs h (Bool.eq_false_iff.mpr fun hstart =>
        hquiet ⟨rfl, _, hhand, hstart⟩)
      exact hframe

variable [ByteSource σ] {E : Engine σ β}

theorem frame_step (s : Session σ β τ) {action : Action τ} (hquiet : ¬s.Starts action) :
    (s.step E action).frame = s.frame :=
  frame_moves (moves_step E s action) hquiet

theorem isActive_step (s : Session σ β τ) {action : Action τ} (hquiet : ¬s.Starts action)
    (halive : (s.step E action).phase ≠ .shutdown) (index : Nat) :
    (s.step E action).isActive index = s.isActive index :=
  (standing_step E s action index).isActive hquiet halive

theorem resources_runRequest {s : Session σ β τ} {index : Nat} {request : Request τ}
    (h : s.pullFor? E index request = none) :
    (s.runRequest E index request).1.resources = s.resources := by
  unfold runRequest
  split
  · rfl
  · next hrunning =>
    split
    · next hserves =>
      unfold deliver
      split
      · next backend binding hopened =>
        split
        · rfl
        · next b hb => simp [pullFor?, hrunning, hserves, hopened, hb] at h
      · rfl
    · rfl
  · rfl
  · rfl

/-- Without a pull the backend stays as it is. -/
theorem resources_perform {s : Session σ β τ} {command : Command τ}
    (hquiet : command.isStart = false) (h : s.pullOf? E command = none) :
    (s.perform E command).1.resources = s.resources := by
  cases command with
  | start => cases hquiet
  | pause =>
    simp only [perform, runPause]
    split
    · exact congrArg Prod.fst (footing_announceActive s .paused)
    · rfl
  | stop =>
    have hstopped : (s.announceActive .stopped).resources = s.resources :=
      congrArg Prod.fst (footing_announceActive s .stopped)
    simp only [perform, runStop]
    split
    · exact hstopped
    · exact hstopped
    · rfl
  | requestSample index request => exact resources_runRequest h

theorem resources_execute {s : Session σ β τ} (hquiet : ¬s.Starts .execute)
    (hpull : s.pull? E .execute = none) : (s.execute E).resources = s.resources := by
  cases hhand : s.commands.inHand with
  | none => rw [execute, hhand]
  | some envelope =>
    have hstart : envelope.command.isStart = false := Bool.eq_false_iff.mpr fun hstart =>
      hquiet ⟨rfl, envelope, hhand, hstart⟩
    rw [execute_of_hand E hhand]
    split
    · unfold discard
      split <;> rfl
    · next hlate =>
      split
      · next hstumble => cases hstart.symm.trans (stumble?_eq_some hstumble).1
      · have hworks : s.executorBroke = false := by simpa using (not_or.mp hlate).2
        have hnone : s.emptyHanded.pullOf? E envelope.command = none := by
          simpa only [pull?, hhand, hworks] using hpull
        have hperform := resources_perform (s := s.emptyHanded) hstart hnone
        split
        · next t hresult => rwa [hresult] at hperform
        · next t e hresult =>
          rw [hresult] at hperform
          exact hperform

/-- Whatever executes no start and pulls nothing leaves the backend as it is, until the
shutdown. -/
theorem resources_quiet {s : Session σ β τ} {action : Action τ} (hquiet : ¬s.Starts action)
    (hpull : s.pull? E action = none) (halive : (s.step E action).phase ≠ .shutdown) :
    (s.step E action).resources = s.resources := by
  by_cases hexecute : action = .execute
  · subst hexecute
    exact resources_execute hquiet hpull
  · by_cases hshutdown : action = .shutdown
    · subst hshutdown
      by_cases hphase : s.phase = .shutdown
      · have hsame : s.step E .shutdown = s := by simp [step, act, shutdown, hphase]
        rw [hsame]
      · have hclosed : (s.step E .shutdown).gist = s.gist.close := gist_shutdown E hphase
        exact absurd (congrArg Session.phase hclosed) halive
    · exact congrArg Backing.resources (backing_act E s hexecute hshutdown)

/-! ### Starts -/

/-- Whether a command in hand will be carried out with success. -/
def carriesOut (E : Engine σ β) (s : Session σ β τ) (command : Command τ) : Bool :=
  s.phase != .shutdown && !s.executorBroke && (s.emptyHanded.stumble? E command).isNone &&
    (s.emptyHanded.perform E command).2.isOk

/-- What the start selects that an action carries out, if it carries one out. -/
def started? (E : Engine σ β) (s : Session σ β τ) : Action τ → Option Presentation
  | .execute =>
    match s.commands.inHand with
    | some ⟨_, .start presentation format position⟩ =>
      if s.carriesOut E (.start presentation format position) then some presentation else none
    | _ => none
  | _ => none

/-- What the latest start of a run selected that was carried out; nothing before the first. -/
def latestStart (E : Engine σ β) : Session σ β τ → List (Action τ) → Option Presentation
  | _, [] => none
  | s, action :: actions => (latestStart E (s.step E action) actions).or (s.started? E action)

theorem carriesOut_iff {s : Session σ β τ} {envelope : Envelope τ}
    (hhand : s.commands.inHand = some envelope) :
    s.carriesOut E envelope.command = true ↔ s.Completes E envelope.command := by
  have hresult : (s.emptyHanded.perform E envelope.command).2.isOk = true ↔
      (s.emptyHanded.perform E envelope.command).2 = .ok () := by
    generalize (s.emptyHanded.perform E envelope.command).2 = result
    cases result <;> simp [Except.isOk, Except.toBool]
  simp only [carriesOut, Bool.and_eq_true, bne_iff_ne, Bool.not_eq_true', Option.isNone_iff_eq_none,
    hresult]
  constructor
  · rintro ⟨⟨⟨halive, hworks⟩, hsteady⟩, hsucceeds⟩
    exact ⟨⟨envelope.number, hhand⟩, halive, hworks, hsteady, hsucceeds⟩
  · exact fun h => ⟨⟨⟨h.isAlive, h.works⟩, h.isSteady⟩, h.succeeds⟩

theorem started?_eq_some {s : Session σ β τ} {action : Action τ} {presentation : Presentation} :
    s.started? E action = some presentation ↔ action = .execute ∧
      ∃ format position, s.Completes E (.start presentation format position) := by
  cases action with
  | execute =>
    simp only [started?, true_and]
    split
    · next number selection format position hhand =>
      have hiff := carriesOut_iff (E := E) hhand
      constructor
      · intro h
        split at h
        · next hcarries =>
          obtain rfl := Option.some.inj h
          exact ⟨format, position, hiff.mp hcarries⟩
        · cases h
      · rintro ⟨format', position', hcompletes⟩
        obtain ⟨number', hhand'⟩ := hcompletes.inHand
        obtain ⟨-, hcommand⟩ := Envelope.mk.inj (Option.some.inj (hhand.symm.trans hhand'))
        obtain ⟨rfl, rfl, rfl⟩ := Command.start.inj hcommand
        rw [if_pos (hiff.mpr hcompletes)]
    · next hnone =>
      refine ⟨nofun, ?_⟩
      rintro ⟨format, position, hcompletes⟩
      obtain ⟨number, hhand⟩ := hcompletes.inHand
      exact absurd hhand (hnone number presentation format position)
  | _ => exact ⟨nofun, nofun⟩

/-- A start that comes too late, breaks the executor or fails leaves the streams and the selection
alone, and opens no backend. -/
theorem execute_failed_start {s : Session σ β τ} {number : Nat} {presentation : Presentation}
    {format : TimeFormat} {position : StartPosition}
    (hhand : s.commands.inHand = some ⟨number, .start presentation format position⟩)
    (hfails : ¬s.Completes E (.start presentation format position)) :
    (∀ index, (s.execute E).isActive index = s.isActive index) ∧
      (s.execute E).frame = s.frame ∧
      ((s.execute E).resources = s.resources ∨
        (∀ backend binding, s.resources ≠ .opened backend binding) ∧
        ∀ backend binding, (s.execute E).resources ≠ .opened backend binding) := by
  rw [execute_of_hand E hhand]
  split
  · exact ⟨fun _ => rfl, rfl, .inl rfl⟩
  · next hlate =>
    obtain ⟨halive, hworks⟩ := not_or.mp hlate
    split
    · exact ⟨fun _ => rfl, rfl, .inl rfl⟩
    · next hsteady =>
      split
      · next t hresult =>
        exact absurd ⟨⟨number, hhand⟩, halive, Bool.eq_false_iff.mpr hworks, hsteady,
          congrArg Prod.snd hresult⟩ hfails
      · next t e hresult =>
        have ht : t = (s.emptyHanded.runStart E presentation format position).1 :=
          (congrArg Prod.fst hresult).symm
        rcases runStart_cases E s.emptyHanded presentation format position with
          ⟨_, hsucceeds, _⟩ | ⟨r, _, _, hfrom, _, hclosed, hgist⟩
        · cases (congrArg Prod.snd hresult).symm.trans hsucceeds
        · rw [← ht] at hgist
          have hactive : t.gist.isActive = s.isActive := congrArg Session.isActive hgist
          have hframe : t.gist.frame = s.frame := congrArg Session.frame hgist
          refine ⟨congrFun hactive, hframe, ?_⟩
          by_cases hformat : format.isDefault = true
          · refine .inr ⟨fun backend binding hopened => ?_, fun backend binding hopened => ?_⟩
            · have hshape : s.emptyHanded.gist.resources = .opened () binding :=
                congrArg Resources.shape hopened
              rcases hfrom hformat with hunopened | hr
              · cases hunopened.symm.trans hshape
              · exact hclosed hformat binding (hr.trans hshape)
            · have hshape : t.gist.resources = .opened () binding :=
                congrArg Resources.shape hopened
              exact hclosed hformat binding ((congrArg Session.resources hgist).symm.trans hshape)
          · left
            show t.resources = s.resources
            rw [ht, runStart, if_neg hformat]
            rfl

/-- A session that was just opened shows every stream of its probe once. -/
theorem nodup_ofSource {config : SourceConfig} {source : σ} {s : Session σ β τ}
    (h : ofSource E config source = .ok s) : s.layout.order.Nodup := by
  unfold ofSource at h
  split at h
  · cases h
  · split at h
    · cases h
    · set probe := E.probe config.probeChunkSize source with hprobe
      cases hresult : probe.result with
      | error e => simp [hresult, Except.bind, Except.mapError] at h
      | ok found =>
        simp only [hresult, Except.bind, ofProbe] at h
        split at h
        · simp [Except.mapError] at h
        · simp only [Except.mapError, Except.ok.injEq] at h
          subst h
          exact (config.isComplete_policyFor found.mimeType).nodup _

theorem nodup_of_reachable {s : Session σ β τ} (h : Reachable E s) : s.layout.order.Nodup := by
  induction h with
  | opened h => exact nodup_ofSource h
  | @step s _ action ih =>
    have hlayout : (s.step E action).layout = s.layout := (same_run E s [action]).1
    rwa [hlayout]

/-! ### Agreement -/

variable {marks : β → Nat → Bool}

/-- What plays, what is selected and what the backend delivers agree with the latest start. -/
structure Agrees (E : Engine σ β) (marks : β → Nat → Bool) (latest : Option Presentation)
    (s : Session σ β τ) : Prop where
  unstarted : latest = none → (∀ index, s.isActive index = false) ∧
    s.selection = s.layout.defaultActive ∧ ∀ backend binding, s.resources ≠ .opened backend binding
  started : ∀ {presentation}, latest = some presentation →
    (∀ index, s.isActive index = true ↔
      ∃ id ∈ presentation.selectedIds, s.streamIndex id = .ok index) ∧
    (∀ index, s.selection[index]?.getD false = s.isActive index) ∧
    s.IsWired E marks s.isActive

omit [ByteSource σ] in
/-- Nothing of the three has changed. -/
theorem Agrees.kept {latest : Option Presentation} {s t : Session σ β τ}
    (hs : s.Agrees E marks latest) (hactive : ∀ index, t.isActive index = s.isActive index)
    (hframe : t.frame = s.frame)
    (hopened : (∀ backend binding, s.resources ≠ .opened backend binding) →
      ∀ backend binding, t.resources ≠ .opened backend binding)
    (hwired : s.IsWired E marks s.isActive → t.IsWired E marks s.isActive) :
    t.Agrees E marks latest := by
  obtain ⟨hlayout, hrest⟩ := Prod.mk.inj hframe
  obtain ⟨hselection, hstreams⟩ := Prod.mk.inj hrest
  constructor
  case unstarted =>
    intro hlatest
    obtain ⟨hidle, hdefault, hclosed⟩ := hs.unstarted hlatest
    exact ⟨fun index => (hactive index).trans (hidle index),
      by rw [hselection, hlayout, hdefault], hopened hclosed⟩
  case started =>
    intro presentation hlatest
    obtain ⟨hiff, hselected, hwires⟩ := hs.started hlatest
    refine ⟨fun index => ?_, fun index => ?_, ?_⟩
    · simp only [hactive index, hiff index, streamIndex, hstreams]
    · rw [hselection, hactive index, hselected]
    · rw [funext hactive]
      exact hwired hwires

/-- Where a start finds the backend open, and what it delivers before the start. -/
theorem wired_openResources (hE : E.Marks marks) {latest : Option Presentation}
    {s : Session σ β τ} (hlayout : s.layout.order.Nodup) (hs : s.Agrees E marks latest)
    {backend : β} {binding : Binding}
    (hopened : (s.openResources E).resources = .opened backend binding) :
    (s.openResources E).IsWired E marks s.isActive := by
  by_cases hunopened : s.resources = .unopened
  · -- Nothing plays before there is a backend, and a new backend delivers nothing.
    have hidle : ∀ index, s.isActive index = false := by
      cases latest with
      | none => exact (hs.unstarted rfl).1
      | some presentation =>
        obtain ⟨_, _, hopen, _⟩ := (hs.started rfl).2.2
        cases hunopened.symm.trans hopen
    obtain ⟨r, calls, hattempt, hbacking⟩ := attempt_openResources E hunopened
    have hresources : (s.openResources E).resources = r := congrArg Backing.resources hbacking
    rw [IsWired, hresources, funext hidle]
    cases hattempt with
    | opened hcreate _ hconnect hresult =>
      exact ⟨_, _, rfl, hE.wires_bind hlayout hcreate hconnect hresult⟩
    | _ => cases hresources.symm.trans hopened
  · rw [openResources_of_ne hunopened] at hopened ⊢
    cases latest with
    | none => exact absurd hopened ((hs.unstarted rfl).2.2 backend binding)
    | some presentation => exact (hs.started rfl).2.2

/-- A start that succeeds leaves the backend to deliver what it selects. -/
theorem wired_runStart (hE : E.Marks marks) {latest : Option Presentation} {s : Session σ β τ}
    (hlayout : s.layout.order.Nodup) (hs : s.Agrees E marks latest) {presentation : Presentation}
    {format : TimeFormat} {position : StartPosition}
    (hsucceeds : (s.runStart E presentation format position).2 = .ok ()) :
    (s.runStart E presentation format position).1.IsWired E marks
      (s.planStart presentation.selectedIds position).selects := by
  have hopening := gist_openResources E s
  have hphase : (s.openResources E).gist.phase = s.phase := congrArg Session.phase hopening
  have hstreams : (s.openResources E).gist.streams = s.streams :=
    congrArg Session.streams hopening
  rw [gist_phase] at hphase
  rw [gist_streams] at hstreams
  have hplan : (s.openResources E).planStart presentation.selectedIds position =
      s.planStart presentation.selectedIds position := by
    simp only [planStart, startTarget, hphase, hstreams]
  unfold runStart at hsucceeds ⊢
  split at hsucceeds
  · next hformat =>
    rw [if_pos hformat]
    dsimp only at hsucceeds ⊢
    split at hsucceeds
    · next backend binding hopened =>
      have hwired := wired_openResources hE hlayout hs hopened
      have hstarted := wired_startWith hE hwired
        (fun index hindex => (isActive_of_none (hstreams ▸ hindex)).1) presentation.selectedIds
        position
      rwa [hplan] at hstarted
    · cases hsucceeds
    · cases hsucceeds
  · cases hsucceeds

/-- A start that is carried out makes the three agree. -/
theorem agrees_start (hE : E.Marks marks) {latest : Option Presentation} {s : Session σ β τ}
    (hlayout : s.layout.order.Nodup) (hs : s.Agrees E marks latest)
    {presentation : Presentation} {format : TimeFormat} {position : StartPosition}
    (hstart : s.Completes E (.start presentation format position)) :
    (s.execute E).Agrees E marks (some presentation) := by
  set plan := s.planStart presentation.selectedIds position with hplan
  have hactive : ∀ index, (s.execute E).isActive index = plan.selects index := fun index =>
    congrArg Standing.isActive (hstart.standing_start index)
  obtain ⟨binding, hgist⟩ := hstart.gist_start
  have hframe := congrArg Session.frame hgist
  rw [frame_carryOut] at hframe
  obtain ⟨_, hrest⟩ := Prod.mk.inj hframe
  obtain ⟨hselection, hstreams⟩ := Prod.mk.inj hrest
  have hselected : (s.execute E).selection = plan.selected := hselection
  have hlength : (s.execute E).streams.length = s.streams.length := hstreams
  refine ⟨nofun, ?_⟩
  rintro _ ⟨⟩
  refine ⟨fun index => ?_, fun index => ?_, ?_⟩
  · rw [hactive index, hplan, selects_planStart_iff]
    simp only [streamIndex_eq_ok, hlength]
    constructor
    · rintro ⟨hindex, id, hid, hplace⟩
      exact ⟨id, hid, hindex, hplace⟩
    · rintro ⟨id, hid, hindex, hplace⟩
      exact ⟨hindex, id, hid, hplace⟩
  · rw [hactive index, hselected]
    rfl
  · rw [funext hactive]
    have hempty : s.emptyHanded.Agrees E marks latest :=
      hs.kept (fun _ => rfl) rfl id fun hwired => hwired.of_resources rfl
    have hwired := wired_runStart hE (s := s.emptyHanded) hlayout hempty hstart.succeeds
    rw [hstart.execute_eq]
    exact hwired

/-- A pull leaves what the backend delivers as it is. -/
theorem wired_of_pull (hE : E.Marks marks) {s : Session σ β τ} {p : PullRecord τ}
    (hpull : s.pull? E .execute = some p) {on : Nat → Bool} (hs : s.IsWired E marks on) :
    (s.step E .execute).IsWired E marks on := by
  obtain ⟨backend, binding, outcome, hopened, _, hgive, _, hafter⟩ :=
    resources_execute_of_pull hpull
  obtain ⟨backend', binding', hopened', hwires⟩ := hs
  obtain ⟨rfl, rfl⟩ := Resources.opened.inj (hopened.symm.trans hopened')
  exact ⟨outcome.after, binding, hafter, hwires.kept hE (.pull hgive) (hE.pull hwires.live hgive)⟩

theorem agrees_step (hE : E.Marks marks) {latest : Option Presentation} {s : Session σ β τ}
    (h : Reachable E s) (hs : s.phase ≠ .shutdown → s.Agrees E marks latest) (action : Action τ)
    (halive : (s.step E action).phase ≠ .shutdown) :
    (s.step E action).Agrees E marks ((s.started? E action).or latest) := by
  have hs := hs ((standing_step E s action 0).alive halive)
  cases hstarted : s.started? E action with
  | some presentation =>
    obtain ⟨rfl, format, position, hcompletes⟩ := started?_eq_some.mp hstarted
    exact agrees_start hE (nodup_of_reachable h) hs hcompletes
  | none =>
    rw [Option.none_or]
    by_cases hquiet : s.Starts action
    · -- The start comes too late, breaks the executor, or fails.
      obtain ⟨rfl, ⟨number, command⟩, hhand, hstart⟩ := hquiet
      cases command with
      | start presentation format position =>
        have hfails : ¬s.Completes E (.start presentation format position) := fun hcompletes => by
          cases hstarted.symm.trans (started?_eq_some.mpr ⟨rfl, format, position, hcompletes⟩)
        obtain ⟨hactive, hframe, hresources⟩ := execute_failed_start hhand hfails
        refine hs.kept hactive hframe (fun hclosed => ?_) fun hwired => ?_
        · rcases hresources with hsame | ⟨_, hclosed'⟩
          · intro backend binding hopened
            exact hclosed backend binding (hsame.symm.trans hopened)
          · exact hclosed'
        · rcases hresources with hsame | ⟨hclosed, _⟩
          · exact hwired.of_resources hsame
          · obtain ⟨backend, binding, hopened, _⟩ := hwired
            exact absurd hopened (hclosed backend binding)
      | _ => cases hstart
    · refine hs.kept (isActive_step s hquiet halive) (frame_step s hquiet) ?_ ?_
      · intro hclosed
        cases hpull : s.pull? E action with
        | none =>
          rw [resources_quiet hquiet hpull halive]
          exact hclosed
        | some p =>
          obtain ⟨rfl, _⟩ := pull?_eq_some hpull
          obtain ⟨backend, binding, _, hopened, _⟩ := resources_execute_of_pull hpull
          exact absurd hopened (hclosed backend binding)
      · intro hwired
        cases hpull : s.pull? E action with
        | none => exact hwired.of_resources (resources_quiet hquiet hpull halive)
        | some p =>
          obtain ⟨rfl, _⟩ := pull?_eq_some hpull
          exact wired_of_pull hE hpull hwired

theorem agrees_run (hE : E.Marks marks) {latest : Option Presentation} {s : Session σ β τ}
    (h : Reachable E s) (hs : s.phase ≠ .shutdown → s.Agrees E marks latest)
    (actions : List (Action τ)) (halive : (s.run E actions).phase ≠ .shutdown) :
    (s.run E actions).Agrees E marks ((s.latestStart E actions).or latest) := by
  induction actions generalizing s latest with
  | nil => exact hs halive
  | cons action actions ih =>
    rw [latestStart, Option.or_assoc]
    exact ih (h.step action) (agrees_step hE h hs action) halive

theorem agrees_ofSource {config : SourceConfig} {source : σ} {s : Session σ β τ}
    (h : ofSource E config source = .ok s) : s.Agrees E marks none := by
  obtain ⟨info, layout, after, hgist⟩ := gist_ofSource h
  obtain ⟨_, _, _, _, hbacking⟩ := backing_ofSource h
  have hresources : s.resources = .unopened := congrArg Backing.resources hbacking
  refine ⟨fun _ => ⟨fun index => ?_, ?_, ?_⟩, nofun⟩
  · have hstanding := congrArg (fun g => (g.standing index).isActive) hgist
    rw [standing_fresh] at hstanding
    exact hstanding
  · have hlayout : s.layout = layout := congrArg Session.layout hgist
    have hselection : s.selection = layout.defaultActive := congrArg Session.selection hgist
    rw [hselection, hlayout]
  · rw [hresources]
    nofun

/-- While the three agree, what is pulled for is marked. -/
theorem Agrees.marked_of_pull {latest : Option Presentation} {s : Session σ β τ}
    (hs : s.Agrees E marks latest) {action : Action τ} {p : PullRecord τ}
    (hpull : s.pull? E action = some p) (h : Reachable E s) :
    ∃ backend binding outcome, s.resources = .opened backend binding ∧ E.Live backend ∧
      marks backend p.index = true ∧ (E.pull backend p.index).CanGive outcome ∧
      p.result = outcome.result := by
  have hpulls := (pulls_of_reachable h hpull).2
  obtain ⟨backend, binding, outcome, hopened, hbound, hgive, hresult, _⟩ := hpulls.gives
  cases latest with
  | none => exact absurd hopened ((hs.unstarted rfl).2.2 backend binding)
  | some presentation =>
    obtain ⟨_, _, hopened', hwires⟩ := (hs.started rfl).2.2
    obtain ⟨rfl, rfl⟩ := Resources.opened.inj (hopened.symm.trans hopened')
    exact ⟨backend, binding, outcome, hopened, hwires.live,
      (hwires.marked p.index).mpr ⟨p.stream, hpulls.isActive, hbound⟩, hgive, hresult⟩

/-- What agrees in a session whose latest start selected `latest`. -/
structure IsAgreed (marks : β → Nat → Bool) (E : Engine σ β) (latest : Option Presentation)
    (s : Session σ β τ) : Prop where
  /-- Before the first start nothing plays, and presentations show what the layout begins with. -/
  unstarted : latest = none → (∀ index, s.isActive index = false) ∧
    ∃ shown, s.presentation = .ok shown ∧ shown.streams = s.layout.descriptors ∧
      shown.selected = s.layout.defaultActive
  /-- After it the streams play that the latest start names, and presentations show them. -/
  started : ∀ {presentation}, latest = some presentation →
    (∀ index, s.isActive index = true ↔
      ∃ id ∈ presentation.selectedIds, s.streamIndex id = .ok index) ∧
    ∃ shown, s.presentation = .ok shown ∧ shown.streams = s.layout.descriptors ∧
      shown.selected = s.streams.map (·.isActive)
  opened : latest.isSome → ∃ backend binding, s.resources = .opened backend binding
  marked : ∀ {backend binding}, s.resources = .opened backend binding → ∀ b,
    marks backend b = true ↔
      ∃ index, s.isActive index = true ∧ binding.backendIndex? index = some b
  /-- What is pulled for is marked. -/
  pulled : ∀ {action p backend binding}, s.pull? E action = some p →
    s.resources = .opened backend binding → marks backend p.index = true

/-- In every run until the shutdown, and for every backend that marks the streams it delivers, the
streams that play, the selection that is shown and the marks of the backend agree with the latest
start that was carried out. -/
theorem selection_agrees (hE : E.Marks marks) {config : SourceConfig} {source : σ}
    {s : Session σ β τ} (h : ofSource E config source = .ok s) (actions : List (Action τ))
    (halive : (s.run E actions).phase ≠ .shutdown) :
    (s.run E actions).IsAgreed marks E (s.latestStart E actions) := by
  have hagrees := agrees_run hE (.opened h) (fun _ => agrees_ofSource h) actions halive
  rw [Option.or_none] at hagrees
  have hreach := (Reachable.opened h).run actions
  set t := s.run E actions with ht
  set latest := s.latestStart E actions with hlatest
  have hcoherent := coherent_of_reachable hreach
  have hshown : ∃ shown, t.presentation = .ok shown ∧ shown.streams = t.layout.descriptors ∧
      shown.selected = t.selection := by
    refine ⟨_, if_neg halive, rfl, fitMarks_of_length ?_⟩
    rw [hcoherent.selection, hcoherent.descriptors]
  obtain ⟨shown, hpresentation, hstreams, hselected⟩ := hshown
  have hmarked : ∀ {backend binding}, t.resources = .opened backend binding → ∀ b,
      marks backend b = true ↔
        ∃ index, t.isActive index = true ∧ binding.backendIndex? index = some b := by
    intro backend binding hopened
    cases hlatest' : latest with
    | none => exact absurd hopened ((hagrees.unstarted hlatest').2.2 backend binding)
    | some presentation =>
      obtain ⟨_, _, hopened', hwires⟩ := (hagrees.started hlatest').2.2
      obtain ⟨rfl, rfl⟩ := Resources.opened.inj (hopened.symm.trans hopened')
      exact hwires.marked
  constructor
  case unstarted =>
    intro hnone
    obtain ⟨hidle, hdefault, _⟩ := hagrees.unstarted hnone
    exact ⟨hidle, shown, hpresentation, hstreams, hselected.trans hdefault⟩
  case started =>
    intro presentation hsome
    obtain ⟨hactive, hselection, _⟩ := hagrees.started hsome
    refine ⟨hactive, shown, hpresentation, hstreams, hselected.trans ?_⟩
    refine List.ext_getElem ?_ fun index hleft hright => ?_
    · rw [hcoherent.selection, List.length_map, hcoherent.streams]
    · have hindex : index < t.streams.length := by simpa using hright
      have hmark := hselection index
      rw [List.getElem?_eq_getElem hleft, (isActive_of_lt hindex).1] at hmark
      simpa using hmark
  case opened =>
    intro hsome
    obtain ⟨presentation, hpresent⟩ := Option.isSome_iff_exists.mp hsome
    obtain ⟨backend, binding, hopened, _⟩ := (hagrees.started hpresent).2.2
    exact ⟨backend, binding, hopened⟩
  case marked => exact hmarked
  case pulled =>
    intro action p backend binding hpull hopened
    obtain ⟨_, _, _, hopened', _, hmark, _⟩ := hagrees.marked_of_pull hpull hreach
    obtain ⟨rfl, rfl⟩ := Resources.opened.inj (hopened.symm.trans hopened')
    exact hmark

/-- The demultiplexing backend never refuses a pull of a session because its track is disabled. -/
theorem demux_pull_accepted {config : SourceConfig} {source : σ}
    {s : Session σ (DemuxBackend Wav.Reader) τ}
    (h : ofSource (Demux.engine σ) config source = .ok s) (actions : List (Action τ))
    {action : Action τ} {p : PullRecord τ}
    (hpull : (s.run (Demux.engine σ) actions).pull? (Demux.engine σ) action = some p) :
    ∃ result : Except PullFault (Option Buffer), p.result = result.mapError PullFault.toError ∧
      ∀ refused, result ≠ .error (.notEnabled refused) := by
  have hreach := (Reachable.opened h).run actions
  have halive : (s.run (Demux.engine σ) actions).phase ≠ .shutdown := by
    rw [(pulls_of_reachable hreach hpull).2.isRunning]
    decide
  have hagrees := agrees_run DemuxBackend.marks_engine (.opened h) (fun _ => agrees_ofSource h)
    actions halive
  obtain ⟨backend, _, outcome, _, hlive, hmark, hgive, hresult⟩ :=
    hagrees.marked_of_pull hpull hreach
  rcases DemuxBackend.canGive_pull hgive with ⟨_, hidle⟩ | ⟨result, hgiven, hrefused⟩
  · have hworks := (DemuxBackend.ready_of_live hlive).works
    rw [hidle] at hworks
    cases hworks
  · refine ⟨result, hresult.trans hgiven, fun refused heq => ?_⟩
    cases hmark.symm.trans (hrefused.mp ⟨refused, heq⟩)

end Session

namespace Sketch

theorem eq_ok_get {ε α : Type} {result : Except ε α} (h : result.toOption.isSome = true) :
    result = .ok (result.toOption.get h) := by
  cases result with
  | error e => cases h
  | ok a => rfl

def recording : ScriptedSource := .ofContents eightSamples.toArray

def player : Session ScriptedSource (DemuxBackend Wav.Reader) Nat :=
  (Session.ofSource (Demux.engine ScriptedSource) .standard recording).toOption.get
    (by decide +kernel)

theorem player_eq :
    Session.ofSource (Demux.engine ScriptedSource) .standard recording = .ok player :=
  eq_ok_get (by decide +kernel)

/-- The one track is selected, and then none, and then it again. -/
def reselecting : List (Action Nat) :=
  [true, false, true].flatMap fun mark =>
    [.start (.ofMarks player.layout.descriptors [mark] "" 0 none) .default .current, .take,
      .execute]

theorem selection_agrees_reselecting :
    (player.run (Demux.engine ScriptedSource) reselecting).phase = .running ∧
      (player.latestStart (Demux.engine ScriptedSource) reselecting).map (·.selectedIds) =
        some [1] ∧
      (player.run (Demux.engine ScriptedSource) reselecting).IsAgreed DemuxBackend.marks
        (Demux.engine ScriptedSource)
        (player.latestStart (Demux.engine ScriptedSource) reselecting) := by
  have hphase : (player.run (Demux.engine ScriptedSource) reselecting).phase = .running := by
    decide +kernel
  have halive : (player.run (Demux.engine ScriptedSource) reselecting).phase ≠ .shutdown := by
    rw [hphase]
    decide
  exact ⟨hphase, by decide +kernel,
    Session.selection_agrees DemuxBackend.marks_engine player_eq reselecting halive⟩

end Sketch
end PullStreams
