/-
A backend is opened once, or never.

The first start that is executed with an accepted time format tries to create, to connect
and to bind a backend.  What came of it stays until the shutdown: an open backend is led
on by its own operations only, under the same binding, and a failure is reported again by
every later start, which does nothing else.

* `Backing.OpensOnce` — what was called to open a backend, and that nothing was before;
* `Turn.isUntouched_of`, `Turn.eq_of_failed`, `Turn.of_opened` — what one action makes of a
  backend that was not tried, that failed to open, or that is open;
* `startFails_iff` — a start fails if and only if it leaves a failure to open behind;
* `opened_once` — all of it, for every run of a session that was opened.
-/
import PullStreams.Proofs.Session.Coherence
import PullStreams.Proofs.Session.Submitted

namespace PullStreams

/-! ### Backings -/

/-- An attempt creates once, and connects at most once after that. -/
theorem Engine.Attempt.openings {σ β : Type} {E : Engine σ β} {layout : Layout} {size : Nat}
    {r : Resources β} {calls : List Call} (h : E.Attempt layout size r calls) :
    calls.filter Call.isOpening <+: [.create, .connect size] := by
  cases h with
  | notCreated | notFed => exact ⟨[.connect size], rfl⟩
  | notConnected | opened => exact List.prefix_rfl

namespace Backing

variable {σ β : Type} {E : Engine σ β} {b c : Backing β} {starts : Prop}

/-- What was called so far to open a backend. -/
def openings (b : Backing β) : List Call := b.calls.filter Call.isOpening

def IsOpened (b : Backing β) : Prop := ∃ backend binding, b.resources = .opened backend binding

theorem openings_append (b : Backing β) {calls : List Call}
    (h : ∀ call ∈ calls, call.isOpening = false) :
    (b.calls ++ calls).filter Call.isOpening = b.openings := by
  have hnone : calls.filter Call.isOpening = [] :=
    List.filter_eq_nil_iff.mpr fun call hcall => by simp [h call hcall]
  rw [List.filter_append, hnone, List.append_nil, openings]

/-! ### Work -/

theorem Works.openings (h : b.Works E c) : c.openings = b.openings := by
  cases h with
  | rest => rfl
  | operate _ h => exact openings_append b h.isOpening

theorem Works.isOpened (h : b.Works E c) : c.IsOpened ↔ b.IsOpened := by
  cases h with
  | rest => rfl
  | operate hopened _ => exact ⟨fun _ => ⟨_, _, hopened⟩, fun _ => ⟨_, _, rfl⟩⟩

theorem Works.isUntouched (h : b.Works E c) : c.IsUntouched ↔ b.IsUntouched := by
  cases h with
  | rest => rfl
  | operate hopened _ =>
    constructor
    · rintro ⟨⟨⟩, _⟩
    · rintro ⟨hunopened, _⟩
      cases hopened.symm.trans hunopened

/-- Without a backend there is no work. -/
theorem Works.eq_of_not_opened (h : b.Works E c) (hb : ¬b.IsOpened) : c = b := by
  cases h with
  | rest => rfl
  | operate hopened _ => exact absurd ⟨_, _, hopened⟩ hb

/-! ### Turns -/

theorem Turn.isShut (h : b.Turn E starts c) (hb : b.isShut = true) : c.isShut = true := by
  cases h with
  | works _ h => rw [h.isShut, hb]
  | attempt _ _ _ h => rw [h.isShut, hb]
  | breakOff _ _ => exact hb
  | release _ _ _ => rfl

/-- Where it was tried to open a backend, the executor has not just broken off. -/
theorem Turn.executorBroke (h : b.Turn E starts c) (hc : c.resources ≠ .unopened) :
    c.executorBroke = b.executorBroke := by
  cases h with
  | works _ h => rw [h.same]
  | attempt _ _ _ h => rw [h.same]
  | breakOff _ hfrom => exact absurd hfrom.1 hc
  | release _ _ _ => rfl

/-- What an attempt has come to is not what nobody has tried. -/
theorem not_isUntouched_attempt {r : Resources β} {calls : List Call}
    (hattempt : E.Attempt b.layout b.info.size r calls)
    (h : Works E { b with resources := r, calls := b.calls ++ calls } c) : ¬c.IsUntouched := by
  intro hc
  have hopened := (h.isUntouched.mp hc).1
  cases hattempt <;> cases hopened

/-- What nobody has tried to open afterwards, nobody had tried before, and no start was
executed. -/
theorem Turn.isUntouched_of (h : b.Turn E starts c) (hc : c.IsUntouched) :
    b.IsUntouched ∧ ¬starts := by
  cases h with
  | works hstarts h =>
    have hb := h.isUntouched.mp hc
    exact ⟨hb, fun hstart => hstarts hstart hb⟩
  | attempt _ _ hattempt h => exact absurd hc (not_isUntouched_attempt hattempt h)
  | breakOff _ _ => cases hc.2
  | release _ _ _ => cases hc.1

/-- Until the shutdown, it takes a start to try. -/
theorem Turn.isUntouched_iff (h : b.Turn E starts c) (halive : c.isShut = false) :
    c.IsUntouched ↔ b.IsUntouched ∧ ¬starts := by
  refine ⟨h.isUntouched_of, ?_⟩
  rintro ⟨hb, hquiet⟩
  cases h with
  | works _ h => exact h.isUntouched.mpr hb
  | attempt hstart _ _ _ => exact absurd hstart hquiet
  | breakOff hstart _ => exact absurd hstart hquiet
  | release _ _ _ => cases halive

/-- Only a start that finds nothing tried makes calls to open a backend, or opens one. -/
theorem Turn.of_opens (h : b.Turn E starts c)
    (hopens : c.openings ≠ b.openings ∨ c.IsOpened ∧ ¬b.IsOpened) : starts ∧ b.IsUntouched := by
  cases h with
  | works _ h =>
    rcases hopens with hopenings | ⟨hopened, hclosed⟩
    · exact absurd h.openings hopenings
    · exact absurd (h.isOpened.mp hopened) hclosed
  | attempt hstart hfrom _ _ => exact ⟨hstart, hfrom⟩
  | breakOff hstart hfrom => exact ⟨hstart, hfrom⟩
  | release _ _ hcalls =>
    rcases hopens with hopenings | ⟨⟨_, _, hreleased⟩, _⟩
    · exact absurd (openings_append b hcalls) hopenings
    · cases hreleased

/-- Until the shutdown, an open backend is led on by its own operations, under its binding. -/
theorem Turn.of_opened {backend : β} {binding : Binding} (h : b.Turn E starts c)
    (hopened : b.resources = .opened backend binding) (halive : c.isShut = false) :
    ∃ last calls, E.Leads backend calls last ∧
      c = { b with resources := .opened last binding, calls := b.calls ++ calls } := by
  cases h with
  | works _ h =>
    cases h with
    | rest => exact ⟨backend, [], .nil, by rw [List.append_nil, ← hopened]⟩
    | operate hopened' h =>
      obtain ⟨rfl, rfl⟩ := Resources.opened.inj (hopened.symm.trans hopened')
      exact ⟨_, _, h, rfl⟩
  | attempt _ hfrom _ _ => cases hopened.symm.trans hfrom.1
  | breakOff _ hfrom => cases hopened.symm.trans hfrom.1
  | release _ _ _ => cases halive

/-- Until the shutdown, nothing more happens to a backend that failed to open. -/
theorem Turn.eq_of_failed {message : String} (h : b.Turn E starts c)
    (hfailed : b.resources = .failed message) (halive : c.isShut = false) : c = b := by
  cases h with
  | works _ h =>
    refine h.eq_of_not_opened ?_
    rintro ⟨_, _, hopened⟩
    cases hfailed.symm.trans hopened
  -- Where opening has failed, somebody has tried.
  | attempt _ hfrom _ _ => cases hfailed.symm.trans hfrom.1
  | breakOff _ hfrom => cases hfailed.symm.trans hfrom.1
  | release _ _ _ => cases halive

/-- At most a creation and a connection were called for, and nothing before the first try. -/
structure OpensOnce (b : Backing β) : Prop where
  openings : b.openings <+: [.create, .connect b.info.size]
  untouched : b.IsUntouched → b.openings = []

theorem Turn.opensOnce (h : b.Turn E starts c) (hb : b.OpensOnce) : c.OpensOnce := by
  have hinfo := h.same.2
  have huntouched : c.IsUntouched → b.IsUntouched := fun hc => (h.isUntouched_of hc).1
  -- Unless it was tried to open a backend, nothing is added to what was called for that.
  have hsame (hopenings : c.openings = b.openings) : c.OpensOnce := by
    constructor
    · rw [hopenings, hinfo]
      exact hb.openings
    · intro hc
      rw [hopenings]
      exact hb.untouched (huntouched hc)
  cases h with
  | works _ h => exact hsame h.openings
  | @attempt r calls c _ hfrom hattempt h =>
    have hcalls : c.openings = calls.filter Call.isOpening := by
      have hbefore : b.calls.filter Call.isOpening = [] := hb.untouched hfrom
      rw [h.openings, Backing.openings, List.filter_append, hbefore, List.nil_append]
    constructor
    · rw [hcalls, hinfo]
      exact hattempt.openings
    · intro hc
      exact absurd hc (not_isUntouched_attempt hattempt h)
  | breakOff _ hfrom =>
    have hbefore : b.calls.filter Call.isOpening = [] := hb.untouched hfrom
    constructor
    · rw [Backing.openings, List.filter_append, hbefore]
      exact ⟨[.connect b.info.size], rfl⟩
    · intro hc
      cases hc.2
  | release _ _ hcalls => exact hsame (openings_append b hcalls)

end Backing

namespace Session

variable {σ β τ : Type} [ByteSource σ] {E : Engine σ β}

/-! ### Runs -/

theorem isShut_run {s : Session σ β τ} (actions : List (Action τ))
    (h : s.backing.isShut = true) : (s.run E actions).backing.isShut = true :=
  backing_run (P := fun b => b.isShut = true) (fun hb hturn => hturn.isShut hb) h actions

/-- A session that lives at the end of a run has lived after its first action. -/
theorem isShut_step_of_run {s : Session σ β τ} {action : Action τ} {actions : List (Action τ)}
    (halive : (s.run E (action :: actions)).phase ≠ .shutdown) :
    (s.step E action).backing.isShut = false := by
  refine Bool.eq_false_iff.mpr fun hshut => halive ?_
  exact beq_iff_eq.mp (isShut_run (E := E) actions hshut)

/-- What every turn keeps until the shutdown, a run keeps until then. -/
theorem backing_run_alive {P : Backing β → Prop}
    (hturn : ∀ {b c : Backing β} {starts : Prop},
      P b → b.Turn E starts c → c.isShut = false → P c)
    {s : Session σ β τ} (h : P s.backing) {actions : List (Action τ)}
    (halive : (s.run E actions).phase ≠ .shutdown) : P (s.run E actions).backing := by
  induction actions generalizing s with
  | nil => exact h
  | cons action actions ih =>
    exact ih (hturn h (backing_step E s action) (isShut_step_of_run halive)) halive

/-- Until the shutdown, an open backend is led on by its own operations, under its binding. -/
theorem opened_run {s : Session σ β τ} {backend : β} {binding : Binding}
    (hopened : s.resources = .opened backend binding) {actions : List (Action τ)}
    (halive : (s.run E actions).phase ≠ .shutdown) :
    ∃ last calls, E.Leads backend calls last ∧
      (s.run E actions).backing =
        { s.backing with resources := .opened last binding, calls := s.calls ++ calls } := by
  refine backing_run_alive (P := fun b => ∃ last calls, E.Leads backend calls last ∧
    b = { s.backing with resources := .opened last binding, calls := s.calls ++ calls })
    ?_ ⟨backend, [], .nil, ?_⟩ halive
  · rintro b c starts ⟨next, calls, hnext, rfl⟩ hturn hshut
    obtain ⟨last, more, hlast, rfl⟩ := hturn.of_opened rfl hshut
    exact ⟨last, calls ++ more, hnext.append hlast, by rw [List.append_assoc]⟩
  · rw [List.append_nil, ← hopened]
    rfl

/-- Until the shutdown, nothing more happens to a backend that failed to open. -/
theorem failed_run {s : Session σ β τ} {message : String}
    (hfailed : s.resources = .failed message) {actions : List (Action τ)}
    (halive : (s.run E actions).phase ≠ .shutdown) : (s.run E actions).backing = s.backing := by
  refine backing_run_alive (P := fun b => b = s.backing) ?_ rfl halive
  rintro b c starts rfl hturn hshut
  exact hturn.eq_of_failed hfailed hshut

/-- Whether a run executes a start that was accepted. -/
def StartsIn (E : Engine σ β) : Session σ β τ → List (Action τ) → Prop
  | _, [] => False
  | s, action :: actions => s.ExecutesStart action ∨ StartsIn E (s.step E action) actions

/-- Until the shutdown, nobody has tried to open a backend if and only if no start was executed. -/
theorem untouched_run {s : Session σ β τ} {actions : List (Action τ)}
    (halive : (s.run E actions).phase ≠ .shutdown) :
    (s.run E actions).backing.IsUntouched ↔ s.backing.IsUntouched ∧ ¬StartsIn E s actions := by
  induction actions generalizing s with
  | nil => simp [StartsIn]
  | cons action actions ih =>
    have hstep := (backing_step E s action).isUntouched_iff (isShut_step_of_run halive)
    rw [run_cons, ih halive, hstep, StartsIn, not_or, and_assoc]

/-! ### Failures -/

/-- A start is in hand, will be executed, and will fail. -/
structure StartFails (E : Engine σ β) (s : Session σ β τ) (envelope : Envelope τ)
    (e : SourceError) : Prop where
  inHand : s.commands.inHand = some envelope
  isStart : envelope.command.isStart = true
  isAlive : s.phase ≠ .shutdown
  works : s.executorBroke = false
  isSteady : s.emptyHanded.stumble? E envelope.command = none
  fails : (s.emptyHanded.perform E envelope.command).2 = .error e

theorem StartFails.execute_eq {s : Session σ β τ} {envelope : Envelope τ} {e : SourceError}
    (h : s.StartFails E envelope e) :
    s.execute E = (s.emptyHanded.perform E envelope.command).1.say .executor
      (.commandFailed envelope.number envelope.command.name e) :=
  Fails.execute_eq ⟨h.inHand, h.isAlive, h.works, h.isSteady, h.fails⟩

/-- A start that cannot open the backend does nothing else. -/
theorem runStart_of_failed {s : Session σ β τ} {message : String}
    (hfailed : (s.openResources E).resources = .failed message) (presentation : Presentation)
    {format : TimeFormat} (hformat : format.isDefault = true) (position : StartPosition) :
    s.runStart E presentation format position =
      (s.openResources E, .error (.backend message)) := by
  rw [runStart, if_pos hformat]
  dsimp only
  rw [hfailed]

/-- A start whose format is accepted fails if and only if it leaves a failure to open the backend
behind, and for that reason. -/
theorem runStart_error_iff {s : Session σ β τ} (halive : s.phase ≠ .shutdown)
    (hheld : s.resources ≠ .released) (presentation : Presentation) {format : TimeFormat}
    (hformat : format.isDefault = true) (position : StartPosition) {e : SourceError} :
    (s.runStart E presentation format position).2 = .error e ↔
      ∃ message, e = .backend message ∧
        (s.runStart E presentation format position).1.resources = .failed message := by
  have hworks := works_runStart E halive presentation hformat position
  rcases resources_openResources E hheld with ⟨backend, binding, hopened⟩ | ⟨message, hfailed⟩
  · have hok : (s.runStart E presentation format position).2 = .ok () := by
      rw [runStart, if_pos hformat]
      dsimp only
      rw [hopened]
    constructor
    · intro herror
      cases hok.symm.trans herror
    · rintro ⟨message, rfl, hfailed⟩
      -- A backend that the start has opened is open when it ends.
      obtain ⟨_, _, hstill⟩ := hworks.isOpened.mpr ⟨backend, binding, hopened⟩
      cases hfailed.symm.trans hstill
  · have hstart := runStart_of_failed hfailed presentation hformat position
    rw [hstart, hfailed]
    constructor
    · rintro ⟨⟩
      exact ⟨message, rfl, rfl⟩
    · rintro ⟨_, rfl, ⟨⟩⟩
      rfl

/-- An accepted start in hand fails if and only if it leaves a failure to open the backend behind,
and for that reason. -/
theorem startFails_iff {s : Session σ β τ} (hstart : s.ExecutesStart .execute)
    (hheld : s.resources ≠ .released) {e : SourceError} :
    (∃ envelope, s.StartFails E envelope e) ↔
      ∃ message, e = .backend message ∧ (s.execute E).resources = .failed message := by
  obtain ⟨number, presentation, format, position, hhand, hformat⟩ := hstart.inHand
  have hlate : ¬(s.phase = .shutdown ∨ s.executorBroke = true) := by
    simp [hstart.isAlive, hstart.works]
  have hinHand : ∀ {envelope}, s.StartFails E envelope e →
      envelope = ⟨number, .start presentation format position⟩ :=
    fun h => Option.some.inj (h.inHand.symm.trans hhand)
  cases hstumble : s.emptyHanded.stumble? E (.start presentation format position) with
  | some backend =>
    -- When the executor breaks off, no start fails, and the backend is as unopened as before.
    have hbroken : (s.execute E).resources = .unopened := by
      have hsame : (s.emptyHanded.breakOff E backend).resources = s.resources :=
        congrArg Backing.resources (backing_breakOff E s.emptyHanded backend)
      rw [execute_of_hand E hhand, if_neg hlate, hstumble, hsame]
      exact (stumble?_eq_some hstumble).2
    constructor
    · rintro ⟨envelope, hfails⟩
      obtain rfl := hinHand hfails
      cases hfails.isSteady.symm.trans hstumble
    · rintro ⟨message, rfl, hfailed⟩
      cases hbroken.symm.trans hfailed
  | none =>
    have hiff := runStart_error_iff (E := E) (s := s.emptyHanded) hstart.isAlive hheld presentation
      hformat position (e := e)
    have hfails : (∃ envelope, s.StartFails E envelope e) ↔
        (s.emptyHanded.runStart E presentation format position).2 = .error e := by
      constructor
      · rintro ⟨envelope, hfails⟩
        obtain rfl := hinHand hfails
        exact hfails.fails
      · intro herror
        exact ⟨_, hhand, rfl, hstart.isAlive, hstart.works, hstumble, herror⟩
    have hresources : (s.execute E).resources =
        (s.emptyHanded.runStart E presentation format position).1.resources :=
      congrArg Backing.resources (backing_execute hhand hlate hstumble)
    rw [hfails, hresources]
    exact hiff

/-- An action that fails a start executes one that was accepted. -/
theorem StartFails.executesStart {s : Session σ β τ} (hreachable : Reachable E s)
    {envelope : Envelope τ} {e : SourceError} (h : s.StartFails E envelope e) :
    s.ExecutesStart .execute := by
  obtain ⟨presentation, format, position, hcommand, hformat⟩ :=
    acceptable_of_hand hreachable h.inHand h.isStart
  refine ⟨rfl, h.isAlive, h.works, envelope.number, presentation, format, position, ?_, hformat⟩
  rw [h.inHand, ← hcommand]

/-- After a failed start, the session is stopped with the selection of its layout, and every start
in hand will fail in the same way and change nothing but its own line. -/
structure FailsAgain (E : Engine σ β) (s : Session σ β τ) (e : SourceError) : Prop where
  phase : s.phase = .stopped
  selection : s.selection = s.layout.defaultActive
  start : ∀ envelope, s.commands.inHand = some envelope → envelope.command.isStart = true →
    s.StartFails E envelope e ∧
      s.execute E = s.emptyHanded.say .executor
        (.commandFailed envelope.number envelope.command.name e)

theorem failsAgain_of_failed {s : Session σ β τ} (hreachable : Reachable E s) {message : String}
    (hfailed : s.resources = .failed message) (hworks : s.executorBroke = false)
    (halive : s.phase ≠ .shutdown) : s.FailsAgain E (.backend message) := by
  have hclosed : ∀ backend binding, s.gist.resources ≠ .opened backend binding := by
    intro backend binding hopened
    rw [gist_resources, hfailed] at hopened
    cases hopened
  obtain ⟨hstopped, hselection⟩ := (shaped_of_reachable hreachable).unstarted halive hclosed
  refine ⟨hstopped, hselection, ?_⟩
  intro envelope hhand hstart
  obtain ⟨presentation, format, position, hcommand, hformat⟩ :=
    acceptable_of_hand hreachable hhand hstart
  have hperform : s.emptyHanded.perform E envelope.command =
      (s.emptyHanded, .error (.backend message)) := by
    -- What failed to open is not opened again.
    have hsame : s.emptyHanded.openResources E = s.emptyHanded := by
      refine openResources_of_ne ?_
      intro hunopened
      cases hfailed.symm.trans hunopened
    have hfailed' : (s.emptyHanded.openResources E).resources = .failed message := by
      rw [hsame]
      exact hfailed
    have hstart := runStart_of_failed hfailed' presentation hformat position
    rw [hsame] at hstart
    rw [hcommand]
    exact hstart
  have hsteady : s.emptyHanded.stumble? E envelope.command = none := by
    refine Option.eq_none_iff_forall_ne_some.mpr ?_
    intro backend hstumble
    cases hfailed.symm.trans (stumble?_eq_some hstumble).2
  have hfails : s.StartFails E envelope (.backend message) :=
    ⟨hhand, hstart, halive, hworks, hsteady, congrArg Prod.snd hperform⟩
  refine ⟨hfails, ?_⟩
  rw [hfails.execute_eq, hperform]

/-! ### Every run -/

theorem opensOnce_of_reachable {s : Session σ β τ} (h : Reachable E s) : s.backing.OpensOnce :=
  backing_induction
    (fun _ _ _ _ _ => ⟨List.nil_prefix, fun _ => rfl⟩)
    (fun hb hturn => hturn.opensOnce hb) h

/-- An action makes calls to open a backend, or opens one. -/
def Opens (E : Engine σ β) (s : Session σ β τ) (action : Action τ) : Prop :=
  (s.step E action).backing.openings ≠ s.backing.openings ∨
    (s.step E action).backing.IsOpened ∧ ¬s.backing.IsOpened

/-- What the first start comes to: the executor breaks off with a new backend, or there is one
attempt to open a backend, and when that fails the start fails for its reason. -/
inductive Tries (E : Engine σ β) (s : Session σ β τ) : Prop
  | breaksOff (hbroke : (s.execute E).executorBroke = true)
      (hcalls : (s.execute E).calls = s.calls ++ [.create]) : Tries E s
  | attempts {r : Resources β} {calls : List Call} (h : E.Attempt s.layout s.info.size r calls)
      (hworks : Backing.Works E { s.backing with resources := r, calls := s.calls ++ calls }
        (s.execute E).backing)
      (hfails : ∀ {message}, r = .failed message →
        ∃ envelope, s.StartFails E envelope (.backend message)) : Tries E s

theorem tries_of_untouched {s : Session σ β τ} (hstart : s.ExecutesStart .execute)
    (huntouched : s.backing.IsUntouched) : s.Tries E := by
  have hturn := backing_step E s .execute
  generalize hc : (s.step E .execute).backing = c at hturn
  cases hturn with
  -- Neither is what a start comes to that finds nothing tried.
  | works hstarts _ => exact absurd huntouched (hstarts hstart)
  | release hquiet _ _ => exact absurd hstart hquiet
  | breakOff _ _ =>
    exact .breaksOff (congrArg Backing.executorBroke hc) (congrArg Backing.calls hc)
  | attempt _ _ hattempt hworks =>
    rw [← hc] at hworks
    refine .attempts hattempt hworks ?_
    rintro message rfl
    have hfailed : (s.execute E).resources = .failed message := by
      have hsame := hworks.eq_of_not_opened (by rintro ⟨_, _, ⟨⟩⟩)
      exact congrArg Backing.resources hsame
    have hheld : s.resources ≠ .released := by
      intro hreleased
      cases huntouched.1.symm.trans hreleased
    exact (startFails_iff hstart hheld).mpr ⟨message, rfl, hfailed⟩

/-- In every run, a backend is created at most once and then connected at most once.  Only the first
start that is executed with an accepted format calls for that, or binds the streams, and it tries
indeed.  A backend that is open is led on by its own operations until the shutdown, under the
binding it has.  After a start has failed, every later one fails with the same error and does
nothing else, while the session is stopped with the selection that it had from the beginning. -/
theorem opened_once {config : SourceConfig} {source : σ} {s₀ : Session σ β τ}
    (h : ofSource E config source = .ok s₀) (before : List (Action τ)) :
    (s₀.run E before).backing.openings <+: [.create, .connect s₀.info.size] ∧
      (∀ action, (s₀.run E before).Opens E action →
        (s₀.run E before).ExecutesStart action ∧ ¬StartsIn E s₀ before) ∧
      ((s₀.run E before).ExecutesStart .execute → ¬StartsIn E s₀ before →
        (s₀.run E before).Tries E) ∧
      (∀ backend binding after, (s₀.run E before).resources = .opened backend binding →
        (s₀.run E (before ++ after)).phase ≠ .shutdown →
          ∃ last calls, E.Leads backend calls last ∧
            (s₀.run E (before ++ after)).resources = .opened last binding ∧
            (s₀.run E (before ++ after)).calls = (s₀.run E before).calls ++ calls) ∧
      ∀ envelope e after, (s₀.run E before).StartFails E envelope e →
        (s₀.run E (before ++ .execute :: after)).phase ≠ .shutdown →
          (s₀.run E (before ++ .execute :: after)).FailsAgain E e := by
  have hreachable : Reachable E (s₀.run E before) := (Reachable.opened h).run before
  refine ⟨?openings, ?opens, ?tries, ?opened, ?failed⟩
  case openings =>
    have hopenings := (opensOnce_of_reachable hreachable).openings
    rwa [show (s₀.run E before).backing.info = s₀.info from (same_run E s₀ before).2] at hopenings
  case opens =>
    intro action hopens
    obtain ⟨hstart, huntouched⟩ := (backing_step E _ action).of_opens hopens
    exact ⟨hstart, ((untouched_run hstart.isAlive).mp huntouched).2⟩
  case tries =>
    intro hstart hfirst
    have hbegun : s₀.backing.IsUntouched := by
      obtain ⟨_, _, _, _, hbacking⟩ := backing_ofSource h
      rw [hbacking]
      exact ⟨rfl, rfl⟩
    exact tries_of_untouched hstart ((untouched_run hstart.isAlive).mpr ⟨hbegun, hfirst⟩)
  case opened =>
    intro backend binding after hopened halive
    rw [run_append] at halive ⊢
    obtain ⟨last, calls, hleads, hrun⟩ := opened_run hopened halive
    exact ⟨last, calls, hleads, congrArg Backing.resources hrun, congrArg Backing.calls hrun⟩
  case failed =>
    intro envelope e after hfails halive
    rw [run_append, run_cons] at halive ⊢
    have hstart := hfails.executesStart hreachable
    have hheld : (s₀.run E before).resources ≠ .released := fun hreleased =>
      hstart.isAlive ((coherent_of_reachable hreachable).released.mp hreleased)
    obtain ⟨message, rfl, hstep⟩ := (startFails_iff hstart hheld).mp ⟨envelope, hfails⟩
    have htried : ((s₀.run E before).step E .execute).backing.resources ≠ .unopened := by
      intro hunopened
      cases hstep.symm.trans hunopened
    have hworks := ((backing_step E (s₀.run E before) .execute).executorBroke htried).trans
      hstart.works
    -- The failure is there after the start, and stays as long as the session lives.
    have hrun := failed_run hstep halive
    have hafter := (hreachable.step .execute).run after
    have hfailed := (congrArg Backing.resources hrun).trans hstep
    have hworks' := (congrArg Backing.executorBroke hrun).trans hworks
    exact failsAgain_of_failed hafter hfailed hworks' halive

end Session

namespace Sketch

/-- An engine whose backends do not connect. -/
def refusing : Engine ScriptedSource ScriptedBackend :=
  { script with connectFault := some .endOfStream }.engine ScriptedSource

/-- The first of two starts is in hand. -/
def insisting : List (Action Nat) := [start [true, true], start [true, false], .take]

/-- The second of them is in hand. -/
def insistingStill : List (Action Nat) := insisting ++ [.execute, .take]

theorem opened_once_insisting :
    (opened.run refusing insisting).Tries refusing ∧
      (opened.run refusing insistingStill).FailsAgain refusing
        (.backend SourceError.endOfStream.message) ∧
      (∃ envelope, (opened.run refusing insistingStill).StartFails refusing envelope
        (.backend SourceError.endOfStream.message)) ∧
      (opened.run refusing (insistingStill ++ [.execute])).backing.openings <+:
        [.create, .connect 0] := by
  have hopened : Session.ofSource refusing .standard source = .ok opened := rfl
  have hstart : (opened.run refusing insisting).ExecutesStart .execute :=
    ⟨rfl, nofun, rfl, 1, _, _, _, rfl, rfl⟩
  have hfirst : ¬Session.StartsIn refusing opened insisting := by
    rintro (⟨hexecute, _⟩ | ⟨hexecute, _⟩ | ⟨hexecute, _⟩ | hnone)
    · cases hexecute
    · cases hexecute
    · cases hexecute
    · exact hnone
  obtain ⟨_, _, htries, _, hfailed⟩ := Session.opened_once hopened insisting
  have hfails : (opened.run refusing insisting).StartFails refusing ⟨1, _⟩
      (.backend SourceError.endOfStream.message) := ⟨rfl, rfl, nofun, rfl, rfl, rfl⟩
  have hagain := hfailed _ _ [.take] hfails nofun
  obtain ⟨hopenings, _⟩ := Session.opened_once hopened (insistingStill ++ [.execute])
  exact ⟨htries hstart hfirst, hagain, ⟨_, (hagain.start ⟨2, _⟩ rfl rfl).1⟩, hopenings⟩

end Sketch
end PullStreams
