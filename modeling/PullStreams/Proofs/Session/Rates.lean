/-
The rate of a session, and where its backend is moved.

A rate is set at once, and a start moves the backend only when the executor comes to it.
So what counts for a move is the rate as it was set last when its start is executed, not
when it was submitted.

* `rateFault?_eq_none_iff` — which rates can be set, by their values;
* `Session.rated?`, `Session.moved?` — what one action sets, and where it moves the backend;
* `tempo_step`, `seeks_step` — what one action does to the rate, to the rates that were
  announced and to the backend's moves;
* `seeks_follow_starts` — every run of a session that was opened.
-/
import PullStreams.Proofs.Number.Value
import PullStreams.Proofs.Session.Posting
import PullStreams.Proofs.Session.Selection
import PullStreams.Proofs.Session.Starting

namespace PullStreams

/-- The rate that an event tells of. -/
def SourceEvent.rate? : SourceEvent → Option Number.Single
  | rateChanged rate => some rate
  | _ => none

def Call.isSeek : Call → Bool
  | seek _ _ => true
  | _ => false

theorem Call.isSeek_of_isReleasing {call : Call} (h : call.isReleasing = true) :
    call.isSeek = false := by
  cases call with
  | seek => cases h
  | _ => rfl

/-- Work does not close the backend. -/
theorem Backing.Works.opened {σ β : Type} {E : Engine σ β} {b c : Backing β} (h : b.Works E c)
    (hopened : ∃ backend binding, b.resources = .opened backend binding) :
    ∃ backend binding, c.resources = .opened backend binding := by
  cases h with
  | rest => exact hopened
  | operate _ _ => exact ⟨_, _, rfl⟩

namespace Session

/-! ### Rates that can be set -/

/-- A number from zero to a million.  A negative zero is such a number. -/
structure IsRate (rate : Number.Single) : Prop where
  finite : rate.IsFinite
  nonneg : 0 ≤ rate.toRat
  le : rate.toRat ≤ 1000000

theorem toRat_fastestRate : fastestRate.toRat = 1000000 := by
  have hsign : fastestRate.isSigned = false := by decide
  have hdecode : fastestRate.decode = (16000000, -4) := by decide
  rw [Number.Single.toRat, hsign, hdecode]
  norm_num

theorem isRate_one : IsRate .one := by
  have hsign : Number.Single.one.isSigned = false := by decide
  have hdecode : Number.Single.one.decode = (8388608, -23) := by decide
  have hvalue : Number.Single.one.toRat = 1 := by
    rw [Number.Single.toRat, hsign, hdecode]
    norm_num
  refine ⟨by decide, ?_, ?_⟩ <;> rw [hvalue] <;> norm_num

theorem not_exceeds_iff {rate : Number.Single} (hnumber : rate.isNaN = false) :
    rate.exceeds fastestRate = false ↔ |rate.toRat| ≤ 1000000 := by
  rw [← Bool.not_eq_true, Number.Single.exceeds_iff, toRat_fastestRate]
  simp [hnumber]

theorem rateFault?_eq_none_iff {thin : Bool} {rate : Number.Single} :
    rateFault? thin rate = none ↔ thin = false ∧ IsRate rate := by
  have hchecks : rateFault? thin rate = none ↔ rate.isBelowZero = false ∧ thin = false ∧
      rate.isNaN = false ∧ rate.exceeds fastestRate = false := by
    unfold rateFault? supportedRate
    cases rate.isBelowZero <;> cases thin <;> cases rate.isNaN <;>
      cases rate.exceeds fastestRate <;> simp
  rw [hchecks]
  constructor
  · rintro ⟨hbelow, hthin, hnumber, hexceeds⟩
    have hnonneg : 0 ≤ rate.toRat := by
      rw [← not_lt, ← Number.Single.isBelowZero_iff hnumber, hbelow]
      decide
    have hmagnitude : ¬fastestRate.magnitude < rate.magnitude := by
      intro hlarge
      simp [Number.Single.exceeds, hnumber, hlarge] at hexceeds
    have hfastest : fastestRate.magnitude < Number.Single.infinityMagnitude := by decide
    exact ⟨hthin, lt_of_le_of_lt (not_lt.mp hmagnitude) hfastest, hnonneg,
      (le_abs_self _).trans ((not_exceeds_iff hnumber).mp hexceeds)⟩
  · rintro ⟨hthin, hrate⟩
    have hnumber := (Number.Single.isFinite_iff.mp hrate.finite).1
    refine ⟨?_, hthin, hnumber, (not_exceeds_iff hnumber).mpr ?_⟩
    · rw [← Bool.not_eq_true, Number.Single.isBelowZero_iff hnumber]
      exact not_lt.mpr hrate.nonneg
    · rw [abs_of_nonneg hrate.nonneg]
      exact hrate.le

variable {σ β τ : Type}

/-- A call to set the rate fails and does nothing, or the rate is one that can be set. -/
theorem setRate_cases (s : Session σ β τ) (thin : Bool) (rate : Number.Single) :
    (∃ e, s.setRate thin rate = (s, .error e)) ∨
      IsRate rate ∧ s.setRate thin rate = ({ s with rate }.post (.rateChanged rate), .ok ()) := by
  unfold setRate
  split
  · exact .inl ⟨_, rfl⟩
  · next hfault =>
    split
    · exact .inl ⟨_, rfl⟩
    · exact .inr ⟨(rateFault?_eq_none_iff.mp hfault).2, rfl⟩

/-- The rate that an action sets, if it sets one. -/
def rated? (s : Session σ β τ) : Action τ → Option Number.Single
  | .setRate thin rate => if (s.setRate thin rate).2.isOk then some rate else none
  | _ => none

theorem isRate_of_rated? {s : Session σ β τ} {action : Action τ} {rate : Number.Single}
    (h : s.rated? action = some rate) : IsRate rate := by
  cases action with
  | setRate thin wanted =>
    rcases setRate_cases s thin wanted with ⟨e, hset⟩ | ⟨hwanted, hset⟩
    · rw [rated?, hset] at h
      cases h
    · rw [rated?, hset] at h
      exact Option.some.inj h ▸ hwanted
  | _ => cases h

/-! ### The rate and what is announced of it -/

/-- The rate, and the rates that the session announced so far. -/
def tempo (s : Session σ β τ) : Number.Single × List Number.Single :=
  (s.rate, s.posted.filterMap SourceEvent.rate?)

theorem tempo_gist (s : Session σ β τ) : s.gist.tempo = s.tempo := by
  have hposted : s.gist.posted = s.posted := filterMap_gist s (fun _ => rfl) fun _ => rfl
  rw [tempo, tempo, hposted, gist_rate]

/-- What posts no rate and leaves the rate alone. -/
theorem tempo_of_posts {s t : Session σ β τ} {events : List SourceEvent} (h : s.Posts events t)
    (hnone : ∀ event ∈ events, event.rate? = none) (hrate : t.rate = s.rate) :
    t.tempo = s.tempo := by
  rw [tempo, tempo, hrate, h.journal, List.filterMap_append, List.filterMap_eq_nil_iff.mpr hnone,
    List.append_nil]

theorem tempo_of_silent {s t : Session σ β τ} (h : s.Posts [] t) (hrate : t.rate = s.rate) :
    t.tempo = s.tempo := tempo_of_posts h (fun _ hmem => absurd hmem List.not_mem_nil) hrate

theorem tempo_record (s : Session σ β τ) {e : Entry τ} (h : e.sourceEvent? = none) :
    (s.record e).tempo = s.tempo := tempo_of_silent (posts_record s h) rfl

theorem rate_announceActive (s : Session σ β τ) (event : StreamEvent τ) :
    (s.announceActive event).rate = s.rate :=
  foldl_keeps (fun (s : Session σ β τ) i => (rfl : (s.announce i event).rate = s.rate)) s
    s.activeIndices

theorem rate_foldl_bring (plan : StartPlan) (s : Session σ β τ) (indices : List Nat) :
    (indices.foldl (bring plan) s).rate = s.rate := by
  refine foldl_keeps (fun s index => ?_) s indices
  simp only [bring]
  split <;> rfl

theorem rate_carryOut (s : Session σ β τ) (plan : StartPlan) :
    (s.carryOut plan).rate = s.rate := by
  have hbrought := rate_foldl_bring plan s (List.range s.streams.length)
  simp only [carryOut]
  split <;> exact hbrought

theorem tempo_carryOut (s : Session σ β τ) (plan : StartPlan) :
    (s.carryOut plan).tempo = s.tempo := by
  refine tempo_of_posts (posts_carryOut s plan) (fun event hmem => ?_) (rate_carryOut s plan)
  rcases List.mem_append.mp hmem with hmem | hmem
  · obtain ⟨index, _, rfl⟩ := List.mem_map.mp hmem
    unfold introduction
    split <;> rfl
  · rw [List.mem_singleton.mp hmem, StartPlan.sourceEvent]
    split <;> rfl

theorem tempo_answerWith (s : Session σ β τ) (index : Nat) (request : Request τ)
    (result : Except SourceError (Option Buffer)) :
    (s.answerWith index request result).1.tempo = s.tempo := by
  match result with
  | .ok (some buffer) =>
    simp only [answerWith]
    split
    · exact tempo_record s rfl
    · exact tempo_of_silent (posts_tell s index _ rfl) rfl
  | .ok none =>
    have hrate : (s.endStream index request).rate = s.rate := by
      simp only [endStream, endPresentation]
      split <;> rfl
    refine tempo_of_posts (posts_endStream s index request) (fun event hmem => ?_) hrate
    split at hmem
    · rw [List.mem_singleton.mp hmem]
      rfl
    · cases hmem
  | .error e => exact tempo_of_silent (posts_tell s index _ rfl) rfl

theorem tempo_performs {g t : Session Unit Unit τ} {command : Command τ}
    (h : Performs g command t) : t.tempo = g.tempo := by
  cases h with
  | start _ _ => exact tempo_carryOut _ _
  | noStart _ _ _ | noPause _ | noStop _ => rfl
  | pause _ =>
    have hquiet := tempo_of_silent (posts_announceActive g .paused) (rate_announceActive g .paused)
    refine (tempo_of_posts (posts_post _ .paused) (fun event hmem => ?_) rfl).trans hquiet
    rw [List.mem_singleton.mp hmem]
    rfl
  | stop _ =>
    have hquiet := tempo_of_silent (posts_announceActive g .stopped)
      (rate_announceActive g .stopped)
    have hdropped := tempo_of_silent
      (posts_dropDeferred { g.announceActive .stopped with phase := .stopped }) rfl
    refine (tempo_of_posts (posts_post _ .stopped) (fun event hmem => ?_) rfl).trans
      (hdropped.trans hquiet)
    rw [List.mem_singleton.mp hmem]
    rfl
  | defer _ => exact tempo_of_silent (posts_of_same rfl rfl) rfl
  | answer _ _ result => exact tempo_answerWith g _ _ result
  | drop _ => exact tempo_record g rfl

/-- Only who sets the rate changes it and announces one. -/
theorem tempo_moves {g t : Session Unit Unit τ} {action : Action τ} (h : Moves g action t)
    (hquiet : ∀ thin rate, action ≠ .setRate thin rate) : t.tempo = g.tempo := by
  cases h with
  | nothing _ | submit _ _ _ | skip _ _ _ | nextEvent | queueEvent | take => rfl
  | @accept index token _ _ =>
    have haccepted := tempo_record
      (g.enqueue (.requestSample index ⟨g.commands.nextNumber, token⟩))
      (e := .accepted index ⟨g.commands.nextNumber, token⟩) rfl
    exact haccepted
  | shutdown _ =>
    have hdropped := posts_dropDeferred
      ({ g with phase := .shutdown, resources := .released } : Session Unit Unit τ)
    have hsame := tempo_of_silent hdropped rfl
    exact hsame
  | setRate _ => exact absurd rfl (hquiet _ _)
  | nextStreamEvent =>
    unfold nextStreamEvent
    split <;> rfl
  | queueStreamEvent =>
    unfold queueStreamEvent
    split <;> rfl
  | execute h =>
    cases h with
    | idle _ | breakOff _ _ _ => rfl
    | discard _ _ =>
      unfold discard
      split
      · next index request _ =>
        have hdropped := tempo_record g.emptyHanded (e := .dropped index request) rfl
        exact hdropped
      · rfl
    | perform _ _ _ h =>
      have hperformed := tempo_performs h
      exact hperformed

/-! ### Moves of the backend -/

/-- The moves that were asked of the backend so far, oldest first. -/
def seeks (s : Session σ β τ) : List Call := s.calls.filter Call.isSeek

theorem seeks_of_backing {s t : Session σ β τ} (h : t.backing = s.backing) : t.seeks = s.seeks :=
  congrArg (fun b : Backing β => b.calls.filter Call.isSeek) h

theorem seeks_of_calls {s t : Session σ β τ} {calls : List Call}
    (h : t.backing.calls = s.backing.calls ++ calls) (hnone : ∀ call ∈ calls, call.isSeek = false) :
    t.seeks = s.seeks := by
  have hcalls : t.calls = s.calls ++ calls := h
  have hfilter : calls.filter Call.isSeek = [] :=
    List.filter_eq_nil_iff.mpr fun call hmem => by rw [hnone call hmem]; decide
  rw [seeks, seeks, hcalls, List.filter_append, hfilter, List.append_nil]

theorem seeks_post (s : Session σ β τ) (event : SourceEvent) : (s.post event).seeks = s.seeks :=
  seeks_of_backing (backing_post s event)

theorem seeks_complain (complaint : SourceError → Notice)
    (r : Session σ β τ × Except SourceError Unit) : (complain complaint r).seeks = r.1.seeks :=
  seeks_of_backing (backing_complain complaint r)

variable [ByteSource σ] {α : Type}

theorem seeks_callBackend (s : Session σ β τ) (binding : Binding) (call : Call)
    (operation : Pull (Outcome β α)) :
    (s.callBackend binding call operation).1.seeks = s.seeks ++ [call].filter Call.isSeek := by
  have hcalls : (s.callBackend binding call operation).1.calls = s.calls ++ [call] :=
    congrArg Backing.calls (backing_callBackend s binding call operation)
  rw [seeks, seeks, hcalls, List.filter_append]

theorem seeks_disableStream (E : Engine σ β) (s : Session σ β τ) (index : Nat) :
    (s.disableStream E index).seeks = s.seeks := by
  unfold disableStream
  split
  · split
    · rfl
    · rw [seeks_complain, seeks_callBackend]
      exact List.append_nil _
  · rfl

theorem seeks_enableStream (E : Engine σ β) (s : Session σ β τ) (index : Nat) :
    (s.enableStream E index).seeks = s.seeks := by
  unfold enableStream
  split
  · split
    · exact seeks_of_backing (backing_say ..)
    · split
      · rfl
      · rw [seeks_complain, seeks_callBackend]
        exact List.append_nil _
  · rfl

theorem seeks_startStream (E : Engine σ β) (plan : StartPlan) (s : Session σ β τ) (index : Nat) :
    (s.startStream E plan index).seeks = s.seeks := by
  simp only [startStream]
  split
  · rw [seeks_of_backing (backing_announce ..), seeks_post, seeks_enableStream]
    rfl
  · exact seeks_disableStream E (s.updateStream index _) index

/-- A backend that is open is moved at the rate of the session, whether it follows or not. -/
theorem seeks_seekBackend (E : Engine σ β) {s : Session σ β τ} {backend : β} {binding : Binding}
    (hopened : s.resources = .opened backend binding) (time : Duration) :
    (s.seekBackend E time).seeks = s.seeks ++ [.seek s.rate time] := by
  unfold seekBackend
  rw [hopened]
  dsimp only
  rw [seeks_complain, seeks_callBackend]
  rfl

/-- A start that is carried out moves the backend once if it goes somewhere, at the rate of that
moment. -/
theorem seeks_startWith (E : Engine σ β) {s : Session σ β τ}
    (hopened : ∃ backend binding, s.resources = .opened backend binding) (ids : List UInt32)
    (position : StartPosition) :
    (s.startWith E ids position).seeks =
      s.seeks ++ (s.startTarget position).toList.map (.seek s.rate) := by
  set plan := s.planStart ids position with hplan
  set told := s.sayAll .executor (s.selectionNotices ids plan) with htold
  set brought := (List.range told.streams.length).foldl (startStream E plan) told with hbrought
  set moved := plan.target.elim brought (brought.seekBackend E) with hmoved
  set cleared := if plan.target.isSome then moved.dropDeferred else moved.requeueDeferred
    with hcleared
  have hbegun : told.backing = s.backing := backing_sayAll ..
  have hstreams : brought.seeks = s.seeks :=
    (foldl_keeps (seeks_startStream E plan) told _).trans (seeks_of_backing hbegun)
  have hrate : brought.rate = s.rate := by
    refine (foldl_keeps (fun (t : Session σ β τ) index => ?_) told _).trans rfl
    have hgist := congrArg Session.rate (gist_startStream E plan t index)
    have hbring := rate_foldl_bring plan t.gist [index]
    exact hgist.trans hbring
  have hstill : ∃ backend binding, brought.resources = .opened backend binding := by
    have hworks := works_foldl (works_startStream E plan) told (List.range told.streams.length)
    rw [hbegun] at hworks
    exact hworks.opened hopened
  have hseek : moved.seeks = s.seeks ++ plan.target.toList.map (.seek s.rate) := by
    rw [hmoved]
    cases plan.target with
    | none => exact hstreams.trans (List.append_nil _).symm
    | some time =>
      obtain ⟨backend, binding, hresources⟩ := hstill
      have hmove := seeks_seekBackend E hresources time
      rw [hstreams, hrate] at hmove
      exact hmove
  have hended : cleared.seeks = moved.seeks := by
    rw [hcleared]
    split
    · exact seeks_of_backing (backing_dropDeferred moved)
    · rfl
  have hrunning : (s.startWith E ids position).seeks = cleared.seeks := by
    simp only [startWith, seeks_post]
    rfl
  rw [hrunning, hended, hseek]
  rfl

/-- No attempt to open a backend moves one. -/
theorem seeks_openResources (E : Engine σ β) (s : Session σ β τ) :
    (s.openResources E).seeks = s.seeks := by
  by_cases hunopened : s.resources = .unopened
  · obtain ⟨r, calls, hattempt, hopened⟩ := attempt_openResources E hunopened
    have hnone : ∀ call ∈ calls, call.isSeek = false := by
      cases hattempt <;> simp [Call.isSeek]
    exact seeks_of_calls (congrArg Backing.calls hopened) hnone
  · rw [openResources_of_ne hunopened]

theorem seeks_runStart (E : Engine σ β) (s : Session σ β τ) (presentation : Presentation)
    (format : TimeFormat) (position : StartPosition) :
    (s.runStart E presentation format position).1.seeks =
      s.seeks ++ (if (s.runStart E presentation format position).2.isOk then
        s.startTarget position else none).toList.map (.seek s.rate) := by
  rcases runStart_ends E s presentation format position with
    ⟨backend, binding, hopened, hrun⟩ | ⟨t, e, hrun, hsame⟩
  · have hgist := gist_openResources E s
    have hrate := congrArg Session.rate hgist
    have hphase := congrArg Session.phase hgist
    rw [gist_rate] at hrate
    rw [gist_phase] at hphase
    have htarget : (s.openResources E).startTarget position = s.startTarget position := by
      simp only [startTarget, hphase, gist_phase]
    rw [hrun]
    dsimp only
    rw [seeks_startWith E ⟨backend, binding, hopened⟩, seeks_openResources, htarget, hrate]
    rfl
  · have hnowhere : t.seeks = s.seeks := by
      rcases hsame with rfl | rfl
      · rfl
      · exact seeks_openResources E s
    rw [hrun]
    exact hnowhere.trans (List.append_nil _).symm

/-- Other commands than starts move no backend. -/
theorem seeks_perform (E : Engine σ β) (s : Session σ β τ) {command : Command τ}
    (hcommand : command.isStart = false) : (s.perform E command).1.seeks = s.seeks := by
  have hquiet : ∀ event, (s.announceActive event).seeks = s.seeks := fun event =>
    seeks_of_backing (backing_announceActive s event)
  cases command with
  | start => cases hcommand
  | pause =>
    simp only [perform, runPause]
    split
    · rw [seeks_post]
      exact hquiet .paused
    · rfl
  | stop =>
    have hstopped : ({ s.announceActive .stopped with phase := .stopped }.dropDeferred.post
        .stopped).seeks = s.seeks := by
      rw [seeks_post, seeks_of_backing (backing_dropDeferred _)]
      exact hquiet .stopped
    simp only [perform, runStop]
    split
    · exact hstopped
    · exact hstopped
    · rfl
  | requestSample index request =>
    have hdropped : (s.drop index request).seeks = s.seeks :=
      seeks_of_backing (backing_drop s index request)
    simp only [perform, runRequest]
    split
    · rfl
    · split
      · unfold deliver
        split
        · split
          · exact hdropped
          · rw [seeks_of_backing (backing_answerWith ..), seeks_callBackend]
            exact List.append_nil _
        · exact hdropped
      · exact hdropped
    · exact hdropped
    · exact hdropped

/-! ### Every action -/

/-- Where an action moves the backend: to where the session departs to by a start that is carried
out. -/
def moved? (E : Engine σ β) (s : Session σ β τ) : Action τ → Option Duration
  | .execute =>
    match s.commands.inHand with
    | some ⟨_, .start presentation format position⟩ =>
      if s.carriesOut E (.start presentation format position) then
        (s.departure position).position?
      else none
    | _ => none
  | _ => none

/-- An action leaves the rate and what was announced of it alone, or sets and announces one. -/
theorem tempo_step (E : Engine σ β) (s : Session σ β τ) (action : Action τ) :
    (s.step E action).tempo =
      ((s.rated? action).getD s.rate, s.tempo.2 ++ (s.rated? action).toList) := by
  by_cases hquiet : ∀ thin rate, action ≠ .setRate thin rate
  · have hnone : s.rated? action = none := by
      cases action with
      | setRate thin rate => exact absurd rfl (hquiet thin rate)
      | _ => rfl
    have hsame := tempo_moves (moves_step E s action) hquiet
    rw [tempo_gist, tempo_gist] at hsame
    rw [hsame, hnone]
    exact Prod.ext rfl (List.append_nil _).symm
  · push Not at hquiet
    obtain ⟨thin, rate, rfl⟩ := hquiet
    have hstep : s.step E (.setRate thin rate) = (s.setRate thin rate).1 := rfl
    rcases setRate_cases s thin rate with ⟨e, hset⟩ | ⟨_, hset⟩
    · rw [hstep, rated?, hset]
      exact Prod.ext rfl (List.append_nil _).symm
    · have hposted := (posts_post { s with rate } (.rateChanged rate)).journal
      rw [hstep, rated?, hset]
      refine Prod.ext rfl ?_
      show List.filterMap SourceEvent.rate? _ = _
      rw [hposted, List.filterMap_append]
      rfl

theorem seeks_execute (E : Engine σ β) (s : Session σ β τ) :
    (s.execute E).seeks = s.seeks ++ (s.moved? E .execute).toList.map (.seek s.rate) := by
  cases hhand : s.commands.inHand with
  | none =>
    have hsame : s.execute E = s := by rw [execute, hhand]
    simp [hsame, moved?, hhand]
  | some envelope =>
    -- What is not carried out moves nothing.
    have hnowhere : ¬s.Completes E envelope.command → s.moved? E .execute = none := by
      intro hfails
      rw [← carriesOut_iff hhand] at hfails
      simp only [moved?, hhand]
      split
      · next heq =>
        obtain rfl := Option.some.inj heq
        exact if_neg hfails
      · rfl
    by_cases hlate : s.phase = .shutdown ∨ s.executorBroke = true
    · have hfails : ¬s.Completes E envelope.command := fun h => by
        simp [h.isAlive, h.works] at hlate
      rw [hnowhere hfails, execute_of_hand E hhand, if_pos hlate,
        seeks_of_backing (backing_discard ..)]
      exact (List.append_nil _).symm
    · obtain ⟨halive, hworks⟩ := not_or.mp hlate
      cases hstumble : s.emptyHanded.stumble? E envelope.command with
      | some backend =>
        have hfails : ¬s.Completes E envelope.command := fun h => by
          cases hstumble.symm.trans h.isSteady
        have hcreated : (s.emptyHanded.breakOff E backend).seeks = s.seeks :=
          seeks_of_calls (s := s) (congrArg Backing.calls (backing_breakOff E s.emptyHanded backend))
            (by decide)
        rw [hnowhere hfails, execute_of_hand E hhand, if_neg hlate, hstumble]
        exact hcreated.trans (List.append_nil _).symm
      | none =>
        rw [seeks_of_backing (backing_execute hhand hlate hstumble)]
        obtain ⟨number, command⟩ := envelope
        cases hcommand : command.isStart with
        | false =>
          have hmoved : s.moved? E .execute = none := by
            cases command with
            | start => cases hcommand
            | _ => simp only [moved?, hhand]
          rw [hmoved, seeks_perform E s.emptyHanded hcommand]
          exact (List.append_nil _).symm
        | true =>
          cases command with
          | start presentation format position =>
            have hcarries : s.carriesOut E (.start presentation format position) =
                (s.emptyHanded.runStart E presentation format position).2.isOk := by
              simp [carriesOut, halive, hworks, hstumble, perform]
            have hmoved : s.moved? E .execute =
                if (s.emptyHanded.runStart E presentation format position).2.isOk then
                  s.startTarget position else none := by
              simp only [moved?, hhand, hcarries, startTarget_eq]
            rw [hmoved]
            exact seeks_runStart E s.emptyHanded presentation format position
          | _ => cases hcommand

theorem seeks_step (E : Engine σ β) (s : Session σ β τ) (action : Action τ) :
    (s.step E action).seeks = s.seeks ++ (s.moved? E action).toList.map (.seek s.rate) := by
  by_cases hexecute : action = .execute
  · rw [hexecute]
    exact seeks_execute E s
  · have hnone : s.moved? E action = none := by
      cases action with
      | execute => exact absurd rfl hexecute
      | _ => rfl
    rw [hnone]
    refine Eq.trans ?_ (List.append_nil _).symm
    by_cases hshutdown : action = .shutdown
    · by_cases halive : s.phase = .shutdown
      · have hsame : s.step E action = s := by simp [hshutdown, step, act, shutdown, halive]
        rw [hsame]
      · obtain ⟨calls, hcalls, hshut⟩ := backing_shutdown E halive
        rw [hshutdown]
        exact seeks_of_calls (congrArg Backing.calls hshut) fun call hmem =>
          Call.isSeek_of_isReleasing (hcalls call hmem)
    · exact seeks_of_backing (backing_act E s hexecute hshutdown)

/-! ### Runs -/

/-- The rates that a run sets, in order. -/
def ratesSet (E : Engine σ β) : Session σ β τ → List (Action τ) → List Number.Single
  | _, [] => []
  | s, action :: actions => (s.rated? action).toList ++ ratesSet E (s.step E action) actions

/-- The moves that a run makes, each at the rate that was set last before, or at `latest`. -/
def movesMade (E : Engine σ β) (latest : Number.Single) :
    Session σ β τ → List (Action τ) → List (Number.Single × Duration)
  | _, [] => []
  | s, action :: actions =>
    (s.moved? E action).toList.map (latest, ·) ++
      movesMade E ((s.rated? action).getD latest) (s.step E action) actions

theorem tempo_run (E : Engine σ β) (s : Session σ β τ) (actions : List (Action τ)) :
    (s.run E actions).tempo =
      ((s.ratesSet E actions).getLast?.getD s.rate, s.tempo.2 ++ s.ratesSet E actions) := by
  induction actions generalizing s with
  | nil => exact Prod.ext rfl (List.append_nil _).symm
  | cons action actions ih =>
    have hstep := tempo_step E s action
    have hrate : (s.step E action).rate = (s.rated? action).getD s.rate := congrArg Prod.fst hstep
    rw [run_cons, ih, hstep, ratesSet, hrate, List.append_assoc]
    refine Prod.ext ?_ rfl
    dsimp only
    cases s.rated? action with
    | none => rfl
    | some rate =>
      rw [Option.toList_some, List.singleton_append, List.getLast?_cons, Option.getD_some]
      rfl

theorem seeks_run (E : Engine σ β) (s : Session σ β τ) (actions : List (Action τ)) :
    (s.run E actions).seeks =
      s.seeks ++ (s.movesMade E s.rate actions).map fun move => .seek move.1 move.2 := by
  induction actions generalizing s with
  | nil => exact (List.append_nil _).symm
  | cons action actions ih =>
    have hrate : (s.step E action).rate = (s.rated? action).getD s.rate :=
      congrArg Prod.fst (tempo_step E s action)
    rw [run_cons, ih, seeks_step, hrate, movesMade, List.append_assoc, List.map_append, List.map_map]
    rfl

theorem isRate_movesMade {E : Engine σ β} {latest : Number.Single} (hlatest : IsRate latest)
    {s : Session σ β τ} {actions : List (Action τ)} {move : Number.Single × Duration}
    (hmove : move ∈ s.movesMade E latest actions) : IsRate move.1 := by
  induction actions generalizing s latest with
  | nil => exact absurd hmove List.not_mem_nil
  | cons action actions ih =>
    rw [movesMade] at hmove
    rcases List.mem_append.mp hmove with hmove | hmove
    · obtain ⟨time, _, rfl⟩ := List.mem_map.mp hmove
      exact hlatest
    · refine ih ?_ hmove
      cases hrated : s.rated? action with
      | none => exact hlatest
      | some rate => exact isRate_of_rated? hrated

/-- The rate of whatever can be reached is one that can be set. -/
theorem isRate_of_reachable {E : Engine σ β} {s : Session σ β τ} (h : Reachable E s) :
    IsRate s.rate := by
  induction h with
  | opened h =>
    obtain ⟨info, layout, after, hgist⟩ := gist_ofSource h
    have hrate := congrArg Session.rate hgist
    rw [gist_rate, gist_rate] at hrate
    rw [hrate]
    exact isRate_one
  | @step s _ action ih =>
    have hrate : (s.step E action).rate = (s.rated? action).getD s.rate :=
      congrArg Prod.fst (tempo_step E s action)
    rw [hrate]
    cases hrated : s.rated? action with
    | none => exact ih
    | some rate => exact isRate_of_rated? hrated

/-- In every run of a session that was opened, the backend is moved once for each start that is
carried out and goes somewhere, in this order, to where it goes, at the rate that was set last when
it was carried out, or at one; and it is not moved otherwise.  The rates that were announced are
those that were set, in this order, and the rate is the last of them.  All are numbers from zero to
a million. -/
theorem seeks_follow_starts {E : Engine σ β} {config : SourceConfig} {source : σ}
    {opened : Session σ β τ} (h : ofSource E config source = .ok opened)
    (actions : List (Action τ)) :
    (opened.run E actions).seeks =
        ((opened.movesMade E .one actions).map fun move => .seek move.1 move.2) ∧
      (∀ move ∈ opened.movesMade E .one actions, IsRate move.1) ∧
      (opened.run E actions).posted.filterMap SourceEvent.rate? = opened.ratesSet E actions ∧
      (opened.run E actions).rate = (opened.ratesSet E actions).getLast?.getD .one ∧
      IsRate (opened.run E actions).rate := by
  obtain ⟨info, layout, after, hgist⟩ := gist_ofSource h
  have hbegun : opened.tempo = (.one, []) := by
    rw [← tempo_gist, hgist]
    rfl
  have hrate : opened.rate = .one := congrArg Prod.fst hbegun
  have hsilent : opened.tempo.2 = [] := congrArg Prod.snd hbegun
  have hunmoved : opened.seeks = [] := by
    obtain ⟨_, _, _, _, hbacking⟩ := backing_ofSource h
    have hcalls : opened.calls = _ := congrArg Backing.calls hbacking
    rw [seeks, hcalls]
    rfl
  have hseeks := seeks_run E opened actions
  have htempo := tempo_run E opened actions
  rw [hrate, hunmoved] at hseeks
  rw [hrate, hsilent] at htempo
  refine ⟨hseeks, fun move hmove => isRate_movesMade isRate_one hmove, congrArg Prod.snd htempo,
    congrArg Prod.fst htempo, isRate_of_reachable ((Reachable.opened h).run actions)⟩

end Session

namespace Sketch

/-- A half. -/
def half : Number.Single := ⟨0x3f000000⟩

/-- A call to start the streams that are marked, at a position. -/
def startAt (marks : List Bool) (position : Duration) : Action Nat :=
  .start (.ofMarks opened.layout.descriptors marks "" 0 none) .default (.at position)

/-- The rate is set before a start is submitted, between that and its execution, and after it; what
is no number and what is below zero is not set.  Of the later starts only the second gives a
position. -/
def hurried : List (Action Nat) :=
  [.setRate false ⟨0x40000000⟩, start [true, true], .take, .setRate false half,
    .setRate false ⟨0x7fc00000⟩, .execute, .setRate false ⟨0xbf800000⟩, .setRate false ⟨0x80000000⟩,
    start [true, false], .take, .execute, startAt [true, true] ⟨2500000000⟩, .take, .execute]

/-- A stopped session is moved to zero, one under way only when it is given a position, and then
there. -/
theorem seeks_follow_starts_hurried :
    (play hurried).seeks = [.seek half .zero, .seek ⟨0x80000000⟩ ⟨2500000000⟩] ∧
      (play hurried).posted.filterMap SourceEvent.rate? = [⟨0x40000000⟩, half, ⟨0x80000000⟩] ∧
      (play hurried).rate = ⟨0x80000000⟩ ∧ Session.IsRate ⟨0x80000000⟩ := by
  obtain ⟨hseeks, _, hposted, hrate, hrange⟩ :=
    Session.seeks_follow_starts opened_eq hurried
  have hmoves : opened.movesMade engine .one hurried =
      [(half, .zero), (⟨0x80000000⟩, ⟨2500000000⟩)] := by decide +kernel
  have hset : opened.ratesSet engine hurried = [⟨0x40000000⟩, half, ⟨0x80000000⟩] := by
    decide +kernel
  rw [hmoves] at hseeks
  rw [hset] at hposted hrate
  rw [hrate] at hrange
  exact ⟨hseeks, hposted, hrate, hrange⟩

end Sketch
end PullStreams
