/-
What a session tells its streams, and that its journal says so.

Every event that a session posts on a stream's queue of its own accord has a line in
the journal, and every such line was posted: `Session.Tells` ties the two together.
Consumers who take events, or queue some of their own, and the shutdown, which
empties the queues, are the only ones who act on a stream's queue besides.

* `tells_moves` — every other action tells what it writes;
* `Entry.IsSound` — what a line says about a request is about that request: a sample
  is told as an answer only, and with the token of the request that it answers.
-/
import PullStreams.Proofs.Session.Transition

namespace PullStreams

namespace EventQueue

variable {α : Type}

theorem isShutDown_tryNext (q : EventQueue α) : q.tryNext.1.isShutDown = q.isShutDown := by
  unfold tryNext
  split
  · rfl
  · split <;> rfl

theorem isShutDown_foldl_post (q : EventQueue α) (posted : List α) :
    (posted.foldl post q).isShutDown = q.isShutDown :=
  foldl_keeps isShutDown_post q posted

/-- A queue that is shut down takes nothing. -/
theorem foldl_post_of_shut {q : EventQueue α} (h : q.isShutDown = true) (posted : List α) :
    posted.foldl post q = q := by
  have hpost : ∀ event, q.post event = q := fun event => by rw [post, push, if_pos h]
  induction posted with
  | nil => rfl
  | cons event posted ih => rw [List.foldl_cons, hpost, ih]

/-- An open queue takes all that is posted. -/
theorem pending_foldl_post {q : EventQueue α} (h : q.isShutDown = false) (posted : List α) :
    (posted.foldl post q).pending = q.pending ++ posted := by
  induction posted generalizing q with
  | nil => simp
  | cons event posted ih =>
    have hopen : (q.post event).isShutDown = false := by rw [isShutDown_post, h]
    rw [List.foldl_cons, ih hopen, pending_post, h]
    simp

end EventQueue

/-- Whether an event can answer a request: a sample with its token, the end of the stream or an
error. -/
def StreamEvent.Answers {τ : Type} : StreamEvent τ → Request τ → Prop
  | .sample given, request => given.token = request.token
  | .endOfStream, _ | .error _, _ => True
  | _, _ => False

/-- Whether an event can be told without a request. -/
def StreamEvent.IsNews {τ : Type} : StreamEvent τ → Prop
  | .started _ | .seeked _ | .paused | .stopped => True
  | _ => False

/-- Whether the event of a line suits what the line says of it. -/
def Entry.IsSound {τ : Type} : Entry τ → Prop
  | .announced _ event => event.IsNews
  | .answered _ request event => event.Answers request
  | _ => True

/-- Whether an action is about a stream's queue itself. -/
def Action.touchesQueues {τ : Type} : Action τ → Bool
  | .nextStreamEvent _ | .queueStreamEvent _ _ | .shutdown => true
  | _ => false

namespace Session

variable {σ β τ : Type}

/-- What a session told a stream so far. -/
def toldTo (s : Session σ β τ) (index : Nat) : List (StreamEvent τ) :=
  s.journal.filterMap (Entry.streamEvent? index)

/-- The session goes on to `t` with sound lines, and posts their events on the streams' queues and
no others. -/
def Tells (s t : Session σ β τ) : Prop :=
  ∃ lines : List (Entry τ), t.journal = s.journal ++ lines ∧ (∀ e ∈ lines, e.IsSound) ∧
    ∀ i, t.streams[i]?.map (·.events) = s.streams[i]?.map fun stream =>
      (lines.filterMap (Entry.streamEvent? i)).foldl EventQueue.post stream.events

/-! ### Telling step by step -/

theorem tells_refl (s : Session σ β τ) : s.Tells s :=
  ⟨[], by simp, by simp, fun _ => rfl⟩

theorem Tells.trans {r s t : Session σ β τ} (hrs : r.Tells s) (hst : s.Tells t) : r.Tells t := by
  obtain ⟨first, hfirst, hfirstSound, hfirstPosted⟩ := hrs
  obtain ⟨second, hsecond, hsecondSound, hsecondPosted⟩ := hst
  refine ⟨first ++ second, ?_, ?_, fun i => ?_⟩
  · rw [hsecond, hfirst, List.append_assoc]
  · intro e he
    rcases List.mem_append.mp he with he | he
    · exact hfirstSound e he
    · exact hsecondSound e he
  · have hposted : s.streams[i]?.map (fun stream =>
          (second.filterMap (Entry.streamEvent? i)).foldl EventQueue.post stream.events) =
        (s.streams[i]?.map (·.events)).map fun queue =>
          (second.filterMap (Entry.streamEvent? i)).foldl EventQueue.post queue := by
      rw [Option.map_map]
      rfl
    rw [hsecondPosted, hposted, hfirstPosted, Option.map_map, List.filterMap_append]
    simp only [Function.comp_def, List.foldl_append]

/-- What leaves the journal and the streams alone tells nothing. -/
theorem tells_of_same {s t : Session σ β τ} (hjournal : t.journal = s.journal)
    (hstreams : t.streams = s.streams) : s.Tells t :=
  ⟨[], by simp [hjournal], by simp, fun i => by rw [hstreams]; rfl⟩

/-- Lines without events tell nothing. -/
theorem tells_recordAll (s : Session σ β τ) {lines : List (Entry τ)}
    (hsound : ∀ e ∈ lines, e.IsSound) (hsilent : ∀ e ∈ lines, ∀ i, e.streamEvent? i = none) :
    s.Tells (s.recordAll lines) := by
  refine ⟨lines, rfl, hsound, fun i => ?_⟩
  rw [List.filterMap_eq_nil_iff.mpr fun e he => hsilent e he i]
  rfl

theorem tells_record (s : Session σ β τ) {e : Entry τ} (hsound : e.IsSound)
    (hsilent : ∀ i, e.streamEvent? i = none) : s.Tells (s.record e) := by
  have hsounds : ∀ line ∈ [e], line.IsSound := by simpa using hsound
  exact tells_recordAll s hsounds (by simpa using hsilent)

theorem tells_updateStream (s : Session σ β τ) (index : Nat) {f : StreamState τ → StreamState τ}
    (h : ∀ stream, (f stream).events = stream.events) : s.Tells (s.updateStream index f) := by
  refine ⟨[], by simp [updateStream], by simp, fun i => ?_⟩
  simp only [updateStream, List.getElem?_modify, Option.map_eq_map, Option.map_map]
  congr 1
  funext stream
  simp only [Function.comp_apply]
  split
  · exact h stream
  · rfl

/-- An event that is posted with a line about it is told. -/
theorem tells_tell (s : Session σ β τ) (index : Nat) {event : StreamEvent τ} {e : Entry τ}
    (hsound : e.IsSound)
    (hevent : ∀ i, e.streamEvent? i = if index = i then some event else none) :
    s.Tells ((s.tell index event).record e) := by
  refine ⟨[e], rfl, by simpa using hsound, fun i => ?_⟩
  simp only [tell, updateStream, record, List.getElem?_modify, Option.map_eq_map, Option.map_map]
  congr 1
  funext stream
  simp only [Function.comp_apply, List.filterMap_cons, hevent i]
  split <;> rfl

theorem tells_announce (s : Session σ β τ) (index : Nat) {event : StreamEvent τ}
    (h : event.IsNews) : s.Tells (s.announce index event) :=
  tells_tell s index h fun _ => rfl

theorem tells_answer (s : Session σ β τ) (index : Nat) {request : Request τ}
    {event : StreamEvent τ} (h : event.Answers request) :
    s.Tells (s.answer index request event) :=
  tells_tell s index h fun _ => rfl

theorem tells_drop (s : Session σ β τ) (index : Nat) (request : Request τ) :
    s.Tells (s.drop index request) :=
  tells_record s trivial fun _ => rfl

theorem tells_post (s : Session σ β τ) (event : SourceEvent) : s.Tells (s.post event) :=
  (tells_of_same rfl rfl).trans (tells_record _ trivial fun _ => rfl)

theorem tells_foldl {f : Session σ β τ → Nat → Session σ β τ}
    (h : ∀ (s : Session σ β τ) i, s.Tells (f s i)) (s : Session σ β τ) (indices : List Nat) :
    s.Tells (indices.foldl f s) := by
  induction indices generalizing s with
  | nil => exact tells_refl s
  | cons i indices ih => exact (h s i).trans (ih (f s i))

theorem tells_announceActive (s : Session σ β τ) {event : StreamEvent τ} (h : event.IsNews) :
    s.Tells (s.announceActive event) :=
  tells_foldl (fun s i => tells_announce s i h) s s.activeIndices

theorem tells_clearDeferred (s : Session σ β τ) : s.Tells s.clearDeferred := by
  refine ⟨[], by simp [clearDeferred], by simp, fun i => ?_⟩
  simp only [clearDeferred, List.getElem?_map, Option.map_map]
  rfl

theorem tells_dropDeferred (s : Session σ β τ) : s.Tells s.dropDeferred := by
  refine (tells_clearDeferred s).trans (tells_recordAll _ (fun e he => ?_) fun e he => ?_)
  · obtain ⟨_, _, rfl⟩ := List.mem_map.mp he
    exact trivial
  · obtain ⟨_, _, rfl⟩ := List.mem_map.mp he
    exact fun _ => rfl

theorem tells_requeueDeferred (s : Session σ β τ) : s.Tells s.requeueDeferred :=
  (tells_clearDeferred s).trans (tells_of_same rfl rfl)

/-! ### Commands -/

theorem isNews_streamEvent (plan : StartPlan) : (plan.streamEvent : StreamEvent τ).IsNews := by
  unfold StartPlan.streamEvent
  split <;> exact trivial

theorem tells_bring (plan : StartPlan) (s : Session σ β τ) (index : Nat) :
    s.Tells (s.bring plan index) := by
  have hupdate := tells_updateStream s index (f := plan.applyTo (plan.selects index)) fun _ => rfl
  simp only [bring]
  split
  · exact (hupdate.trans (tells_post ..)).trans (tells_announce _ _ (isNews_streamEvent plan))
  · exact hupdate

theorem tells_carryOut (s : Session σ β τ) (plan : StartPlan) : s.Tells (s.carryOut plan) := by
  set brought := (List.range s.streams.length).foldl (bring plan) s with hbrought
  have htold : s.Tells brought := tells_foldl (tells_bring plan) s _
  have hcleared : brought.Tells
      (if plan.target.isSome then brought.dropDeferred else brought.requeueDeferred) := by
    split
    · exact tells_dropDeferred brought
    · exact tells_requeueDeferred brought
  simp only [carryOut, ← hbrought]
  exact ((htold.trans hcleared).trans (tells_of_same rfl rfl)).trans (tells_post ..)

theorem tells_endStream (s : Session σ β τ) (index : Nat) (request : Request τ) :
    s.Tells (s.endStream index request) := by
  have hupdated := tells_updateStream s index
    (f := fun stream => { stream with hasEnded := true }) fun _ => rfl
  have hanswers : StreamEvent.Answers .endOfStream request := trivial
  have hended := hupdated.trans (tells_answer _ index hanswers)
  unfold endStream endPresentation
  split
  · exact hended.trans ((tells_of_same rfl rfl).trans (tells_post ..))
  · exact hended

theorem tells_answerWith (s : Session σ β τ) (index : Nat) (request : Request τ)
    (result : Except SourceError (Option Buffer)) :
    s.Tells (s.answerWith index request result).1 := by
  match result with
  | .ok (some buffer) =>
    simp only [answerWith]
    split
    · exact tells_drop ..
    · have hanswers : StreamEvent.Answers (.sample (sampleOf buffer request)) request := rfl
      exact tells_answer s index hanswers
  | .ok none => exact tells_endStream ..
  | .error e => exact tells_answer _ _ trivial

theorem tells_performs {g t : Session Unit Unit τ} {command : Command τ}
    (h : Performs g command t) : g.Tells t := by
  cases h with
  | start _ _ => exact (tells_of_same rfl rfl).trans (tells_carryOut ..)
  | noStart _ _ _ => exact tells_of_same rfl rfl
  | pause _ =>
    have hnews : StreamEvent.IsNews (.paused : StreamEvent τ) := trivial
    have hpaused := tells_announceActive g hnews
    exact (hpaused.trans (tells_of_same rfl rfl)).trans (tells_post ..)
  | noPause _ | noStop _ => exact tells_refl g
  | stop _ =>
    have hnews : StreamEvent.IsNews (.stopped : StreamEvent τ) := trivial
    have hstopped := tells_announceActive g hnews
    exact ((hstopped.trans (tells_of_same rfl rfl)).trans (tells_dropDeferred _)).trans
      (tells_post ..)
  | defer _ => exact tells_updateStream _ _ fun _ => rfl
  | answer _ _ result => exact tells_answerWith ..
  | drop _ => exact tells_drop ..

theorem tells_executes {g t : Session Unit Unit τ} (h : Executes g t) : g.Tells t := by
  cases h with
  | idle _ => exact tells_refl g
  | discard _ _ =>
    unfold discard
    split
    · exact (tells_of_same rfl rfl).trans (tells_drop ..)
    · exact tells_of_same rfl rfl
  | breakOff _ _ _ => exact tells_of_same rfl rfl
  | perform _ _ _ h =>
    have hempty : g.Tells g.emptyHanded := tells_of_same rfl rfl
    exact hempty.trans (tells_performs h)

theorem tells_moves {g t : Session Unit Unit τ} {action : Action τ} (h : Moves g action t)
    (haction : action.touchesQueues = false) : g.Tells t := by
  cases h with
  | nothing _ => exact tells_refl g
  | submit _ _ _ | skip _ _ _ => exact tells_of_same rfl rfl
  | accept _ _ => exact (tells_of_same rfl rfl).trans (tells_record _ trivial fun _ => rfl)
  | shutdown _ | nextStreamEvent | queueStreamEvent => cases haction
  | setRate _ => exact (tells_of_same rfl rfl).trans (tells_post ..)
  | nextEvent | queueEvent | take => exact tells_of_same rfl rfl
  | execute h => exact tells_executes h

/-- Those who act on the queues themselves write no line with an event. -/
theorem silent_moves {g t : Session Unit Unit τ} {action : Action τ} (h : Moves g action t)
    (haction : action.touchesQueues = true) :
    ∃ lines : List (Entry τ), t.journal = g.journal ++ lines ∧ (∀ e ∈ lines, e.IsSound) ∧
      ∀ e ∈ lines, ∀ i, e.streamEvent? i = none := by
  have hsame : t.journal = g.journal → ∃ lines : List (Entry τ),
      t.journal = g.journal ++ lines ∧ (∀ e ∈ lines, e.IsSound) ∧
        ∀ e ∈ lines, ∀ i, e.streamEvent? i = none := fun heq =>
    ⟨[], by rw [heq, List.append_nil], by simp, by simp⟩
  cases h with
  | nothing _ | submit _ _ _ | skip _ _ _ => exact hsame rfl
  | nextStreamEvent =>
    simp only [nextStreamEvent] at hsame ⊢
    split at hsame <;> exact hsame rfl
  | queueStreamEvent =>
    simp only [queueStreamEvent] at hsame ⊢
    split at hsame <;> exact hsame rfl
  | shutdown _ =>
    -- A shutdown writes of the requests that it gives up, and tells them nothing.
    refine ⟨g.deferredRequests.map fun a => .dropped a.1 a.2, rfl,
      fun e he => ?_, fun e he => ?_⟩
    · obtain ⟨_, _, rfl⟩ := List.mem_map.mp he
      exact trivial
    · obtain ⟨_, _, rfl⟩ := List.mem_map.mp he
      exact fun _ => rfl
  | _ => cases haction

theorem sound_moves {g t : Session Unit Unit τ} {action : Action τ}
    (hg : ∀ e ∈ g.journal, e.IsSound) (h : Moves g action t) : ∀ e ∈ t.journal, e.IsSound := by
  -- Told or silent, the journal only grows by sound lines.
  have hgrown : ∃ lines : List (Entry τ),
      t.journal = g.journal ++ lines ∧ ∀ e ∈ lines, e.IsSound := by
    cases haction : action.touchesQueues with
    | false =>
      obtain ⟨lines, hjournal, hsound, _⟩ := tells_moves h haction
      exact ⟨lines, hjournal, hsound⟩
    | true =>
      obtain ⟨lines, hjournal, hsound, _⟩ := silent_moves h haction
      exact ⟨lines, hjournal, hsound⟩
  obtain ⟨lines, hjournal, hsound⟩ := hgrown
  intro e he
  rw [hjournal] at he
  rcases List.mem_append.mp he with he | he
  · exact hg e he
  · exact hsound e he

theorem toldTo_gist (s : Session σ β τ) (index : Nat) : s.gist.toldTo index = s.toldTo index :=
  filterMap_gist s (fun _ => rfl) fun _ => rfl

theorem sound_of_reachable [ByteSource σ] {E : Engine σ β} {s : Session σ β τ}
    (h : Reachable E s) : ∀ e ∈ s.journal, e.IsSound := by
  have hgist : ∀ e ∈ s.gist.journal, e.IsSound :=
    gist_induction (P := fun g => ∀ e ∈ g.journal, e.IsSound)
      (fun _ _ _ _ e he => by simp [fresh] at he) sound_moves h
  intro e he
  cases htalk : e.isTalk with
  | false => exact hgist e (List.mem_filter.mpr ⟨he, by rw [htalk]; rfl⟩)
  | true =>
    cases e with
    | called | said => exact trivial
    | _ => cases htalk

/-- An action posts on a stream's queue what it writes down as told, unless it is about the queue
itself; then it tells nothing. -/
theorem step_tells [ByteSource σ] (E : Engine σ β) (s : Session σ β τ) (action : Action τ)
    (index : Nat) :
    ∃ told, (s.step E action).toldTo index = s.toldTo index ++ told ∧
      if action.touchesQueues then told = []
      else (s.step E action).streams[index]?.map (·.events) =
        s.streams[index]?.map fun stream => told.foldl EventQueue.post stream.events := by
  have hmoves := moves_step E s action
  rw [← toldTo_gist (s.step E action), ← toldTo_gist s]
  cases haction : action.touchesQueues with
  | true =>
    obtain ⟨lines, hjournal, _, hsilent⟩ := silent_moves hmoves haction
    refine ⟨[], ?_, rfl⟩
    rw [toldTo, hjournal, List.filterMap_append,
      List.filterMap_eq_nil_iff.mpr fun e he => hsilent e he index]
    rfl
  | false =>
    obtain ⟨lines, hjournal, _, hposted⟩ := tells_moves hmoves haction
    refine ⟨lines.filterMap (Entry.streamEvent? index), ?_, hposted index⟩
    rw [toldTo, hjournal, List.filterMap_append]
    rfl

end Session
end PullStreams
