/-
What a session posts on its own queue, and that its journal says so.

Every event that a session posts on the source's queue of its own accord has a line in
the journal, and every such line was posted: `Session.Posts` names the events.
Consumers who take events, or queue some of their own, and the shutdown, which empties
the queue, are the only ones who act on it besides.

* `posts_carryOut` — a start posts a line of introductions, and where the session goes;
* `posts_performs` — of all commands, only a request that finds the last stream
  exhausted posts the end of the presentation, and nothing else with it;
* `posts_moves` — every action posts what it writes;
* `listening_of_reachable` — while a session lives, its streams' queues are open.
-/
import PullStreams.Proofs.Session.Standing

namespace PullStreams

/-- Whether an action is about the source's queue itself. -/
def Action.touchesSource {τ : Type} : Action τ → Bool
  | .nextEvent | .queueEvent _ | .shutdown => true
  | _ => false

namespace Session

variable {σ β τ : Type}

/-- What a session posted on the source's queue so far. -/
def posted (s : Session σ β τ) : List SourceEvent := s.journal.filterMap Entry.sourceEvent?

/-- The session goes on to `t`, posts these events on the source's queue and no others, and writes
them down. -/
structure Posts (s : Session σ β τ) (events : List SourceEvent) (t : Session σ β τ) : Prop where
  queue : t.events = events.foldl EventQueue.post s.events
  journal : t.posted = s.posted ++ events

/-! ### Posting step by step -/

theorem Posts.trans {r s t : Session σ β τ} {first second : List SourceEvent}
    (hrs : r.Posts first s) (hst : s.Posts second t) : r.Posts (first ++ second) t where
  queue := by rw [hst.queue, hrs.queue, List.foldl_append]
  journal := by rw [hst.journal, hrs.journal, List.append_assoc]

/-- The journal tells what was posted. -/
theorem Posts.unique {s t : Session σ β τ} {first second : List SourceEvent}
    (h : s.Posts first t) (htold : t.posted = s.posted ++ second) : second = first :=
  List.append_cancel_left (htold.symm.trans h.journal)

/-- What leaves the queue alone and writes only lines of other things posts nothing. -/
theorem posts_silent {s t : Session σ β τ} {lines : List (Entry τ)}
    (hjournal : t.journal = s.journal ++ lines) (hqueue : t.events = s.events)
    (hsilent : ∀ e ∈ lines, e.sourceEvent? = none) : s.Posts [] t where
  queue := hqueue
  journal := by
    rw [posted, hjournal, List.filterMap_append, List.filterMap_eq_nil_iff.mpr hsilent]
    rfl

theorem posts_of_same {s t : Session σ β τ} (hjournal : t.journal = s.journal)
    (hqueue : t.events = s.events) : s.Posts [] t := by
  have hlines : t.journal = s.journal ++ [] := by rw [hjournal, List.append_nil]
  exact posts_silent hlines hqueue fun e he => absurd he List.not_mem_nil

theorem posts_record (s : Session σ β τ) {e : Entry τ} (h : e.sourceEvent? = none) :
    s.Posts [] (s.record e) :=
  posts_silent rfl rfl fun _ hline => List.mem_singleton.mp hline ▸ h

theorem posts_post (s : Session σ β τ) (event : SourceEvent) : s.Posts [event] (s.post event) where
  queue := rfl
  journal := filterMap_record Entry.sourceEvent? { s with events := s.events.post event } _

theorem posts_tell (s : Session σ β τ) (index : Nat) (event : StreamEvent τ) {e : Entry τ}
    (h : e.sourceEvent? = none) : s.Posts [] ((s.tell index event).record e) :=
  (posts_of_same (s := s) (t := s.tell index event) rfl rfl).trans (posts_record _ h)

theorem posts_announceActive (s : Session σ β τ) (event : StreamEvent τ) :
    s.Posts [] (s.announceActive event) := by
  have hfold : ∀ (indices : List Nat) (a : Session σ β τ),
      a.Posts [] (indices.foldl (fun a i => a.announce i event) a) := by
    intro indices
    induction indices with
    | nil => exact fun a => posts_of_same rfl rfl
    | cons i indices ih => exact fun a => (posts_tell a i event rfl).trans (ih _)
  exact hfold s.activeIndices s

theorem posts_dropDeferred (s : Session σ β τ) : s.Posts [] s.dropDeferred := by
  have hlines : s.dropDeferred.journal =
      s.journal ++ s.deferredRequests.map fun a => .dropped a.1 a.2 := rfl
  refine posts_silent hlines rfl fun e he => ?_
  obtain ⟨_, _, rfl⟩ := List.mem_map.mp he
  rfl

/-! ### Starts -/

/-- How the source's queue hears of a stream that a start takes up. -/
def introduction (s : Session σ β τ) (fromStop : Bool) (index : Nat) : SourceEvent :=
  if !fromStop && s.isActive index then .updatedStream (streamIdAt index)
  else .newStream (streamIdAt index)

theorem posts_bring (plan : StartPlan) (s : Session σ β τ) (index : Nat) :
    s.Posts (if plan.selects index then [s.introduction plan.fromStop index] else [])
      (s.bring plan index) := by
  set updated := s.updateStream index (plan.applyTo (plan.selects index)) with hupdated
  have hsame : s.Posts [] updated := posts_of_same rfl rfl
  simp only [bring, ← hupdated]
  split
  · exact (hsame.trans (posts_post updated _)).trans (posts_tell _ index plan.streamEvent rfl)
  · exact hsame

/-- Streams that are taken up one after the other are introduced as they stood before. -/
theorem posts_foldl_bring (plan : StartPlan) (s : Session σ β τ) {indices : List Nat}
    (h : indices.Nodup) :
    s.Posts ((indices.filter plan.selects).map (s.introduction plan.fromStop))
      (indices.foldl (bring plan) s) := by
  induction indices generalizing s with
  | nil => exact posts_of_same rfl rfl
  | cons i indices ih =>
    obtain ⟨hi, hindices⟩ := List.nodup_cons.mp h
    have hrest := (posts_bring plan s i).trans (ih (s.bring plan i) hindices)
    have hsame : (indices.filter plan.selects).map ((s.bring plan i).introduction plan.fromStop) =
        (indices.filter plan.selects).map (s.introduction plan.fromStop) := by
      refine List.map_congr_left fun index hindex => ?_
      have hne : i ≠ index := fun heq => hi (heq ▸ (List.mem_filter.mp hindex).1)
      have hactive : (s.bring plan i).isActive index = s.isActive index :=
        congrArg Standing.isActive (standing_bring_other plan s hne)
      rw [introduction, introduction, hactive]
    rw [hsame] at hrest
    rw [List.foldl_cons, List.filter_cons]
    split at hrest
    · next hon => rw [if_pos hon]; exact hrest
    · next hoff => rw [if_neg hoff]; exact hrest

/-- A start introduces the streams that it takes up, in order, and says where the session goes. -/
theorem posts_carryOut (s : Session σ β τ) (plan : StartPlan) :
    s.Posts
      (((List.range s.streams.length).filter plan.selects).map (s.introduction plan.fromStop) ++
        [plan.sourceEvent]) (s.carryOut plan) := by
  set brought := (List.range s.streams.length).foldl (bring plan) s with hbrought
  have hnodup : (List.range s.streams.length).Nodup := List.nodup_range
  have hintroduced := posts_foldl_bring plan s hnodup
  have hcleared : brought.Posts []
      (if plan.target.isSome then brought.dropDeferred else brought.requeueDeferred) := by
    split
    · exact posts_dropDeferred brought
    · exact posts_of_same rfl rfl
  set cleared := if plan.target.isSome then brought.dropDeferred else brought.requeueDeferred
    with hcleared'
  have hrunning : cleared.Posts []
      { cleared with presentationEnded := false, selection := plan.selected, phase := .running } :=
    posts_of_same rfl rfl
  have hall := ((hintroduced.trans hcleared).trans hrunning).trans (posts_post _ plan.sourceEvent)
  simp only [List.append_nil] at hall
  simp only [carryOut, ← hbrought, ← hcleared']
  exact hall

theorem sourceEvent_ne_end (plan : StartPlan) : plan.sourceEvent ≠ .endOfPresentation := by
  unfold StartPlan.sourceEvent
  split <;> nofun

theorem introduction_ne_end (s : Session σ β τ) (fromStop : Bool) (index : Nat) :
    s.introduction fromStop index ≠ .endOfPresentation := by
  unfold introduction
  split <;> nofun

/-- No start announces the end of the presentation. -/
theorem end_not_mem_start (s : Session σ β τ) (plan : StartPlan) (indices : List Nat) :
    SourceEvent.endOfPresentation ∉
      indices.map (s.introduction plan.fromStop) ++ [plan.sourceEvent] := by
  intro hmem
  rcases List.mem_append.mp hmem with hmem | hmem
  · obtain ⟨index, _, heq⟩ := List.mem_map.mp hmem
    exact introduction_ne_end s plan.fromStop index heq
  · exact sourceEvent_ne_end plan (List.mem_singleton.mp hmem).symm

/-! ### Commands -/

/-- The end of a stream is the end of the presentation when no other stream goes on, and then it is
announced, unless that was done. -/
theorem posts_endStream (s : Session σ β τ) (index : Nat) (request : Request τ) :
    s.Posts
      (if !s.presentationEnded && (s.endStream index request).allEnded then [.endOfPresentation]
        else []) (s.endStream index request) := by
  set ended := s.updateStream index fun stream => { stream with hasEnded := true }
  set marked := ended.answer index request .endOfStream with hmarked
  have hupdated : s.Posts [] ended := posts_of_same rfl rfl
  have hsilent : s.Posts [] marked := hupdated.trans (posts_tell ended index .endOfStream rfl)
  have hended : (s.endStream index request).allEnded = marked.allEnded := by
    rw [allEnded_eq, allEnded_eq, ← flags_endPresentation marked]
    rfl
  have hlast : s.endStream index request = marked.endPresentation := rfl
  have hflag : s.presentationEnded = marked.presentationEnded := rfl
  rw [hended, hlast, endPresentation, hflag]
  split
  · have hover : marked.Posts [] { marked with presentationEnded := true } := posts_of_same rfl rfl
    exact (hsilent.trans hover).trans (posts_post _ .endOfPresentation)
  · exact hsilent

/-- A command ends the presentation when it asks for a sample of the last stream that goes on, and
that stream is exhausted. -/
def EndsPresentation (s : Session σ β τ) (command : Command τ) (t : Session σ β τ) : Prop :=
  ∃ index request, command = .requestSample index request ∧ s.serves index = true ∧
    t = s.endStream index request ∧ t.allEnded = true

theorem posts_answerWith (s : Session σ β τ) {index : Nat} (hserves : s.serves index = true)
    (request : Request τ) (result : Except SourceError (Option Buffer)) :
    ∃ events, s.Posts events (s.answerWith index request result).1 ∧
      (.endOfPresentation ∈ events → events = [.endOfPresentation] ∧
        s.EndsPresentation (.requestSample index request)
          (s.answerWith index request result).1) := by
  have hsilent : ∀ {t : Session σ β τ}, s.Posts [] t → ∃ events, s.Posts events t ∧
      (.endOfPresentation ∈ events → events = [.endOfPresentation] ∧
        s.EndsPresentation (.requestSample index request) t) := fun h =>
    ⟨[], h, fun hmem => absurd hmem List.not_mem_nil⟩
  match result with
  | .ok (some buffer) =>
    simp only [answerWith]
    split
    · exact hsilent (posts_record s rfl)
    · exact hsilent (posts_tell s index _ rfl)
  | .ok none =>
    have hposts := posts_endStream s index request
    refine ⟨_, hposts, fun hmem => ?_⟩
    split at hmem
    · next hends =>
      rw [if_pos hends]
      exact ⟨rfl, index, request, rfl, hserves, rfl, (Bool.and_eq_true_iff.mp hends).2⟩
    · cases hmem
  | .error e => exact hsilent (posts_tell s index _ rfl)

/-- What a command posts, and that only the end of the last stream ends the presentation. -/
theorem posts_performs {g t : Session Unit Unit τ} {command : Command τ}
    (h : Performs g command t) : ∃ events, g.Posts events t ∧
      (.endOfPresentation ∈ events →
        events = [.endOfPresentation] ∧ g.EndsPresentation command t) := by
  have hother : ∀ {events : List SourceEvent}, g.Posts events t →
      .endOfPresentation ∉ events → ∃ events, g.Posts events t ∧ (.endOfPresentation ∈ events →
        events = [.endOfPresentation] ∧ g.EndsPresentation command t) := fun h hnot =>
    ⟨_, h, fun hmem => absurd hmem hnot⟩
  cases h with
  | @start presentation _ position binding _ _ =>
    have hopened : g.Posts [] { g with resources := .opened () binding } := posts_of_same rfl rfl
    exact hother (hopened.trans (posts_carryOut _ _)) (end_not_mem_start _ _ _)
  | noStart _ _ _ | noPause _ | noStop _ => exact hother (posts_of_same rfl rfl) List.not_mem_nil
  | pause _ =>
    have hpaused : (g.announceActive .paused).Posts []
        { g.announceActive .paused with phase := .paused } := posts_of_same rfl rfl
    exact hother (((posts_announceActive g .paused).trans hpaused).trans (posts_post _ .paused))
      (by decide)
  | stop _ =>
    have hstopped : (g.announceActive .stopped).Posts []
        { g.announceActive .stopped with phase := .stopped } := posts_of_same rfl rfl
    exact hother ((((posts_announceActive g .stopped).trans hstopped).trans
      (posts_dropDeferred _)).trans (posts_post _ .stopped)) (by decide)
  | defer _ => exact hother (posts_of_same rfl rfl) List.not_mem_nil
  | answer _ hserves result => exact posts_answerWith g hserves _ result
  | drop _ => exact hother (posts_record g rfl) List.not_mem_nil

/-! ### Actions -/

/-- The end of the presentation comes alone, by a request in the executor's hand. -/
def EndsBy (s : Session σ β τ) (events : List SourceEvent) (t : Session σ β τ) : Prop :=
  events = [.endOfPresentation] ∧ ∃ envelope, s.commands.inHand = some envelope ∧
    s.emptyHanded.EndsPresentation envelope.command t

theorem posts_executes {g t : Session Unit Unit τ} (h : Executes g t) :
    ∃ events, g.Posts events t ∧ (.endOfPresentation ∈ events → g.EndsBy events t) := by
  have hempty : g.Posts [] g.emptyHanded := posts_of_same rfl rfl
  cases h with
  | idle _ => exact ⟨[], posts_of_same rfl rfl, nofun⟩
  | breakOff _ _ _ => exact ⟨[], posts_of_same rfl rfl, nofun⟩
  | discard _ _ =>
    unfold discard
    split
    · exact ⟨[], hempty.trans (posts_record _ rfl), nofun⟩
    · exact ⟨[], hempty, nofun⟩
  | perform hhand _ _ h =>
    obtain ⟨events, hposts, hends⟩ := posts_performs h
    refine ⟨events, hempty.trans hposts, fun hmem => ?_⟩
    obtain ⟨hevents, hends⟩ := hends hmem
    exact ⟨hevents, _, hhand, hends⟩

/-- What an action posts that is not about the queue itself.  Only the executor ends the
presentation. -/
theorem posts_moves {g t : Session Unit Unit τ} {action : Action τ} (h : Moves g action t)
    (haction : action.touchesSource = false) :
    ∃ events, g.Posts events t ∧
      (.endOfPresentation ∈ events → action = .execute ∧ g.EndsBy events t) := by
  have hsilent : g.Posts [] t → ∃ events, g.Posts events t ∧
      (.endOfPresentation ∈ events → action = .execute ∧ g.EndsBy events t) :=
    fun hposts => ⟨[], hposts, nofun⟩
  cases h with
  | nothing _ | submit _ _ _ | skip _ _ _ | take => exact hsilent (posts_of_same rfl rfl)
  | @accept index token _ _ =>
    have haccepted : g.Posts [] (g.enqueue (.requestSample index ⟨g.commands.nextNumber, token⟩)) :=
      posts_of_same rfl rfl
    exact hsilent (haccepted.trans (posts_record _ rfl))
  | shutdown _ | nextEvent | queueEvent => cases haction
  | @setRate _ rate _ =>
    have hrated : g.Posts [] { g with rate } := posts_of_same rfl rfl
    exact ⟨_, hrated.trans (posts_post _ _), by simp⟩
  | @nextStreamEvent index =>
    refine hsilent ?_
    unfold nextStreamEvent
    split <;> exact posts_of_same rfl rfl
  | @queueStreamEvent index event =>
    refine hsilent ?_
    unfold queueStreamEvent
    split <;> exact posts_of_same rfl rfl
  | execute h =>
    obtain ⟨events, hposts, hends⟩ := posts_executes h
    exact ⟨events, hposts, fun hmem => ⟨rfl, hends hmem⟩⟩

/-- Of those who act on the queue itself, only consumers with events of their own add any. -/
theorem pending_moves {g t : Session Unit Unit τ} {action : Action τ} (h : Moves g action t)
    (haction : action.touchesSource = true) (hown : ∀ event, action ≠ .queueEvent event) :
    t.events.pending.length ≤ g.events.pending.length := by
  cases h with
  | nothing _ | submit _ _ _ | skip _ _ _ => exact Nat.le_refl _
  | shutdown _ => exact Nat.zero_le _
  | nextEvent =>
    simp only [nextEvent, EventQueue.tryNext]
    split
    · exact Nat.le_refl _
    · split
      · exact Nat.le_refl _
      · next hpending => simp [hpending]
  | @queueEvent event => exact absurd rfl (hown event)
  | _ => cases haction

/-! ### Open queues -/

/-- While a session lives, its streams' queues are open. -/
def IsListening (s : Session σ β τ) : Prop :=
  s.phase ≠ .shutdown → ∀ stream ∈ s.streams, stream.events.isShutDown = false

theorem listening_updateStream {s : Session σ β τ} (hs : s.IsListening) {index : Nat}
    {stream : StreamState τ} (hstream : s.streams[index]? = some stream)
    {f : StreamState τ → StreamState τ}
    (h : (f stream).events.isShutDown = stream.events.isShutDown) :
    (s.updateStream index f).IsListening := by
  intro halive changed hchanged
  obtain ⟨i, hi⟩ := List.getElem?_of_mem hchanged
  rw [updateStream, List.getElem?_modify] at hi
  obtain ⟨before, hbefore, rfl⟩ := Option.map_eq_some_iff.mp hi
  have hopen := hs halive before (List.mem_of_getElem? hbefore)
  split
  · next hsame =>
    obtain rfl : before = stream := Option.some.inj (hbefore.symm.trans (hsame ▸ hstream))
    exact h.trans hopen
  · exact hopen

theorem listening_moves {g t : Session Unit Unit τ} {action : Action τ} (hg : g.IsListening)
    (h : Moves g action t) : t.IsListening := by
  cases haction : action.touchesQueues with
  | false =>
    -- What is told to a stream leaves its queue open.
    intro halive stream hstream
    have hbefore : g.phase ≠ .shutdown := (standing_moves h 0).alive halive
    obtain ⟨i, hi⟩ := List.getElem?_of_mem hstream
    obtain ⟨_, _, _, hqueues⟩ := tells_moves h haction
    have hqueue := hqueues i
    rw [hi, Option.map_some] at hqueue
    obtain ⟨before, hbefore', hevents⟩ := Option.map_eq_some_iff.mp hqueue.symm
    rw [← hevents, EventQueue.isShutDown_foldl_post]
    exact hg hbefore before (List.mem_of_getElem? hbefore')
  | true =>
    cases h with
    | nothing _ | submit _ _ _ | skip _ _ _ => exact hg
    | shutdown _ => exact fun halive => absurd rfl halive
    | nextStreamEvent =>
      unfold nextStreamEvent
      split
      · exact hg
      · next hstream => exact listening_updateStream hg hstream (EventQueue.isShutDown_tryNext _)
    | queueStreamEvent =>
      unfold queueStreamEvent
      split
      · exact hg
      · next hstream => exact listening_updateStream hg hstream (EventQueue.isShutDown_post _ _)
    | _ => cases haction

/-- While a session lives its streams' queues are open. -/
theorem listening_of_reachable [ByteSource σ] {E : Engine σ β} {s : Session σ β τ}
    (h : Reachable E s) : s.gist.IsListening := by
  refine gist_induction (P := IsListening) (fun config info layout source => ?_) listening_moves h
  intro _ stream hstream
  obtain ⟨_, _, rfl⟩ := List.mem_map.mp hstream
  rfl

end Session
end PullStreams
