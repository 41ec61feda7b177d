/-
How one stream stands in its session, and what an action does to it.

Seen from one stream, a session has a phase, two marks for the stream, and a list of
events that it told the stream.  Whatever happens in the session, this view changes in
one of a few ways, and other streams have no part in it.

* `Standing.Turn` — what one action may do to a stream;
* `standing_carryOut` — what a start does to it;
* `standing_moves`, `standing_step` — every action is such a turn for every stream;
* `standing_induction` — what a stream of an opened session has and every turn keeps,
  the streams of whatever can be reached have.
-/
import PullStreams.Proofs.Session.Flags
import PullStreams.Proofs.Session.Telling

namespace PullStreams

/-! ### Folds that change each thing once -/

/-- Where the steps of a fold leave each other's things alone, each thing changes by its own step,
once. -/
theorem foldl_at {α γ : Type} {P : α → Prop} {v : α → γ} {f : α → Nat → α} {g : γ → γ}
    {index : Nat} {indices : List Nat} (hkeeps : ∀ a i, P a → P (f a i))
    (hother : ∀ a i, i ≠ index → v (f a i) = v a)
    (hown : index ∈ indices → ∀ a, P a → v (f a index) = g (v a)) {a : α} (ha : P a)
    (h : indices.Nodup) : v (indices.foldl f a) = if index ∈ indices then g (v a) else v a := by
  induction indices generalizing a with
  | nil => rw [if_neg List.not_mem_nil]; rfl
  | cons i indices ih =>
    obtain ⟨hi, hindices⟩ := List.nodup_cons.mp h
    have hrest := ih (fun hmem => hown (List.mem_cons_of_mem _ hmem)) (hkeeps a i ha) hindices
    rw [List.foldl_cons, hrest]
    by_cases hsame : i = index
    · subst hsame
      rw [if_neg hi, if_pos List.mem_cons_self, hown List.mem_cons_self a ha]
    · have hmem : index ∈ i :: indices ↔ index ∈ indices := by
        rw [List.mem_cons, or_iff_right (Ne.symm hsame)]
      simp only [hother a i hsame, hmem]

/-! ### A stream by itself -/

namespace StreamEvent

variable {τ : Type}

/-- Whether an event lets a stream begin, or begin again. -/
def opens : StreamEvent τ → Bool
  | .started _ | .seeked _ => true
  | _ => false

/-- Whether an event answers requests. -/
def isAnswer : StreamEvent τ → Bool
  | .sample _ | .endOfStream | .error _ => true
  | _ => false

/-- Whether an event is the end of the stream. -/
def isEnd : StreamEvent τ → Bool
  | .endOfStream => true
  | _ => false

theorem eq_endOfStream {event : StreamEvent τ} (h : event.isEnd = true) : event = .endOfStream := by
  cases event with
  | endOfStream => rfl
  | _ => cases h

end StreamEvent

/-- How a stream stands in its session. -/
structure Standing (τ : Type) where
  /-- Of the session. -/
  phase : Phase
  isActive : Bool
  hasEnded : Bool
  /-- What the session told the stream so far. -/
  told : List (StreamEvent τ)

namespace Standing

variable {τ : Type}

/-- A stream of a session that was just opened. -/
def fresh : Standing τ := ⟨.stopped, false, false, []⟩

def tell (a : Standing τ) (event : StreamEvent τ) : Standing τ :=
  { a with told := a.told ++ [event] }

/-- The stream is told an event if it is active. -/
def tellActive (a : Standing τ) (event : StreamEvent τ) : Standing τ :=
  if a.isActive then a.tell event else a

/-- A start that is about to do as planned, and takes the stream up or not. -/
def start (a : Standing τ) (plan : StartPlan) (on : Bool) : Standing τ :=
  { phase := a.phase
    isActive := on
    hasEnded := a.hasEnded && !(plan.target.isSome || (on && !a.isActive))
    told := a.told ++ if on then [plan.streamEvent] else [] }

/-- What one action may do to a stream, that executes a start or not. -/
inductive Turn (a : Standing τ) (starting : Prop) : Standing τ → Prop
  /-- The action is no business of this stream. -/
  | rest : Turn a starting a
  | start (hstarting : starting) (halive : a.phase ≠ .shutdown) (plan : StartPlan) (on : Bool) :
      Turn a starting { a.start plan on with phase := .running }
  | pause (hphase : a.phase = .running) :
      Turn a starting { a.tellActive .paused with phase := .paused }
  | stop (hphase : a.phase = .running ∨ a.phase = .paused) :
      Turn a starting { a.tellActive .stopped with phase := .stopped }
  | answer {event : StreamEvent τ} (hphase : a.phase = .running) (hactive : a.isActive = true)
      (hgoes : a.hasEnded = false) (hevent : event.isAnswer = true) :
      Turn a starting { a.tell event with hasEnded := event.isEnd }
  | shutdown : Turn a starting { a with phase := .shutdown, isActive := false }

variable {a b : Standing τ} {starting : Prop}

theorem Turn.imp {other : Prop} (h : a.Turn starting b) (himp : starting → other) :
    a.Turn other b := by
  cases h with
  | rest => exact .rest
  | start hstarting halive plan on => exact .start (himp hstarting) halive plan on
  | pause hphase => exact .pause hphase
  | stop hphase => exact .stop hphase
  | answer hphase hactive hgoes hevent => exact .answer hphase hactive hgoes hevent
  | shutdown => exact .shutdown

/-- A stream that is marked as ended was so before, or has just been told while it played. -/
theorem Turn.hasEnded (h : a.Turn starting b) (hended : b.hasEnded = true) :
    a.hasEnded = true ∨ a.phase = .running ∧ b.told = a.told ++ [.endOfStream] := by
  cases h with
  | rest | shutdown => exact .inl hended
  | start _ _ plan on => exact .inl (Bool.and_eq_true_iff.mp hended).1
  | pause _ | stop _ =>
    left
    simp only [tellActive] at hended
    split at hended <;> exact hended
  | answer hphase _ _ _ =>
    right
    rw [← StreamEvent.eq_endOfStream hended]
    exact ⟨hphase, rfl⟩

/-- Nothing follows the shutdown. -/
theorem Turn.alive (h : a.Turn starting b) (halive : b.phase ≠ .shutdown) :
    a.phase ≠ .shutdown := by
  cases h with
  | rest | answer _ _ _ _ => exact halive
  | start _ hbefore _ _ => exact hbefore
  | pause hphase => rw [hphase]; decide
  | stop hphase => rcases hphase with hphase | hphase <;> rw [hphase] <;> decide
  | shutdown => exact absurd rfl halive

/-- Only a start takes up a stream that did not go on. -/
theorem Turn.goesOn (h : a.Turn starting b) (hactive : b.isActive = true)
    (hgoes : b.hasEnded = false) :
    starting ∨ a.isActive = true ∧ a.hasEnded = false := by
  cases h with
  | rest => exact .inr ⟨hactive, hgoes⟩
  | start hstarting _ _ _ => exact .inl hstarting
  | pause _ | stop _ =>
    right
    simp only [tellActive] at hactive hgoes
    split at hactive
    · next hon =>
      rw [if_pos hon] at hgoes
      exact ⟨hon, hgoes⟩
    · next hoff => exact absurd hactive hoff
  | answer _ hbefore hgoes' _ => exact .inr ⟨hbefore, hgoes'⟩
  | shutdown => cases hactive

end Standing

namespace Session

variable {σ β τ : Type}

def isActive (s : Session σ β τ) (index : Nat) : Bool :=
  (s.streams[index]?.map (·.isActive)).getD false

def hasEnded (s : Session σ β τ) (index : Nat) : Bool :=
  (s.streams[index]?.map (·.hasEnded)).getD false

/-- How a stream stands.  A stream that the session does not have is never active. -/
def standing (s : Session σ β τ) (index : Nat) : Standing τ :=
  ⟨s.phase, s.isActive index, s.hasEnded index, s.toldTo index⟩

theorem isActive_eq (s : Session σ β τ) (index : Nat) :
    s.isActive index = (s.flags[index]?.map (·.1)).getD false := by
  rw [isActive, flags, List.getElem?_map, Option.map_map]
  rfl

theorem hasEnded_eq (s : Session σ β τ) (index : Nat) :
    s.hasEnded index = (s.flags[index]?.map (·.2)).getD false := by
  rw [hasEnded, flags, List.getElem?_map, Option.map_map]
  rfl

theorem serves_eq (s : Session σ β τ) (index : Nat) :
    s.serves index = (s.isActive index && !s.hasEnded index) := by
  unfold serves isActive hasEnded
  cases s.streams[index]? <;> rfl

theorem serves_iff {s : Session σ β τ} {index : Nat} :
    s.serves index = true ↔ s.isActive index = true ∧ s.hasEnded index = false := by
  rw [serves_eq, Bool.and_eq_true_iff, Bool.not_eq_true']

theorem isActive_of_none {s : Session σ β τ} {index : Nat} (h : s.streams.length ≤ index) :
    s.isActive index = false ∧ s.hasEnded index = false := by
  rw [isActive, hasEnded, List.getElem?_eq_none h]
  exact ⟨rfl, rfl⟩

theorem lt_of_isActive {s : Session σ β τ} {index : Nat} (h : s.isActive index = true) :
    index < s.streams.length := by
  by_contra hout
  rw [(isActive_of_none (Nat.le_of_not_lt hout)).1] at h
  cases h

/-- Phase, flags and what was told are all there is to how streams stand. -/
theorem standing_of_same {s t : Session σ β τ} {index : Nat}
    (htold : t.toldTo index = s.toldTo index) (hflags : t.flags = s.flags)
    (hphase : t.phase = s.phase) : t.standing index = s.standing index := by
  rw [standing, standing, isActive_eq, isActive_eq, hasEnded_eq, hasEnded_eq, hphase, hflags, htold]

theorem standing_gist (s : Session σ β τ) (index : Nat) :
    s.gist.standing index = s.standing index := by
  rw [standing, standing, toldTo_gist]
  rfl

/-- A stream that is changed stands as its marks say. -/
theorem standing_updateStream_own (s : Session σ β τ) (f : StreamState τ → StreamState τ)
    {index : Nat} (hindex : index < s.streams.length) :
    (s.updateStream index f).standing index =
      { s.standing index with
        isActive := (f s.streams[index]).isActive, hasEnded := (f s.streams[index]).hasEnded } := by
  have hstream : (s.streams.modify index f)[index]? = some (f s.streams[index]) := by
    rw [List.getElem?_modify_eq, List.getElem?_eq_getElem hindex]
    rfl
  simp only [standing, isActive, hasEnded, updateStream, hstream]
  rfl

theorem standing_updateStream_other (s : Session σ β τ) (f : StreamState τ → StreamState τ)
    {place index : Nat} (h : place ≠ index) :
    (s.updateStream place f).standing index = s.standing index := by
  have hstream : (s.streams.modify place f)[index]? = s.streams[index]? :=
    List.getElem?_modify_ne _ _ h
  simp only [standing, isActive, hasEnded, updateStream, hstream]
  rfl

theorem isActive_of_lt {s : Session σ β τ} {index : Nat} (h : index < s.streams.length) :
    s.isActive index = s.streams[index].isActive ∧
      s.hasEnded index = s.streams[index].hasEnded := by
  rw [isActive, hasEnded, List.getElem?_eq_getElem h]
  exact ⟨rfl, rfl⟩

/-! ### Lines and events -/

/-- What is read off a journal grows by what is read off its new line. -/
theorem filterMap_record {γ : Type} (f : Entry τ → Option γ) (s : Session σ β τ) (e : Entry τ) :
    (s.record e).journal.filterMap f = s.journal.filterMap f ++ (f e).toList := by
  rw [record, List.filterMap_append]
  cases h : f e with
  | none => rw [List.filterMap_cons_none h]; rfl
  | some c => rw [List.filterMap_cons_some h]; rfl

theorem toldTo_record (s : Session σ β τ) (e : Entry τ) (index : Nat) :
    (s.record e).toldTo index = s.toldTo index ++ (e.streamEvent? index).toList :=
  filterMap_record _ s e

theorem standing_record (s : Session σ β τ) {e : Entry τ} {index : Nat}
    (h : e.streamEvent? index = none) : (s.record e).standing index = s.standing index := by
  have htold : (s.record e).toldTo index = s.toldTo index := by
    rw [toldTo_record, h]
    exact List.append_nil _
  exact standing_of_same htold rfl rfl

theorem standing_post (s : Session σ β τ) (event : SourceEvent) (index : Nat) :
    (s.post event).standing index = s.standing index :=
  standing_record { s with events := s.events.post event } rfl

/-- A line with an event tells it to its stream and to no other one. -/
theorem standing_tell (s : Session σ β τ) (place : Nat) {event : StreamEvent τ} {e : Entry τ}
    (hevent : ∀ i, e.streamEvent? i = if place = i then some event else none) (index : Nat) :
    ((s.tell place event).record e).standing index =
      if place = index then (s.standing index).tell event else s.standing index := by
  have htold : ((s.tell place event).record e).toldTo index =
      s.toldTo index ++ (if place = index then some event else none).toList := by
    rw [toldTo_record, hevent]
    rfl
  by_cases h : place = index
  · rw [if_pos h] at htold ⊢
    have hsame : (s.tell place event).standing index = s.standing index := by
      have htold : (s.tell place event).toldTo index = s.toldTo index := rfl
      exact standing_of_same htold (flags_tell s place event) rfl
    have htell : ((s.tell place event).record e).standing index =
        { (s.tell place event).standing index with
          told := ((s.tell place event).record e).toldTo index } := rfl
    rw [htell, hsame, htold]
    rfl
  · rw [if_neg h] at htold ⊢
    rw [Option.toList_none, List.append_nil] at htold
    exact standing_of_same htold (flags_tell s place event) rfl

theorem standing_announce (s : Session σ β τ) (place : Nat) (event : StreamEvent τ)
    (index : Nat) : (s.announce place event).standing index =
      if place = index then (s.standing index).tell event else s.standing index :=
  standing_tell s place (fun _ => rfl) index

theorem standing_answer (s : Session σ β τ) (place : Nat) (request : Request τ)
    (event : StreamEvent τ) (index : Nat) : (s.answer place request event).standing index =
      if place = index then (s.standing index).tell event else s.standing index :=
  standing_tell s place (fun _ => rfl) index

theorem standing_dropDeferred (s : Session σ β τ) (index : Nat) :
    s.dropDeferred.standing index = s.standing index := by
  have hsilent : ∀ e ∈ s.deferredRequests.map fun (a : Nat × Request τ) => Entry.dropped a.1 a.2,
      e.streamEvent? index = none := fun e he => by
    obtain ⟨_, _, rfl⟩ := List.mem_map.mp he
    rfl
  have htold : s.dropDeferred.toldTo index = s.toldTo index := by
    rw [toldTo, dropDeferred, recordAll, List.filterMap_append,
      List.filterMap_eq_nil_iff.mpr hsilent, List.append_nil]
    rfl
  exact standing_of_same (s := s) htold (flags_dropDeferred s) rfl

theorem mem_activeIndices {s : Session σ β τ} {index : Nat} :
    index ∈ s.activeIndices ↔ s.isActive index = true := by
  rw [activeIndices, List.mem_filter, List.mem_range, isActive]
  refine and_iff_right_of_imp fun h => ?_
  by_contra hout
  rw [List.getElem?_eq_none (Nat.le_of_not_lt hout)] at h
  cases h

/-- What is told to all active streams, each of them is told once. -/
theorem standing_announceActive (s : Session σ β τ) (event : StreamEvent τ) (index : Nat) :
    (s.announceActive event).standing index = (s.standing index).tellActive event := by
  have hnodup : s.activeIndices.Nodup := List.nodup_range.filter _
  have hfold := foldl_at (P := fun _ => True) (v := fun a => a.standing index)
    (f := fun a i => a.announce i event) (g := fun standing => standing.tell event)
    (fun _ _ _ => trivial) (fun a i hi => (standing_announce a i event index).trans (if_neg hi))
    (fun _ a _ => (standing_announce a index event index).trans (if_pos rfl)) (a := s) trivial
    hnodup
  simp only [mem_activeIndices] at hfold
  exact hfold

/-! ### Starts -/

theorem length_bring (plan : StartPlan) (s : Session σ β τ) (index : Nat) :
    (s.bring plan index).streams.length = s.streams.length := by
  have hupdate : ∀ f, (s.updateStream index f).streams.length = s.streams.length := fun f =>
    List.length_modify ..
  simp only [bring]
  split
  · exact (List.length_modify ..).trans (hupdate _)
  · exact hupdate _

theorem standing_bring_own (plan : StartPlan) {s : Session σ β τ} {index : Nat}
    (hindex : index < s.streams.length) : (s.bring plan index).standing index =
      (s.standing index).start plan (plan.selects index) := by
  have happlied : (s.updateStream index (plan.applyTo (plan.selects index))).standing index =
      { (s.standing index).start plan (plan.selects index) with told := s.toldTo index } := by
    obtain ⟨hactive, hended⟩ := isActive_of_lt hindex
    rw [standing_updateStream_own s _ hindex, Standing.start, standing, hactive, hended]
    rfl
  simp only [bring]
  split
  · next hon =>
    rw [standing_announce, if_pos rfl, standing_post, happlied, hon]
    rfl
  · next hoff =>
    rw [happlied, Bool.eq_false_iff.mpr hoff]
    simp only [Standing.start, standing, Bool.false_eq_true, if_false, List.append_nil]

theorem standing_bring_other (plan : StartPlan) (s : Session σ β τ) {place index : Nat}
    (h : place ≠ index) : (s.bring plan place).standing index = s.standing index := by
  have hupdate := standing_updateStream_other s (plan.applyTo (plan.selects place)) h
  simp only [bring]
  split
  · rw [standing_announce, if_neg h, standing_post, hupdate]
  · exact hupdate

/-- A start does to each stream what it plans for it. -/
theorem standing_carryOut (s : Session σ β τ) (plan : StartPlan) {index : Nat}
    (hmarks : s.streams.length ≤ index → plan.selects index = false) :
    (s.carryOut plan).standing index =
      { (s.standing index).start plan (plan.selects index) with phase := .running } := by
  set brought := (List.range s.streams.length).foldl (bring plan) s with hbrought
  have hstanding : brought.standing index =
      (s.standing index).start plan (plan.selects index) := by
    have hfold := foldl_at (P := fun a => a.streams.length = s.streams.length)
      (v := fun a => a.standing index) (f := bring plan)
      (g := fun standing => standing.start plan (plan.selects index))
      (fun a i ha => (length_bring plan a i).trans ha) (fun a i => standing_bring_other plan a)
      (fun hmem a ha => standing_bring_own plan (ha ▸ List.mem_range.mp hmem)) (a := s) rfl
      List.nodup_range
    rw [hbrought, hfold]
    by_cases hindex : index < s.streams.length
    · rw [if_pos (List.mem_range.mpr hindex)]
    · -- Nobody plans anything for a stream that is not there.
      have hmissing := Nat.le_of_not_lt hindex
      obtain ⟨hactive, hended⟩ := isActive_of_none hmissing
      rw [if_neg (fun hmem => hindex (List.mem_range.mp hmem)), hmarks hmissing]
      simp only [Standing.start, standing, hactive, hended, Bool.false_eq_true, if_false,
        List.append_nil, Bool.false_and]
  have hcleared : (if plan.target.isSome then brought.dropDeferred
      else brought.requeueDeferred).standing index = brought.standing index := by
    split
    · exact standing_dropDeferred brought index
    · have htold : brought.requeueDeferred.toldTo index = brought.toldTo index := rfl
      exact standing_of_same htold (flags_dropDeferred brought) rfl
  simp only [carryOut, ← hbrought]
  rw [standing_post, ← hstanding, ← hcleared]
  rfl

/-- No start plans anything for a stream that is not there. -/
theorem selects_planStart {s : Session σ β τ} (ids : List UInt32) (position : StartPosition)
    {index : Nat} (h : s.streams.length ≤ index) :
    (s.planStart ids position).selects index = false := by
  have hlength : (marksOfIds s.streams.length ids).length ≤ index := by
    rwa [marksOfIds, List.length_map, List.length_range]
  rw [StartPlan.selects, planStart, List.getElem?_eq_none hlength]
  rfl

/-! ### Answers -/

theorem standing_endStream (s : Session σ β τ) {place : Nat} (hplace : place < s.streams.length)
    (request : Request τ) (index : Nat) : (s.endStream place request).standing index =
      if place = index then { (s.standing index).tell .endOfStream with hasEnded := true }
      else s.standing index := by
  set marked := s.updateStream place fun stream => { stream with hasEnded := true } with hmarked
  have hlast : (s.endStream place request).standing index =
      (marked.answer place request .endOfStream).standing index := by
    simp only [endStream, endPresentation, ← hmarked]
    split
    · rw [standing_post]
      rfl
    · rfl
  rw [hlast, standing_answer]
  by_cases h : place = index
  · subst h
    rw [if_pos rfl, if_pos rfl, hmarked, standing_updateStream_own s _ hplace, standing,
      (isActive_of_lt hplace).1]
    rfl
  · rw [if_neg h, if_neg h, hmarked, standing_updateStream_other s _ h]

/-- An answer to a request of a stream that is served is a turn of that stream. -/
theorem standing_answerWith {s : Session σ β τ} {place : Nat} (hphase : s.phase = .running)
    (hserves : s.serves place = true) (request : Request τ)
    (result : Except SourceError (Option Buffer)) (index : Nat) {starting : Prop} :
    (s.standing index).Turn starting ((s.answerWith place request result).1.standing index) := by
  obtain ⟨hactive, hgoes⟩ := serves_iff.mp hserves
  have hplace := lt_of_isActive hactive
  -- One event is told to the stream of the request, and the mark of the stream says which it is.
  have htold : ∀ {t : Session σ β τ} {event : StreamEvent τ}, event.isAnswer = true →
      (t.standing index = if place = index then
        { (s.standing index).tell event with hasEnded := event.isEnd } else s.standing index) →
      (s.standing index).Turn starting (t.standing index) := fun hevent ht => by
    rw [ht]
    split
    · next h =>
      subst h
      exact .answer hphase hactive hgoes hevent
    · exact .rest
  have hgiven : ∀ event : StreamEvent τ, event.isEnd = false →
      (s.answer place request event).standing index = if place = index then
        { (s.standing index).tell event with hasEnded := event.isEnd } else s.standing index := by
    intro event hevent
    rw [standing_answer, hevent]
    split
    · next h =>
      subst h
      rw [← hgoes]
      rfl
    · rfl
  match result with
  | .ok (some buffer) =>
    simp only [answerWith]
    split
    · rw [drop, standing_record s rfl]
      exact .rest
    · exact htold rfl (hgiven _ rfl)
  | .ok none => exact htold rfl (standing_endStream s hplace request index)
  | .error e => exact htold rfl (hgiven _ rfl)

/-! ### Actions -/

theorem standing_performs {g t : Session Unit Unit τ} {command : Command τ}
    (halive : g.phase ≠ .shutdown) (h : Performs g command t) (index : Nat) :
    (g.standing index).Turn (command.isStart = true) (t.standing index) := by
  cases h with
  | @start presentation _ position binding _ _ =>
    have hmarks : g.streams.length ≤ index →
        (g.planStart presentation.selectedIds position).selects index = false := fun hindex =>
      selects_planStart presentation.selectedIds position hindex
    rw [standing_carryOut { g with resources := .opened () binding } _ hmarks]
    exact .start rfl halive _ _
  | noStart _ _ _ | noPause _ | noStop _ => exact .rest
  | pause hphase =>
    have hstanding : ({ g.announceActive .paused with phase := .paused }.post .paused).standing
        index = { (g.standing index).tellActive .paused with phase := .paused } := by
      rw [standing_post, ← standing_announceActive]
      rfl
    rw [hstanding]
    exact .pause hphase
  | stop hphase =>
    have hstanding :
        ({ g.announceActive .stopped with phase := .stopped }.dropDeferred.post .stopped).standing
          index = { (g.standing index).tellActive .stopped with phase := .stopped } := by
      rw [standing_post, standing_dropDeferred, ← standing_announceActive]
      rfl
    rw [hstanding]
    exact .stop hphase
  | @defer place request _ =>
    have hstanding : (g.defer place request).standing index = g.standing index :=
      standing_of_same (s := g) rfl (flags_updateStream g place fun _ => rfl) rfl
    rw [hstanding]
    exact .rest
  | answer hphase hserves result => exact standing_answerWith hphase hserves _ result index
  | @drop place request _ =>
    have hstanding : (g.drop place request).standing index = g.standing index :=
      standing_record g rfl
    rw [hstanding]
    exact .rest

/-- Whether an action executes a start. -/
def Starts (s : Session σ β τ) (action : Action τ) : Prop :=
  action = .execute ∧
    ∃ envelope, s.commands.inHand = some envelope ∧ envelope.command.isStart = true

theorem standing_executes {g t : Session Unit Unit τ} (h : Executes g t) (index : Nat) :
    (g.standing index).Turn (g.Starts .execute) (t.standing index) := by
  cases h with
  | idle _ | breakOff _ _ _ => exact .rest
  | discard _ _ =>
    unfold discard
    split
    · rw [drop, standing_record g.emptyHanded rfl]
      exact .rest
    · exact .rest
  | perform hhand halive _ h =>
    have hempty : g.emptyHanded.phase ≠ .shutdown := halive
    exact (standing_performs hempty h index).imp fun hstart => ⟨rfl, _, hhand, hstart⟩

theorem standing_close (s : Session σ β τ) (index : Nat) :
    s.close.standing index =
      { s.standing index with phase := .shutdown, isActive := false } := by
  have htold : s.close.toldTo index = s.toldTo index :=
    congrArg Standing.told (standing_dropDeferred s index)
  have hstream : s.close.streams[index]? = s.streams[index]?.map fun stream =>
      { stream with isActive := false, deferred := [], events := stream.events.shutdown } := by
    simp only [close, shutQueues, dropDeferred, clearDeferred, recordAll, List.getElem?_map,
      Option.map_map]
    rfl
  simp only [standing, isActive, hasEnded, htold, hstream]
  cases s.streams[index]? <;> rfl

theorem standing_moves {g t : Session Unit Unit τ} {action : Action τ} (h : Moves g action t)
    (index : Nat) : (g.standing index).Turn (g.Starts action) (t.standing index) := by
  cases h with
  | nothing _ | submit _ _ _ | skip _ _ _ | nextEvent | queueEvent | take => exact .rest
  | @accept place token _ _ =>
    have hstanding : (g.receive place token).standing index = g.standing index :=
      standing_record (g.enqueue _) rfl
    rw [hstanding]
    exact .rest
  | shutdown _ =>
    rw [standing_close]
    exact .shutdown
  | @setRate _ rate _ =>
    rw [standing_post]
    exact .rest
  | @nextStreamEvent place =>
    have hstanding : (g.nextStreamEvent place).1.standing index = g.standing index := by
      unfold nextStreamEvent
      split
      · rfl
      · exact standing_of_same (s := g) rfl (flags_updateStream g place fun _ => rfl) rfl
    rw [hstanding]
    exact .rest
  | @queueStreamEvent place event =>
    have hstanding : (g.queueStreamEvent place event).1.standing index = g.standing index := by
      unfold queueStreamEvent
      split
      · rfl
      · exact standing_of_same (s := g) rfl (flags_updateStream g place fun _ => rfl) rfl
    rw [hstanding]
    exact .rest
  | execute h => exact standing_executes h index

theorem standing_step [ByteSource σ] (E : Engine σ β) (s : Session σ β τ) (action : Action τ)
    (index : Nat) :
    (s.standing index).Turn (s.Starts action) ((s.step E action).standing index) := by
  have hturn := standing_moves (moves_step E s action) index
  rwa [standing_gist, standing_gist] at hturn

/-- A session that was just opened has started no stream. -/
theorem standing_fresh (config : SourceConfig) (info : MediaInfo) (layout : Layout) (source : σ)
    (index : Nat) :
    (fresh config info layout source : Session σ β τ).gist.standing index = .fresh := by
  have hstream : (fresh config info layout source : Session σ β τ).gist.streams[index]? =
      layout.descriptors[index]?.map fun _ => StreamState.idle := List.getElem?_map
  simp only [standing, isActive, hasEnded, hstream]
  cases layout.descriptors[index]? <;> rfl

/-- What a stream of every session has that was just opened, and every turn keeps, the streams of
whatever can be reached have. -/
theorem standing_induction [ByteSource σ] {E : Engine σ β} {P : Standing τ → Prop}
    (hfresh : P .fresh)
    (hturn : ∀ {a b : Standing τ} {starting : Prop}, P a → a.Turn starting b → P b)
    {s : Session σ β τ} (h : Reachable E s) (index : Nat) : P (s.standing index) := by
  rw [← standing_gist]
  refine gist_induction (P := fun g => P (g.standing index)) (fun config info layout source => ?_)
    (fun hg hmoves => hturn hg (standing_moves hmoves index)) h
  rw [standing_fresh]
  exact hfresh

end Session
end PullStreams
