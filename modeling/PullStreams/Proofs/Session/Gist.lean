/-
The gist of a session: all of it but its backend, its feeder and the talk with them.

Whatever a backend is called for, the session itself changes in two ways only: the
backend and the feeder go on, and lines of talk are added to the journal
(`Entry.isTalk`).  `Session.gist` forgets both.  It is a session over nothing, so the
functions on sessions apply to it as well, and they commute with taking the gist:

* `gist_enableStream`, `gist_disableStream`, `gist_seekBackend`,
  `gist_callBackend` — calls of the backend do not touch the gist;
* `gist_openResources` — opening the backend changes one field of it;
* `gist_startWith` — a start is, but for the talk, `Session.carryOut`;
* `gist_deliver` — a request is answered with what a pull gave, or given up.

What is proved of gists holds of every engine and every byte source.
-/
import Mathlib.Tactic.Common
import PullStreams.Session.Run

namespace PullStreams

/-- Whether a line tells of nothing but calls and of what was said. -/
def Entry.isTalk {τ : Type} : Entry τ → Bool
  | .called _ | .said _ => true
  | _ => false

/-- How far a backend's life has come, without the backend. -/
def Resources.shape {β : Type} : Resources β → Resources Unit
  | .unopened => .unopened
  | .opened _ binding => .opened () binding
  | .failed message => .failed message
  | .released => .released

/-! ### Folds and changes in one place -/

/-- What a fold passes over stays. -/
theorem foldl_keeps {α γ δ : Type} {f : α → γ → α} {g : α → δ} (h : ∀ a c, g (f a c) = g a)
    (a : α) (cs : List γ) : g (cs.foldl f a) = g a := by
  induction cs generalizing a with
  | nil => rfl
  | cons c cs ih => rw [List.foldl_cons, ih, h]

theorem map_modify {α γ : Type} {f : α → α} {g : α → γ} {k : γ → γ}
    (h : ∀ a, g (f a) = k (g a)) (as : List α) (index : Nat) :
    (as.modify index f).map g = (as.map g).modify index k := by
  refine List.ext_getElem? fun i => ?_
  simp only [List.getElem?_map, List.getElem?_modify, Option.map_eq_map, Option.map_map]
  congr 1
  funext a
  simp only [Function.comp_apply]
  split
  · exact h a
  · rfl

/-- Where the last of a list stands behind some member, it is that member or joins those behind. -/
theorem concat_eq_append_cons {α : Type} {as front back : List α} {a last : α}
    (h : as ++ [last] = front ++ a :: back) :
    as = front ∧ last = a ∧ back = [] ∨
      ∃ rest, as = front ++ a :: rest ∧ back = rest ++ [last] := by
  rcases List.eq_nil_or_concat back with rfl | ⟨rest, b, rfl⟩
  · obtain ⟨hfront, hlast⟩ := List.append_inj' h rfl
    exact .inl ⟨hfront, (List.cons.inj hlast).1, rfl⟩
  · have h' : as ++ [last] = front ++ a :: rest ++ [b] := by simpa using h
    obtain ⟨has, hlast⟩ := List.append_inj' h' rfl
    exact .inr ⟨rest, has, by simp [(List.cons.inj hlast).1]⟩

namespace Session

variable {σ β τ : Type}

/-- A session without its backend, its feeder and the talk with them. -/
@[simps info layout phase rate streams selection resources presentationEnded commands
  executorBroke feederStart events journal]
def gist (s : Session σ β τ) : Session Unit Unit τ :=
  { info := s.info, layout := s.layout, phase := s.phase, rate := s.rate, streams := s.streams
    selection := s.selection, resources := s.resources.shape
    presentationEnded := s.presentationEnded, commands := s.commands
    executorBroke := s.executorBroke, feederStart := s.feederStart
    feeder := ⟨(), [], 0, []⟩, events := s.events
    journal := s.journal.filter fun e => !e.isTalk }

/-- What is read off the lines that are no talk is read off the gist as well. -/
theorem filterMap_gist {γ : Type} (s : Session σ β τ) {f : Entry τ → Option γ}
    (hcalled : ∀ call, f (.called call) = none) (hsaid : ∀ said, f (.said said) = none) :
    s.gist.journal.filterMap f = s.journal.filterMap f := by
  rw [gist_journal]
  induction s.journal with
  | nil => rfl
  | cons e journal ih =>
    cases e with
    | called call => rw [List.filterMap_cons_none (hcalled call), ← ih]; rfl
    | said said => rw [List.filterMap_cons_none (hsaid said), ← ih]; rfl
    | _ => rw [List.filter_cons_of_pos rfl, List.filterMap_cons, List.filterMap_cons, ih]

/-! ### Lines and events -/

theorem gist_record (s : Session σ β τ) {e : Entry τ} (h : e.isTalk = false) :
    (s.record e).gist = s.gist.record e := by
  simp [gist, record, h]

theorem gist_recordAll (s : Session σ β τ) {entries : List (Entry τ)}
    (h : ∀ e ∈ entries, e.isTalk = false) :
    (s.recordAll entries).gist = s.gist.recordAll entries := by
  have hfilter : entries.filter (fun e => !e.isTalk) = entries :=
    List.filter_eq_self.mpr fun e he => by rw [h e he]; rfl
  simp [gist, recordAll, hfilter]

theorem gist_recordAll_talk (s : Session σ β τ) {entries : List (Entry τ)}
    (h : ∀ e ∈ entries, e.isTalk = true) : (s.recordAll entries).gist = s.gist := by
  have hfilter : entries.filter (fun e => !e.isTalk) = [] :=
    List.filter_eq_nil_iff.mpr fun e he => by rw [h e he]; decide
  simp [gist, recordAll, hfilter]

@[simp] theorem gist_noteCall (s : Session σ β τ) (call : Call) :
    (s.noteCall call).gist = s.gist := by
  simp [gist, noteCall, record, Entry.isTalk]

@[simp] theorem gist_say (s : Session σ β τ) (party : Party) (notice : Notice) :
    (s.say party notice).gist = s.gist := by
  simp [gist, say, record, Entry.isTalk]

@[simp] theorem gist_sayAll (s : Session σ β τ) (party : Party) (notices : List Notice) :
    (s.sayAll party notices).gist = s.gist := by
  refine gist_recordAll_talk s fun e he => ?_
  obtain ⟨n, _, rfl⟩ := List.mem_map.mp he
  rfl

@[simp] theorem gist_post (s : Session σ β τ) (event : SourceEvent) :
    (s.post event).gist = s.gist.post event := by
  simp [gist, post, record, Entry.isTalk]

@[simp] theorem gist_updateStream (s : Session σ β τ) (index : Nat)
    (f : StreamState τ → StreamState τ) :
    (s.updateStream index f).gist = s.gist.updateStream index f := rfl

@[simp] theorem gist_announce (s : Session σ β τ) (index : Nat) (event : StreamEvent τ) :
    (s.announce index event).gist = s.gist.announce index event := by
  simp [gist, announce, tell, updateStream, record, Entry.isTalk]

@[simp] theorem gist_answer (s : Session σ β τ) (index : Nat) (request : Request τ)
    (event : StreamEvent τ) :
    (s.answer index request event).gist = s.gist.answer index request event := by
  simp [gist, answer, tell, updateStream, record, Entry.isTalk]

@[simp] theorem gist_drop (s : Session σ β τ) (index : Nat) (request : Request τ) :
    (s.drop index request).gist = s.gist.drop index request :=
  gist_record s rfl

theorem gist_announceActive (s : Session σ β τ) (event : StreamEvent τ) :
    (s.announceActive event).gist = s.gist.announceActive event := by
  have hactive : s.gist.activeIndices = s.activeIndices := rfl
  rw [announceActive, announceActive, hactive]
  exact (List.foldl_hom gist fun s index => (gist_announce s index event).symm).symm

@[simp] theorem gist_dropDeferred (s : Session σ β τ) :
    s.dropDeferred.gist = s.gist.dropDeferred := by
  refine gist_recordAll s.clearDeferred fun e he => ?_
  obtain ⟨a, _, rfl⟩ := List.mem_map.mp he
  rfl

@[simp] theorem gist_requeueDeferred (s : Session σ β τ) :
    s.requeueDeferred.gist = s.gist.requeueDeferred := rfl

/-! ### Calls of the backend -/

theorem gist_drive {α : Type} [ByteSource σ] (s : Session σ β τ) (party : Party)
    (operation : Pull (Outcome β α)) : (s.drive party operation).1.gist = s.gist := by
  simp only [drive, gist_sayAll]
  rfl

theorem gist_callBackend {α : Type} [ByteSource σ] (s : Session σ β τ) {backend : β}
    {binding : Binding} (h : s.resources = .opened backend binding) (call : Call)
    (operation : Pull (Outcome β α)) :
    (s.callBackend binding call operation).1.gist = s.gist := by
  have hdrive := gist_drive (s.noteCall call) .executor operation
  have hshape : s.gist.resources = .opened () binding := by
    rw [gist_resources, h]
    rfl
  -- The call leaves the backend opened as it was, and only the shape shows.
  calc (s.callBackend binding call operation).1.gist
      = { ((s.noteCall call).drive .executor operation).1.gist with
          resources := .opened () binding } := rfl
    _ = { s.gist with resources := .opened () binding } := by rw [hdrive, gist_noteCall]
    _ = s.gist := by rw [← hshape]

@[simp] theorem gist_complain (complaint : SourceError → Notice)
    (r : Session σ β τ × Except SourceError Unit) : (complain complaint r).gist = r.1.gist := by
  obtain ⟨s, _ | _⟩ := r <;> simp [complain]

@[simp] theorem gist_disableStream [ByteSource σ] (E : Engine σ β) (s : Session σ β τ)
    (index : Nat) : (s.disableStream E index).gist = s.gist := by
  unfold disableStream
  split
  · next h =>
    split
    · rfl
    · rw [gist_complain, gist_callBackend s h]
  · rfl

@[simp] theorem gist_enableStream [ByteSource σ] (E : Engine σ β) (s : Session σ β τ)
    (index : Nat) : (s.enableStream E index).gist = s.gist := by
  unfold enableStream
  split
  · next h =>
    split
    · rw [gist_say]
    · split
      · rfl
      · rw [gist_complain, gist_callBackend s h]
  · rfl

@[simp] theorem gist_seekBackend [ByteSource σ] (E : Engine σ β) (s : Session σ β τ)
    (time : Duration) : (s.seekBackend E time).gist = s.gist := by
  unfold seekBackend
  split
  · next h => rw [gist_complain, gist_callBackend s h]
  · rfl

@[simp] theorem gist_releaseBackend (E : Engine σ β) (s : Session σ β τ) (party : Party)
    (backend : β) : (s.releaseBackend E party backend).gist = s.gist := by
  simp only [releaseBackend]
  split <;> simp

@[simp] theorem gist_forgoBackend (E : Engine σ β) (s : Session σ β τ) (backend : β) :
    (s.forgoBackend E backend).gist = s.gist := by
  simp [forgoBackend]

/-- The gist of a session whose backend has come to another stage. -/
theorem gist_withResources (s : Session σ β τ) (r : Resources β) :
    { s with resources := r }.gist = { s.gist with resources := r.shape } := rfl

/-- The gist of a session in another phase. -/
theorem gist_withPhase (s : Session σ β τ) (phase : Phase) :
    { s with phase }.gist = { s.gist with phase } := rfl

theorem gist_bindBackend (E : Engine σ β) (s : Session σ β τ) (backend : β) :
    (s.bindBackend E backend).gist =
      { s.gist with resources := (s.bindBackend E backend).resources.shape } := by
  simp only [bindBackend, gist_withResources, gist_say, gist_sayAll]

theorem gist_connectBackend [ByteSource σ] (E : Engine σ β) (s : Session σ β τ) (backend : β) :
    (s.connectBackend E backend).gist =
      { s.gist with resources := (s.connectBackend E backend).resources.shape } := by
  have hdrive := gist_drive (s.noteCall (.connect s.info.size)) .executor
    (E.connect backend s.info.size)
  rw [gist_noteCall] at hdrive
  simp only [connectBackend]
  split
  · rw [gist_withResources, gist_releaseBackend, hdrive]
  · rw [gist_bindBackend, hdrive]

/-- Opening the backend changes nothing of the gist but the backend's stage. -/
theorem gist_openResources [ByteSource σ] (E : Engine σ β) (s : Session σ β τ) :
    (s.openResources E).gist =
      { s.gist with resources := (s.openResources E).resources.shape } := by
  unfold openResources
  split
  · split
    · rw [gist_withResources, gist_noteCall]
    · rw [gist_withResources, gist_forgoBackend, gist_noteCall]
    · rw [gist_connectBackend, gist_noteCall]
  · rfl

/-! ### Starts and requests -/

/-- What a start does to one stream, the backend apart. -/
def bring (plan : StartPlan) (s : Session σ β τ) (index : Nat) : Session σ β τ :=
  let wasActive := !plan.fromStop && (s.streams[index]?.map (·.isActive)).getD false
  let s := s.updateStream index (plan.applyTo (plan.selects index))
  if plan.selects index then
    let id := streamIdAt index
    let s := s.post (if wasActive then .updatedStream id else .newStream id)
    s.announce index plan.streamEvent
  else s

/-- A start, the backend apart. -/
def carryOut (s : Session σ β τ) (plan : StartPlan) : Session σ β τ :=
  let s := (List.range s.streams.length).foldl (bring plan) s
  let s := if plan.target.isSome then s.dropDeferred else s.requeueDeferred
  { s with
    presentationEnded := false
    selection := plan.selected
    phase := .running }.post plan.sourceEvent

theorem gist_startStream [ByteSource σ] (E : Engine σ β) (plan : StartPlan)
    (s : Session σ β τ) (index : Nat) :
    (s.startStream E plan index).gist = s.gist.bring plan index := by
  simp only [startStream, bring]
  split
  · rw [gist_announce, gist_post, gist_enableStream, gist_updateStream]
    rfl
  · rw [gist_disableStream, gist_updateStream]

theorem gist_startWith [ByteSource σ] (E : Engine σ β) (s : Session σ β τ) (ids : List UInt32)
    (position : StartPosition) :
    (s.startWith E ids position).gist = s.gist.carryOut (s.gist.planStart ids position) := by
  -- The stages of a start: what it says, the streams, the seek, and what was put off.
  set plan := s.planStart ids position with hplan
  set told := s.sayAll .executor (s.selectionNotices ids plan) with htold
  set brought := (List.range told.streams.length).foldl (startStream E plan) told with hbrought
  set moved := plan.target.elim brought (brought.seekBackend E) with hmoved
  have hgist : moved.gist = (List.range s.streams.length).foldl (bring plan) s.gist := by
    have hseek : moved.gist = brought.gist := by
      rw [hmoved]
      cases plan.target with
      | none => rfl
      | some time => exact gist_seekBackend E brought time
    have hfold : brought.gist = (List.range told.streams.length).foldl (bring plan) told.gist :=
      (List.foldl_hom gist fun s index => (gist_startStream E plan s index).symm).symm
    rw [hseek, hfold, htold, gist_sayAll]
    rfl
  have hcleared : (if plan.target.isSome then moved.dropDeferred else moved.requeueDeferred).gist =
      if plan.target.isSome then moved.gist.dropDeferred else moved.gist.requeueDeferred := by
    split
    · exact gist_dropDeferred moved
    · exact gist_requeueDeferred moved
  have hstart : (s.startWith E ids position).gist =
      ({ (if plan.target.isSome then moved.dropDeferred else moved.requeueDeferred).gist with
          presentationEnded := false, selection := plan.selected
          phase := .running } : Session Unit Unit τ).post plan.sourceEvent := by
    simp only [startWith, gist_post]
    rfl
  rw [hstart, hcleared, hgist]
  rfl

theorem gist_endPresentation (s : Session σ β τ) :
    s.endPresentation.gist = s.gist.endPresentation := by
  have hended : s.gist.allEnded = s.allEnded := rfl
  simp only [endPresentation, hended, gist_presentationEnded]
  split
  · exact gist_post _ _
  · rfl

theorem gist_endStream (s : Session σ β τ) (index : Nat) (request : Request τ) :
    (s.endStream index request).gist = s.gist.endStream index request := by
  simp [endStream, gist_endPresentation]

theorem gist_answerWith (s : Session σ β τ) (index : Nat) (request : Request τ)
    (result : Except SourceError (Option Buffer)) :
    (s.answerWith index request result).1.gist = (s.gist.answerWith index request result).1 := by
  match result with
  | .ok (some buffer) =>
    simp only [answerWith]
    split <;> simp
  | .ok none => simp [answerWith, gist_endStream]
  | .error e => simp [answerWith]

/-- A request that is served is answered with what some pull gives, or given up. -/
theorem gist_deliver [ByteSource σ] (E : Engine σ β) (s : Session σ β τ) (index : Nat)
    (request : Request τ) :
    (s.deliver E index request).1.gist = s.gist.drop index request ∨ ∃ result,
      (s.deliver E index request).1.gist = (s.gist.answerWith index request result).1 := by
  unfold deliver
  split
  · next backend binding h =>
    split
    · exact .inl (gist_drop s index request)
    · next b _ =>
      refine .inr ⟨(s.callBackend binding (.pull b) (E.pull backend b)).2, ?_⟩
      rw [gist_answerWith, gist_callBackend s h]
  · exact .inl (gist_drop s index request)

end Session
end PullStreams
