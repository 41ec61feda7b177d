/-
What fits together in every session that can be reached.

A layout counts the streams once and for all; the states of the streams, the selection
and the binding of the backend have an entry for each.  Before the backend is open a
session is stopped and shows the selection of its layout; without a pause nothing is put
off; the backend is let go exactly with the shutdown; and an announced end has come.

* `Layout.IsSound` — plans count alike;
* `Backing.IsSound` — what is opened is bound in full, and released by a shutdown only;
* `Session.IsShaped` — the lists of a session, and the time before the backend is open;
* `run_coherent` — all of it in every state of every run, with what the executor may
  therefore rely on: it finds the backend and the streams that it needs.
-/
import PullStreams.Proofs.Layout.Binding
import PullStreams.Proofs.Requests.Accounting
import PullStreams.Proofs.Session.Backing
import PullStreams.Proofs.Session.Starting

namespace PullStreams

/-! ### Layouts -/

namespace Layout

/-- There are streams, and every part of the layout has an entry for each. -/
structure IsSound (layout : Layout) : Prop where
  some : 0 < layout.length
  order : layout.order.length = layout.length
  defaultActive : layout.defaultActive.length = layout.length

theorem isSound_plan {policy : OrderPolicy} {catalog : Catalog}
    (h : (plan policy catalog).isEmpty = false) : (plan policy catalog).IsSound where
  some := List.length_pos_iff.mpr fun hnil => by rw [isEmpty, hnil] at h; cases h
  order := (length_descriptors_plan policy catalog).symm
  defaultActive :=
    (length_defaultActive_plan policy catalog).trans (length_descriptors_plan policy catalog).symm

end Layout

/-! ### Backings -/

namespace Backing

variable {σ β : Type} {E : Engine σ β} {b c : Backing β}

/-- What is opened is bound in full, and what is released was shut down. -/
structure IsSound (b : Backing β) : Prop where
  layout : b.layout.IsSound
  binding : ∀ {backend binding}, b.resources = .opened backend binding →
    binding.length = b.layout.length
  released : b.resources = .released ↔ b.isShut = true

theorem Works.isSound (h : b.Works E c) (hb : b.IsSound) : c.IsSound := by
  cases h with
  | rest => exact hb
  | operate hopened _ =>
    refine ⟨hb.layout, ?_, ?_⟩
    · rintro backend binding ⟨⟩
      exact hb.binding hopened
    · have hreleased := hb.released
      rw [hopened] at hreleased
      refine ⟨nofun, ?_⟩
      intro hshut
      cases hreleased.mpr hshut

theorem Turn.isSound {starts : Prop} (h : b.Turn E starts c) (hb : b.IsSound) : c.IsSound := by
  -- Nobody has shut down what nobody has tried to open.
  have halive : b.IsUntouched → b.isShut = false := by
    intro hfrom
    refine Bool.eq_false_iff.mpr fun hshut => ?_
    cases hfrom.1.symm.trans (hb.released.mpr hshut)
  cases h with
  | works _ h => exact h.isSound hb
  | attempt _ hfrom hattempt h =>
    refine h.isSound ⟨hb.layout, ?_, ?_⟩
    · intro backend binding hopened
      cases hattempt with
      | opened =>
        obtain ⟨-, rfl⟩ := Resources.opened.inj hopened
        exact Layout.length_bind hb.layout.order _
      | _ => cases hopened
    · simp only [halive hfrom, Bool.false_eq_true, iff_false]
      intro hreleased
      cases hattempt <;> cases hreleased
  | breakOff _ _ => exact ⟨hb.layout, hb.binding, hb.released⟩
  | release _ _ _ => exact ⟨hb.layout, nofun, ⟨fun _ => rfl, fun _ => rfl⟩⟩

end Backing

namespace Session

variable {σ β τ : Type}

theorem backing_isSound [ByteSource σ] {E : Engine σ β} {s : Session σ β τ} (h : Reachable E s) :
    s.backing.IsSound := by
  refine backing_induction (fun policy catalog info chunkSize hsome => ?_)
    (fun hb hturn => hturn.isSound hb) h
  exact ⟨Layout.isSound_plan hsome, nofun, ⟨nofun, nofun⟩⟩

/-! ### The lists of a session -/

/-- The layout, the selection and the number of the streams. -/
def frame (s : Session σ β τ) : Layout × List Bool × Nat :=
  (s.layout, s.selection, s.streams.length)

/-- There is an entry for every stream of the layout, and before the backend is open a session is
stopped and shows what the layout selects. -/
structure IsShaped (s : Session σ β τ) : Prop where
  streams : s.streams.length = s.layout.length
  selection : s.selection.length = s.layout.length
  unstarted : s.phase ≠ .shutdown → (∀ backend binding, s.resources ≠ .opened backend binding) →
    s.phase = .stopped ∧ s.selection = s.layout.defaultActive

theorem frame_updateStream (s : Session σ β τ) (index : Nat) (f : StreamState τ → StreamState τ) :
    (s.updateStream index f).frame = s.frame := by
  simp only [frame, updateStream, List.length_modify]

theorem frame_announce (s : Session σ β τ) (index : Nat) (event : StreamEvent τ) :
    (s.announce index event).frame = s.frame := frame_updateStream s index _

theorem frame_announceActive (s : Session σ β τ) (event : StreamEvent τ) :
    (s.announceActive event).frame = s.frame :=
  foldl_keeps (fun s i => frame_announce s i event) s s.activeIndices

theorem frame_dropDeferred (s : Session σ β τ) : s.dropDeferred.frame = s.frame := by
  simp only [frame, dropDeferred, clearDeferred, recordAll, List.length_map]

theorem frame_requeueDeferred (s : Session σ β τ) : s.requeueDeferred.frame = s.frame := by
  simp only [frame, requeueDeferred, clearDeferred, List.length_map]

theorem frame_answerWith (s : Session σ β τ) (index : Nat) (request : Request τ)
    (result : Except SourceError (Option Buffer)) :
    (s.answerWith index request result).1.frame = s.frame := by
  match result with
  | .ok (some buffer) =>
    simp only [answerWith]
    split
    · rfl
    · exact frame_updateStream s index _
  | .ok none =>
    have hended : ∀ t : Session σ β τ, t.endPresentation.frame = t.frame := by
      intro t
      unfold endPresentation
      split <;> rfl
    simp only [answerWith, endStream]
    rw [hended]
    exact (frame_updateStream _ index _).trans (frame_updateStream s index _)
  | .error e => exact frame_updateStream s index _

/-- A start takes the selection that it brings. -/
theorem frame_carryOut (s : Session σ β τ) (plan : StartPlan) :
    (s.carryOut plan).frame = (s.layout, plan.selected, s.streams.length) := by
  have hbring : ∀ (s : Session σ β τ) (index : Nat), (s.bring plan index).frame = s.frame := by
    intro s index
    simp only [bring]
    split
    · exact (frame_updateStream _ index _).trans (frame_updateStream s index _)
    · exact frame_updateStream s index _
  set brought := (List.range s.streams.length).foldl (bring plan) s with hbrought
  have hframe : brought.frame = s.frame := foldl_keeps hbring s (List.range s.streams.length)
  have hcleared : (if plan.target.isSome then brought.dropDeferred
      else brought.requeueDeferred).frame = s.frame := by
    split
    · rw [frame_dropDeferred, hframe]
    · rw [frame_requeueDeferred, hframe]
  exact congrArg (fun frame => (frame.1, plan.selected, frame.2.2)) hcleared

theorem IsShaped.kept {s t : Session σ β τ} (hs : s.IsShaped) (hframe : t.frame = s.frame)
    (hphase : t.phase = s.phase) (hresources : t.resources = s.resources) : t.IsShaped := by
  obtain ⟨hlayout, hrest⟩ := Prod.mk.inj hframe
  obtain ⟨hselection, hstreams⟩ := Prod.mk.inj hrest
  constructor
  · rw [hstreams, hlayout, hs.streams]
  · rw [hselection, hlayout, hs.selection]
  · rw [hphase, hresources, hselection, hlayout]
    exact hs.unstarted

/-- A session under way has its backend open, so nothing more is asked of where it goes. -/
theorem IsShaped.underWay {s t : Session σ β τ} (hs : s.IsShaped) (hphase : s.IsUnderWay)
    (hframe : t.frame = s.frame) (hresources : t.resources = s.resources) : t.IsShaped := by
  have halive : s.phase ≠ .shutdown := fun hshut => not_underWay_of_shutdown hshut hphase
  obtain ⟨hlayout, hrest⟩ := Prod.mk.inj hframe
  obtain ⟨hselection, hstreams⟩ := Prod.mk.inj hrest
  constructor
  · rw [hstreams, hlayout, hs.streams]
  · rw [hselection, hlayout, hs.selection]
  · intro _ hclosed
    rw [hresources] at hclosed
    obtain ⟨hstopped, _⟩ := hs.unstarted halive hclosed
    rcases hphase with hrunning | hpaused
    · cases hstopped.symm.trans hrunning
    · cases hstopped.symm.trans hpaused

theorem shaped_performs {g t : Session Unit Unit τ} {command : Command τ} (hg : g.IsShaped)
    (h : Performs g command t) : t.IsShaped := by
  cases h with
  | @start presentation _ position binding _ _ =>
    set opened := { g with resources := .opened () binding } with hopened
    set plan := g.planStart presentation.selectedIds position with hplan
    obtain ⟨hlayout, hrest⟩ := Prod.mk.inj (frame_carryOut opened plan)
    obtain ⟨hselection, hstreams⟩ := Prod.mk.inj hrest
    have hresources : (opened.carryOut plan).resources = .opened () binding :=
      congrArg Prod.fst (footing_carryOut opened plan)
    -- The selection has a mark for each of the streams that are there.
    have hmarks : plan.selected.length = g.streams.length := by
      rw [hplan, planStart, marksOfIds, List.length_map, List.length_range]
    constructor
    · rw [hstreams, hlayout]
      exact hg.streams
    · rw [hselection, hlayout, hmarks]
      exact hg.streams
    · intro _ hclosed
      exact absurd hresources (hclosed () binding)
  | @noStart presentation format position r hfrom hsame hclosed =>
    refine ⟨hg.streams, hg.selection, ?_⟩
    intro halive hnone
    refine hg.unstarted halive fun backend binding hopened => ?_
    -- What was open is open still, whether the format is accepted or not.
    by_cases hformat : format.isDefault = true
    · rcases hfrom hformat with hunopened | hr
      · cases hunopened.symm.trans hopened
      · exact hclosed hformat binding (hr.trans hopened)
    · exact hnone backend binding ((hsame (Bool.eq_false_iff.mpr hformat)).trans hopened)
  | pause hrunning =>
    exact hg.underWay (.inl hrunning) (frame_announceActive g .paused)
      (congrArg Prod.fst (footing_announceActive g .paused))
  | stop hphase =>
    have hframe := (frame_dropDeferred
      { g.announceActive .stopped with phase := .stopped }).trans (frame_announceActive g .stopped)
    exact hg.underWay hphase hframe (congrArg Prod.fst (footing_announceActive g .stopped))
  | noPause _ | noStop _ | drop _ => exact hg.kept rfl rfl rfl
  | defer _ => exact hg.kept (frame_updateStream g _ _) rfl rfl
  | @answer index request _ _ result =>
    obtain ⟨hfooting, hphase⟩ := footing_answerWith g index request result
    exact hg.kept (frame_answerWith g index request result) hphase (congrArg Prod.fst hfooting)

theorem shaped_moves {g t : Session Unit Unit τ} {action : Action τ} (hg : g.IsShaped)
    (h : Moves g action t) : t.IsShaped := by
  cases h with
  | nothing _ => exact hg
  | submit _ _ _ | skip _ _ _ | accept _ _ | setRate _ | nextEvent | queueEvent | take =>
    exact hg.kept rfl rfl rfl
  | shutdown _ =>
    refine ⟨?_, hg.selection, fun halive => absurd rfl halive⟩
    simp only [close, shutQueues, dropDeferred, clearDeferred, recordAll, List.length_map]
    exact hg.streams
  | nextStreamEvent =>
    simp only [nextStreamEvent]
    split
    · exact hg
    · exact hg.kept (frame_updateStream g _ _) rfl rfl
  | queueStreamEvent =>
    simp only [queueStreamEvent]
    split
    · exact hg
    · exact hg.kept (frame_updateStream g _ _) rfl rfl
  | execute h =>
    cases h with
    | idle _ => exact hg
    | discard _ _ =>
      unfold discard
      split <;> exact hg.kept rfl rfl rfl
    | breakOff _ _ _ => exact hg.kept rfl rfl rfl
    | perform _ _ _ h =>
      have hempty : g.emptyHanded.IsShaped := hg.kept rfl rfl rfl
      exact shaped_performs hempty h

theorem shaped_fresh {layout : Layout} (h : layout.IsSound) (config : SourceConfig)
    (info : MediaInfo) (source : σ) :
    (fresh config info layout source : Session σ β τ).gist.IsShaped where
  streams := List.length_map ..
  selection := h.defaultActive
  unstarted _ _ := ⟨rfl, rfl⟩

variable [ByteSource σ] {E : Engine σ β}

theorem shaped_of_reachable {s : Session σ β τ} (h : Reachable E s) : s.gist.IsShaped := by
  induction h with
  | @opened config source s h =>
    obtain ⟨info, layout, after, hgist⟩ := gist_ofSource h
    have hsound : s.layout.IsSound := (backing_isSound (.opened h)).layout
    have hlayout : s.layout = layout := congrArg Session.layout hgist
    rw [hlayout] at hsound
    rw [hgist]
    exact shaped_fresh hsound config info after
  | step _ action ih => exact shaped_moves ih (moves_step E _ action)

/-! ### All of it -/

/-- What fits together in a session over `count` streams. -/
structure IsCoherent (count : Nat) (s : Session σ β τ) : Prop where
  streams : s.streams.length = count
  selection : s.selection.length = count
  descriptors : s.layout.descriptors.length = count
  /-- The ids that name a stream name the streams that there are, each by its place. -/
  handles : ∀ {id index}, s.streamIndex id = .ok index ↔ index < count ∧ id.toNat = index + 1
  described : s.phase ≠ .shutdown → ∀ {index}, index < count →
    ∃ description, s.descriptor index = .ok (some description)
  binding : ∀ {backend binding}, s.resources = .opened backend binding → binding.length = count
  deferred : s.deferredRequests ≠ [] → s.phase = .paused
  underWay : s.phase = .running ∨ s.phase = .paused →
    ∃ backend binding, s.resources = .opened backend binding
  failed : ∀ {message}, s.resources = .failed message → s.phase = .stopped
  unopened : s.resources = .unopened → s.phase = .stopped
  released : s.resources = .released ↔ s.phase = .shutdown
  /-- While the session lives, an end that was announced has come: streams are active, and all of
  these have ended. -/
  ended : s.phase ≠ .shutdown → s.presentationEnded = true →
    (∃ stream ∈ s.streams, stream.isActive = true) ∧
      ∀ stream ∈ s.streams, stream.isActive = true → stream.hasEnded = true

theorem coherent_of_reachable {s : Session σ β τ} (h : Reachable E s) :
    s.IsCoherent s.layout.length := by
  have hshaped := shaped_of_reachable h
  have hsound := backing_isSound h
  have hstreams : s.streams.length = s.layout.length := hshaped.streams
  -- A session lives as long as its resources were not released.
  have hreleased : s.resources = .released ↔ s.phase = .shutdown := by
    have hbacking := hsound.released
    exact hbacking.trans beq_iff_eq
  have hclosed : (∀ backend binding, s.resources ≠ .opened backend binding) →
      s.resources ≠ .released → s.phase = .stopped := by
    intro hclosed hheld
    refine (hshaped.unstarted (fun hshut => hheld (hreleased.mpr hshut)) ?_).1
    intro _ binding hshape
    rw [gist_resources] at hshape
    cases hresources : s.resources with
    | opened backend binding => exact hclosed backend binding hresources
    | _ => rw [hresources] at hshape; cases hshape
  constructor
  case streams => exact hstreams
  case selection => exact hshaped.selection
  case descriptors => rfl
  case handles => exact fun {_ _} => hstreams ▸ streamIndex_eq_ok
  case described =>
    intro halive index hindex
    have hplace : index < s.layout.descriptors.length := hindex
    refine ⟨s.layout.descriptors[index], ?_⟩
    rw [descriptor, whileAlive, if_neg halive, List.getElem?_eq_getElem hplace]
  case binding => exact hsound.binding
  case deferred =>
    intro hdeferred
    by_contra hphase
    have hcalm := (balanced_of_reachable h).calm hphase
    rw [deferredRequests_ledger] at hcalm
    exact hdeferred hcalm
  case underWay =>
    intro hphase
    obtain ⟨⟨_, binding, hshape⟩, _⟩ := grounded_of_reachable h hphase
    rw [gist_resources] at hshape
    cases hresources : s.resources with
    | opened backend binding => exact ⟨backend, binding, rfl⟩
    | _ => rw [hresources] at hshape; cases hshape
  case failed =>
    intro message hfailed
    rw [hfailed] at hclosed
    exact hclosed nofun nofun
  case unopened =>
    intro hunopened
    rw [hunopened] at hclosed
    exact hclosed nofun nofun
  case released => exact hreleased
  case ended =>
    intro halive hended
    have hover : s.isOver = true := (timely_of_reachable h).isOver halive hended
    obtain ⟨hsome, hall⟩ := Bool.and_eq_true_iff.mp hover
    refine ⟨List.any_eq_true.mp hsome, ?_⟩
    intro stream hstream hactive
    simpa [hactive] using List.all_eq_true.mp hall stream hstream

/-! ### What the executor relies on -/

/-- What the executor finds whenever it carries out a command: a start the backend, a request that
is answered the backend as well, and every request its stream. -/
structure IsSupplied (E : Engine σ β) (count : Nat) (s : Session σ β τ) : Prop where
  start : s.phase ≠ .shutdown → ∀ presentation format position,
    (s.emptyHanded.runStart E presentation format position).2 ≠ .error .wrongState
  deliver : s.phase = .running → ∀ index request,
    s.emptyHanded.deliver E index request ≠
      (s.emptyHanded.drop index request, .error .wrongState)
  queued : ∀ a ∈ s.queuedRequests, a.1 < count
  deferred : ∀ a ∈ s.deferredRequests, a.1 < count

/-- Until the backend is released, no start fails for want of it. -/
theorem runStart_ne_wrongState {s : Session σ β τ} (hheld : s.resources ≠ .released)
    (presentation : Presentation) (format : TimeFormat) (position : StartPosition) :
    (s.runStart E presentation format position).2 ≠ .error .wrongState := by
  unfold runStart
  split
  · dsimp only
    rcases resources_openResources E hheld with ⟨backend, binding, hopened⟩ | ⟨message, hfailed⟩
    · rw [hopened]
      nofun
    · rw [hfailed]
      nofun
  · nofun

/-- With the backend open, a request is not given up for want of it: there is nothing to call for
its stream, or the backend is called. -/
theorem deliver_ne_drop {s : Session σ β τ} {backend : β} {binding : Binding}
    (hopened : s.resources = .opened backend binding) (index : Nat) (request : Request τ) :
    s.deliver E index request ≠ (s.drop index request, .error .wrongState) := by
  unfold deliver
  rw [hopened]
  dsimp only
  split
  · intro h
    cases (congrArg Prod.snd h : _ = Except.error SourceError.wrongState)
  · next b _ =>
    intro h
    have hcalls := congrArg (fun r => r.1.backing.calls) h
    simp only [backing_answerWith, backing_callBackend, backing_drop] at hcalls
    exact List.cons_ne_nil _ _ (List.append_right_eq_self.mp hcalls)

theorem supplied_of_reachable {s : Session σ β τ} (h : Reachable E s) :
    s.IsSupplied E s.layout.length := by
  have hcoherent := coherent_of_reachable h
  have haccounted := accounted_of_reachable h
  have hstreams : ∀ a ∈ s.queuedRequests ++ s.deferredRequests, a.1 < s.layout.length := by
    intro a ha
    have haccepted : a ∈ s.acceptedRequests :=
      haccounted.balance.mem_iff.mpr (List.mem_append_left _ (List.mem_append_left _ ha))
    rw [← hcoherent.streams]
    exact haccounted.streams a haccepted
  constructor
  case start =>
    intro halive presentation format position
    exact runStart_ne_wrongState (s := s.emptyHanded)
      (fun hreleased => halive (hcoherent.released.mp hreleased)) presentation format position
  case deliver =>
    intro hrunning index request
    obtain ⟨backend, binding, hopened⟩ := hcoherent.underWay (.inl hrunning)
    exact deliver_ne_drop (s := s.emptyHanded) hopened index request
  case queued => exact fun a ha => hstreams a (List.mem_append_left _ ha)
  case deferred => exact fun a ha => hstreams a (List.mem_append_right _ ha)

/-- A source that was opened has some number of streams, and in every state of every run all that
counts streams counts so many, its parts fit together, and the executor finds what it needs. -/
theorem run_coherent {config : SourceConfig} {source : σ} {s₀ : Session σ β τ}
    (h : ofSource E config source = .ok s₀) :
    ∃ count, 0 < count ∧ ∀ actions : List (Action τ),
      (s₀.run E actions).IsCoherent count ∧ (s₀.run E actions).IsSupplied E count := by
  refine ⟨s₀.layout.length, (backing_isSound (.opened h)).layout.some, fun actions => ?_⟩
  have hreachable : Reachable E (s₀.run E actions) := (Reachable.opened h).run actions
  rw [← (same_run E s₀ actions).1]
  exact ⟨coherent_of_reachable hreachable, supplied_of_reachable hreachable⟩

end Session

namespace Sketch

/-- A request is accepted while the session runs, and put off in a pause. -/
def deferring : List (Action Nat) :=
  [start [true, true], .take, .execute, .pause, .requestSample 1 (some 5), .take, .execute, .take,
    .execute]

theorem run_coherent_deferring :
    (play deferring).IsCoherent 2 ∧ (play deferring).IsSupplied engine 2 ∧
      (play deferring).deferredRequests = [(1, ⟨3, some 5⟩)] ∧
      (play deferring).phase = .paused := by
  obtain ⟨count, _, hrun⟩ := Session.run_coherent opened_eq
  obtain ⟨hcoherent, hsupplied⟩ := hrun deferring
  obtain rfl : 2 = count := hcoherent.streams
  exact ⟨hcoherent, hsupplied, rfl, rfl⟩

end Sketch
end PullStreams
