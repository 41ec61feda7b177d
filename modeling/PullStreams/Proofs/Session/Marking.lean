/-
Which streams a backend is told to deliver.

A backend keeps marks for its streams.  Whatever else it does, it begins with none, sets
and removes them when it is told to, and lets them alone otherwise (`Engine.Marks`).  A
start tells it about every stream of the session in turn; as no two of these stand for the
same stream of the backend, what it is told of one leaves the others alone.

* `Engine.Wires` — the marks of a backend are those of the streams that are taken up;
* `wired_startStream` — bringing one stream to where a start wants it does so for its mark;
* `wired_startWith` — so a start leaves the marks of the streams that it selects.
-/
import Mathlib.Logic.Function.Basic
import PullStreams.Proofs.Layout.Binding
import PullStreams.Proofs.Session.Backing
import PullStreams.Proofs.Session.Standing

namespace PullStreams

namespace Engine

variable {σ β : Type}

/-- A backend that has connected, and what its operations make of it. -/
inductive Live (E : Engine σ β) : β → Prop
  | connected {backend : β} {size : Nat} {outcome : Outcome β Unit}
      (hcreate : E.create = .ok backend) (hconnect : (E.connect backend size).CanGive outcome)
      (hresult : outcome.result = .ok ()) : Live E outcome.after
  | operated {backend after : β} {call : Call} (hlive : Live E backend)
      (h : E.Operates backend call after) : Live E after

/-- What is asked of an engine whose backends mark the streams that they deliver. -/
structure Marks (E : Engine σ β) (marks : β → Nat → Bool) : Prop where
  fresh {backend : β} {size : Nat} {outcome : Outcome β Unit} (hcreate : E.create = .ok backend)
    (hconnect : (E.connect backend size).CanGive outcome) (hresult : outcome.result = .ok ())
    (index : Nat) : marks outcome.after index = false
  /-- Every stream has a format. -/
  formats {backend : β} (hlive : E.Live backend) : ∀ entry ∈ E.catalog backend, entry.format.isSome
  /-- The streams are known from the connection on. -/
  streams {backend after : β} {call : Call} (hlive : E.Live backend)
    (h : E.Operates backend call after) : (E.catalog after).length = (E.catalog backend).length
  enables {backend : β} {index : Nat} {format : MediaFormat} {outcome : Outcome β Unit}
    (hlive : E.Live backend) (hindex : index < (E.catalog backend).length)
    (h : (E.enable backend index format).CanGive outcome) : outcome.result = .ok ()
  enable {backend : β} {index : Nat} {format : MediaFormat} {outcome : Outcome β Unit}
    (hlive : E.Live backend) (h : (E.enable backend index format).CanGive outcome)
    (hresult : outcome.result = .ok ()) :
    marks outcome.after = Function.update (marks backend) index true
  disables {backend : β} {index : Nat} {outcome : Outcome β Unit} (hlive : E.Live backend)
    (hindex : index < (E.catalog backend).length)
    (h : (E.disable backend index).CanGive outcome) : outcome.result = .ok ()
  disable {backend : β} {index : Nat} {outcome : Outcome β Unit} (hlive : E.Live backend)
    (h : (E.disable backend index).CanGive outcome) (hresult : outcome.result = .ok ()) :
    marks outcome.after = Function.update (marks backend) index false
  seek {backend : β} {rate : Number.Single} {time : Duration} {outcome : Outcome β Unit}
    (hlive : E.Live backend) (h : (E.seek backend rate time).CanGive outcome) :
    marks outcome.after = marks backend
  pull {backend : β} {index : Nat} {outcome : Outcome β (Option Buffer)}
    (hlive : E.Live backend) (h : (E.pull backend index).CanGive outcome) :
    marks outcome.after = marks backend

/-- A backend is bound to streams of which no two stand for the same of its own, and delivers those
behind the streams that are on. -/
structure Wires (E : Engine σ β) (marks : β → Nat → Bool) (binding : Binding) (on : Nat → Bool)
    (backend : β) : Prop where
  live : E.Live backend
  bound : ∀ {index b}, binding.backendIndex? index = some b → b < (E.catalog backend).length
  apart : ∀ {i j b}, binding.backendIndex? i = some b → binding.backendIndex? j = some b → i = j
  marked : ∀ b, marks backend b = true ↔
    ∃ index, on index = true ∧ binding.backendIndex? index = some b

variable {E : Engine σ β} {marks : β → Nat → Bool} {binding : Binding} {on : Nat → Bool}
  {backend : β}

/-- A layout that shows no stream twice is bound to a new backend, which delivers nothing. -/
theorem Marks.wires_bind (hE : E.Marks marks) {layout : Layout} (hlayout : layout.order.Nodup)
    {size : Nat} {outcome : Outcome β Unit} (hcreate : E.create = .ok backend)
    (hconnect : (E.connect backend size).CanGive outcome) (hresult : outcome.result = .ok ()) :
    E.Wires marks (layout.bind (E.catalog outcome.after)) (fun _ => false) outcome.after where
  live := .connected hcreate hconnect hresult
  bound := Layout.bind_lt
  apart := Layout.bind_injective hlayout
  marked b := by simp [hE.fresh hcreate hconnect hresult b]

/-- An operation that leaves the marks alone. -/
theorem Wires.kept (hE : E.Marks marks) (h : E.Wires marks binding on backend) {after : β}
    {call : Call} (hcall : E.Operates backend call after) (hmarks : marks after = marks backend) :
    E.Wires marks binding on after where
  live := .operated h.live hcall
  bound hb := by
    rw [hE.streams h.live hcall]
    exact h.bound hb
  apart := h.apart
  marked b := by
    rw [hmarks]
    exact h.marked b

/-- An operation that sets or removes the mark behind one stream, and no other. -/
theorem Wires.update (hE : E.Marks marks) (h : E.Wires marks binding on backend) {after : β}
    {call : Call} (hcall : E.Operates backend call after) {index b : Nat} {mark : Bool}
    (hb : binding.backendIndex? index = some b)
    (hmarks : marks after = Function.update (marks backend) b mark) :
    E.Wires marks binding (Function.update on index mark) after where
  live := .operated h.live hcall
  bound hb := by
    rw [hE.streams h.live hcall]
    exact h.bound hb
  apart := h.apart
  marked c := by
    rw [hmarks]
    by_cases hc : c = b
    · subst hc
      rw [Function.update_self]
      constructor
      · intro hmark
        exact ⟨index, by rw [Function.update_self, hmark], hb⟩
      · rintro ⟨i, hi, hic⟩
        rwa [h.apart hic hb, Function.update_self] at hi
    · rw [Function.update_of_ne hc, h.marked c]
      -- The streams that stand for others than `b` are others than `index`.
      refine exists_congr fun i => and_congr_left fun hic => ?_
      have hne : i ≠ index := by
        rintro rfl
        exact hc (Option.some.inj (hic.symm.trans hb))
      rw [Function.update_of_ne hne]

/-- What is on matters for streams only that stand for one of the backend. -/
theorem Wires.unbound (h : E.Wires marks binding on backend) {index : Nat} (mark : Bool)
    (hb : binding.backendIndex? index = none) :
    E.Wires marks binding (Function.update on index mark) backend where
  live := h.live
  bound := h.bound
  apart := h.apart
  marked c := by
    rw [h.marked c]
    refine exists_congr fun i => and_congr_left fun hic => ?_
    have hne : i ≠ index := by
      rintro rfl
      cases hic.symm.trans hb
    rw [Function.update_of_ne hne]

theorem Wires.congr (h : E.Wires marks binding on backend) {on' : Nat → Bool}
    (hon : ∀ index, on' index = on index) : E.Wires marks binding on' backend :=
  funext hon ▸ h

end Engine

namespace Session

variable {σ β τ : Type} {E : Engine σ β} {marks : β → Nat → Bool} {on : Nat → Bool}

/-- The backend is open, and delivers what stands behind the streams that are on. -/
def IsWired (E : Engine σ β) (marks : β → Nat → Bool) (on : Nat → Bool) (s : Session σ β τ) :
    Prop :=
  ∃ backend binding, s.resources = .opened backend binding ∧ E.Wires marks binding on backend

/-- Only the backend matters. -/
theorem IsWired.of_resources {s t : Session σ β τ} (hs : s.IsWired E marks on)
    (h : t.resources = s.resources) : t.IsWired E marks on := by
  rw [IsWired, h]
  exact hs

variable [ByteSource σ]

theorem wired_disableStream (hE : E.Marks marks) {s : Session σ β τ} (hs : s.IsWired E marks on)
    (index : Nat) :
    (s.disableStream E index).IsWired E marks (Function.update on index false) := by
  obtain ⟨backend, binding, hopened, hwires⟩ := hs
  simp only [disableStream, hopened]
  split
  · next hb => exact ⟨backend, binding, hopened, hwires.unbound false hb⟩
  · next b hb =>
    have hbacking := (backing_complain (.disableFailed (index + 1)) _).trans
      (backing_callBackend s binding (.disable b) (E.disable backend b))
    have hgive := canGive_drive (s.noteCall (.disable b)) .executor (E.disable backend b)
    have hmarks := hE.disable hwires.live hgive (hE.disables hwires.live (hwires.bound hb) hgive)
    exact ⟨_, binding, congrArg Backing.resources hbacking,
      hwires.update hE (.disable hgive) hb hmarks⟩

theorem wired_enableStream (hE : E.Marks marks) {s : Session σ β τ} (hs : s.IsWired E marks on)
    (index : Nat) :
    (s.enableStream E index).IsWired E marks (Function.update on index true) := by
  obtain ⟨backend, binding, hopened, hwires⟩ := hs
  simp only [enableStream, hopened]
  split
  · next hb => exact ⟨backend, binding, hopened, hwires.unbound true hb⟩
  · next b hb =>
    have hlt := hwires.bound hb
    obtain ⟨format, hformat⟩ := Option.isSome_iff_exists.mp
      (hE.formats hwires.live _ (List.getElem_mem hlt))
    rw [List.getElem?_eq_getElem hlt, Option.bind_some, hformat]
    have hbacking := (backing_complain (.enableFailed (index + 1)) _).trans
      (backing_callBackend s binding (.enable b format) (E.enable backend b format))
    have hgive := canGive_drive (s.noteCall (.enable b format)) .executor
      (E.enable backend b format)
    have hmarks := hE.enable hwires.live hgive (hE.enables hwires.live hlt hgive)
    exact ⟨_, binding, congrArg Backing.resources hbacking,
      hwires.update hE (.enable hgive) hb hmarks⟩

theorem wired_startStream (hE : E.Marks marks) (plan : StartPlan) {s : Session σ β τ}
    (hs : s.IsWired E marks on) (index : Nat) :
    (s.startStream E plan index).IsWired E marks
      (Function.update on index (plan.selects index)) := by
  have hupdated : (s.updateStream index (plan.applyTo (plan.selects index))).IsWired E marks on :=
    hs.of_resources rfl
  simp only [startStream]
  split
  · next hon =>
    rw [hon] at hupdated ⊢
    exact (wired_enableStream hE hupdated index).of_resources rfl
  · next hoff =>
    rw [Bool.eq_false_iff.mpr hoff] at hupdated ⊢
    exact wired_disableStream hE hupdated index

/-- Each stream that is gone over is on as the start wants it, and the others are as before. -/
theorem wired_foldl_startStream (hE : E.Marks marks) (plan : StartPlan) {s : Session σ β τ}
    (hs : s.IsWired E marks on) (indices : List Nat) :
    (indices.foldl (startStream E plan) s).IsWired E marks fun index =>
      if index ∈ indices then plan.selects index else on index := by
  induction indices generalizing s on with
  | nil => simpa using hs
  | cons first indices ih =>
    obtain ⟨backend, binding, hopened, hwires⟩ := ih (wired_startStream hE plan hs first)
    refine ⟨backend, binding, hopened, hwires.congr fun index => ?_⟩
    by_cases hmem : index ∈ indices
    · simp [hmem]
    · by_cases hfirst : index = first
      · simp [hfirst]
      · simp [hmem, hfirst]

theorem wired_seekBackend (hE : E.Marks marks) {s : Session σ β τ} (hs : s.IsWired E marks on)
    (time : Duration) : (s.seekBackend E time).IsWired E marks on := by
  obtain ⟨backend, binding, hopened, hwires⟩ := hs
  simp only [seekBackend, hopened]
  have hbacking := (backing_complain (.seekFailed time) _).trans
    (backing_callBackend s binding (.seek s.rate time) (E.seek backend s.rate time))
  have hgive := canGive_drive (s.noteCall (.seek s.rate time)) .executor
    (E.seek backend s.rate time)
  exact ⟨_, binding, congrArg Backing.resources hbacking,
    hwires.kept hE (.seek hgive) (hE.seek hwires.live hgive)⟩

/-- A start leaves the marks of the streams that it selects, and none of those it does not. -/
theorem wired_startWith (hE : E.Marks marks) {s : Session σ β τ} (hs : s.IsWired E marks on)
    (hon : ∀ index, s.streams.length ≤ index → on index = false) (ids : List UInt32)
    (position : StartPosition) :
    (s.startWith E ids position).IsWired E marks (s.planStart ids position).selects := by
  set plan := s.planStart ids position with hplan
  set told := s.sayAll .executor (s.selectionNotices ids plan) with htold
  set brought := (List.range told.streams.length).foldl (startStream E plan) told with hbrought
  set moved := plan.target.elim brought (brought.seekBackend E) with hmoved
  have hbegun : told.IsWired E marks on := hs.of_resources rfl
  have hstreams : brought.IsWired E marks plan.selects := by
    obtain ⟨backend, binding, hopened, hwires⟩ :=
      wired_foldl_startStream hE plan hbegun (List.range told.streams.length)
    refine ⟨backend, binding, hopened, hwires.congr fun index => ?_⟩
    -- There are no other streams than those that are gone over.
    split
    · rfl
    · next hmem =>
      have hout : s.streams.length ≤ index := Nat.le_of_not_lt fun hlt =>
        hmem (List.mem_range.mpr hlt)
      rw [hon index hout, hplan, selects_planStart ids position hout]
  have hmove : moved.IsWired E marks plan.selects := by
    rw [hmoved]
    cases plan.target with
    | none => exact hstreams
    | some time => exact wired_seekBackend hE hstreams time
  refine hmove.of_resources (?_ : (if plan.target.isSome then moved.dropDeferred
    else moved.requeueDeferred).resources = moved.resources)
  split <;> rfl

end Session
end PullStreams
