/-
Which streams of a session are active, and which have ended.

Both are marks of the streams (`Session.flags`), and only starts, ends of streams and
the shutdown change them.

* `flags_endStream`, `flags_answerWith` — of the answers to requests, only the end of
  a stream leaves a mark;
* `isOver_of_flags` — whether the presentation is over can be read off the marks.
-/
import PullStreams.Proofs.Session.Transition

namespace PullStreams

theorem all_modify {α : Type} {p : α → Bool} {f : α → α} (h : ∀ a, p a = true → p (f a) = true)
    {as : List α} (hall : as.all p = true) (index : Nat) : (as.modify index f).all p = true := by
  induction as generalizing index with
  | nil => rw [List.modify_nil, hall]
  | cons a as ih =>
    obtain ⟨ha, has⟩ := Bool.and_eq_true_iff.mp hall
    cases index with
    | zero => exact Bool.and_eq_true_iff.mpr ⟨h a ha, has⟩
    | succ index => exact Bool.and_eq_true_iff.mpr ⟨ha, ih has index⟩

namespace Session

variable {σ β τ : Type}

/-- Whether streams are active and all of them have ended. -/
def isOver (s : Session σ β τ) : Bool := (s.streams.any (·.isActive)) && s.allEnded

/-- Per stream, whether it is active and whether it has ended. -/
def flags (s : Session σ β τ) : List (Bool × Bool) :=
  s.streams.map fun stream => (stream.isActive, stream.hasEnded)

theorem allEnded_eq (s : Session σ β τ) :
    s.allEnded = s.flags.all fun flag => !flag.1 || flag.2 := by
  simp only [allEnded, flags, List.all_map]
  rfl

/-- All active streams have ended where no stream goes on. -/
theorem allEnded_iff {s : Session σ β τ} :
    s.allEnded = true ↔ ∀ index, s.serves index = false := by
  rw [allEnded, List.all_eq_true]
  constructor
  · intro h index
    unfold serves
    cases hstream : s.streams[index]? with
    | none => rfl
    | some stream =>
      have hmark := h stream (List.mem_of_getElem? hstream)
      simp only [Option.map_some, Option.getD_some, StreamState.isServed]
      revert hmark
      cases stream.isActive <;> cases stream.hasEnded <;> decide
  · intro h stream hmem
    obtain ⟨index, hindex⟩ := List.getElem?_of_mem hmem
    have hserves := h index
    simp only [serves, hindex, Option.map_some, Option.getD_some, StreamState.isServed] at hserves
    revert hserves
    cases stream.isActive <;> cases stream.hasEnded <;> decide

theorem isOver_eq (s : Session σ β τ) : s.isOver = (s.flags.any (·.1) && s.allEnded) := by
  simp only [isOver, flags, List.any_map]
  rfl

theorem isOver_of_flags {s t : Session σ β τ} (h : t.flags = s.flags) : t.isOver = s.isOver := by
  rw [isOver_eq, isOver_eq, allEnded_eq, allEnded_eq, h]

/-! ### Flags -/

theorem flags_updateStream (s : Session σ β τ) (index : Nat) {f : StreamState τ → StreamState τ}
    (h : ∀ stream, ((f stream).isActive, (f stream).hasEnded) =
      (stream.isActive, stream.hasEnded)) : (s.updateStream index f).flags = s.flags := by
  rw [flags, updateStream, map_modify (k := id) h, List.modify_id]
  rfl

theorem flags_tell (s : Session σ β τ) (index : Nat) (event : StreamEvent τ) :
    (s.tell index event).flags = s.flags :=
  flags_updateStream s index fun _ => rfl

theorem flags_announceActive (s : Session σ β τ) (event : StreamEvent τ) :
    (s.announceActive event).flags = s.flags :=
  foldl_keeps (f := fun s i => s.announce i event) (fun s i => flags_tell s i event) s
    s.activeIndices

theorem ended_announceActive (s : Session σ β τ) (event : StreamEvent τ) :
    (s.announceActive event).presentationEnded = s.presentationEnded :=
  foldl_keeps (f := fun s i => s.announce i event) (g := (·.presentationEnded)) (fun _ _ => rfl) s
    s.activeIndices

theorem flags_dropDeferred (s : Session σ β τ) : s.dropDeferred.flags = s.flags := by
  simp only [flags, dropDeferred, clearDeferred, recordAll, List.map_map]
  rfl

theorem flags_endPresentation (s : Session σ β τ) : s.endPresentation.flags = s.flags := by
  unfold endPresentation
  split <;> rfl

/-- A stream that has ended is marked. -/
theorem flags_endStream (s : Session σ β τ) (index : Nat) (request : Request τ) :
    (s.endStream index request).flags = s.flags.modify index fun flag => (flag.1, true) := by
  have hmarked := map_modify
    (f := fun stream : StreamState τ => { stream with hasEnded := true })
    (g := fun stream => (stream.isActive, stream.hasEnded)) (k := fun flag => (flag.1, true))
    (fun _ => rfl) s.streams index
  rw [endStream, flags_endPresentation]
  exact (flags_tell _ index .endOfStream).trans hmarked

/-- Whatever does not end the stream leaves the flags alone. -/
theorem flags_answerWith (s : Session σ β τ) (index : Nat) (request : Request τ)
    (result : Except SourceError (Option Buffer)) :
    (s.answerWith index request result).1 = s.endStream index request ∨
      (s.answerWith index request result).1.flags = s.flags ∧
        (s.answerWith index request result).1.events = s.events ∧
        (s.answerWith index request result).1.presentationEnded = s.presentationEnded ∧
        (s.answerWith index request result).1.phase = s.phase := by
  match result with
  | .ok (some buffer) =>
    simp only [answerWith]
    split
    · exact .inr ⟨rfl, rfl, rfl, rfl⟩
    · exact .inr ⟨flags_tell .., rfl, rfl, rfl⟩
  | .ok none => exact .inl rfl
  | .error e => exact .inr ⟨flags_tell .., rfl, rfl, rfl⟩

end Session
end PullStreams
