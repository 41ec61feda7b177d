/-
What a session under way stands on.

A session that runs or is paused was started, so its backend was opened; the shutdown
is the only one that lets the backend go, and then the session is under way no more.
The executor breaks off only when there is no backend yet.

* `grounded_of_reachable` — a session under way has its backend, and an executor that
  works.
-/
import PullStreams.Proofs.Session.Transition

namespace PullStreams

namespace Session

variable {σ β τ : Type}

/-- Whether a session runs or is paused. -/
def IsUnderWay (s : Session σ β τ) : Prop := s.phase = .running ∨ s.phase = .paused

/-- A session under way has its backend, and its executor works. -/
def IsGrounded (s : Session σ β τ) : Prop :=
  s.IsUnderWay →
    (∃ backend binding, s.resources = .opened backend binding) ∧ s.executorBroke = false

/-- The backend, and whether the executor broke off. -/
def footing (s : Session σ β τ) : Resources β × Bool := (s.resources, s.executorBroke)

theorem IsGrounded.kept {s t : Session σ β τ} (hs : s.IsGrounded)
    (hphase : t.IsUnderWay → s.IsUnderWay) (h : t.footing = s.footing) : t.IsGrounded := by
  intro ht
  obtain ⟨hresources, hbroke⟩ := Prod.mk.inj h
  rw [hresources, hbroke]
  exact hs (hphase ht)

theorem not_underWay_of_shutdown {s : Session σ β τ} (h : s.phase = .shutdown) :
    ¬s.IsUnderWay := by
  rintro (hphase | hphase)
  · rw [hphase] at h
    cases h
  · rw [hphase] at h
    cases h

/-! ### What leaves the footing alone -/

theorem footing_bring (plan : StartPlan) (s : Session σ β τ) (index : Nat) :
    (s.bring plan index).footing = s.footing := by
  simp only [bring]
  split <;> rfl

theorem footing_carryOut (s : Session σ β τ) (plan : StartPlan) :
    (s.carryOut plan).footing = s.footing := by
  rw [← foldl_keeps (footing_bring plan) s (List.range s.streams.length)]
  simp only [carryOut]
  split <;> rfl

theorem footing_announceActive (s : Session σ β τ) (event : StreamEvent τ) :
    (s.announceActive event).footing = s.footing := by
  have hannounce : ∀ (s : Session σ β τ) (index : Nat),
      (s.announce index event).footing = s.footing := fun _ _ => rfl
  exact foldl_keeps hannounce s s.activeIndices

theorem footing_answerWith (s : Session σ β τ) (index : Nat) (request : Request τ)
    (result : Except SourceError (Option Buffer)) :
    (s.answerWith index request result).1.footing = s.footing ∧
      (s.answerWith index request result).1.phase = s.phase := by
  match result with
  | .ok (some buffer) =>
    simp only [answerWith]
    split <;> exact ⟨rfl, rfl⟩
  | .ok none =>
    simp only [answerWith, endStream, endPresentation]
    split <;> exact ⟨rfl, rfl⟩
  | .error e => exact ⟨rfl, rfl⟩

/-! ### The invariant -/

theorem grounded_performs {g t : Session Unit Unit τ} {command : Command τ}
    (hg : g.IsGrounded) (hworks : g.executorBroke = false) (h : Performs g command t) :
    t.IsGrounded := by
  cases h with
  | @start presentation _ position binding _ _ =>
    obtain ⟨hresources, hbroke⟩ := Prod.mk.inj (footing_carryOut
      { g with resources := .opened () binding } (g.planStart presentation.selectedIds position))
    exact fun _ => ⟨⟨(), binding, hresources⟩, hbroke.trans hworks⟩
  | @noStart presentation format position r hfrom hsame hclosed =>
    -- A start that fails leaves a session under way its backend.
    intro hphase
    obtain ⟨⟨backend, binding, hresources⟩, hbroke⟩ := hg hphase
    refine ⟨⟨backend, binding, ?_⟩, hbroke⟩
    by_cases hformat : format.isDefault = true
    · rcases hfrom hformat with hunopened | hr
      · rw [hresources] at hunopened
        cases hunopened
      · exact hr.trans hresources
    · exact (hsame (Bool.eq_false_iff.mpr hformat)).trans hresources
  | pause hrunning => exact hg.kept (fun _ => .inl hrunning) (footing_announceActive g .paused)
  | stop _ =>
    rintro (hphase | hphase)
    · cases hphase
    · cases hphase
  | @answer index request _ _ result =>
    obtain ⟨hfooting, hphase⟩ := footing_answerWith g index request result
    refine hg.kept (fun ht => ?_) hfooting
    rwa [IsUnderWay, hphase] at ht
  | noPause _ | noStop _ | defer _ | drop _ => exact hg.kept id rfl

theorem grounded_executes {g t : Session Unit Unit τ} (hg : g.IsGrounded) (h : Executes g t) :
    t.IsGrounded := by
  cases h with
  | idle _ => exact hg
  | discard _ _ =>
    unfold discard
    split <;> exact hg.kept id rfl
  | breakOff _ _ hresources =>
    intro hphase
    obtain ⟨⟨backend, binding, hopened⟩, _⟩ := hg hphase
    rw [hresources] at hopened
    cases hopened
  | perform _ _ hworks h =>
    have hempty : g.emptyHanded.IsGrounded := hg.kept id rfl
    exact grounded_performs hempty hworks h

theorem grounded_moves {g t : Session Unit Unit τ} {action : Action τ} (hg : g.IsGrounded)
    (h : Moves g action t) : t.IsGrounded := by
  cases h with
  | shutdown _ => exact fun hphase => absurd hphase (not_underWay_of_shutdown rfl)
  | nextStreamEvent =>
    simp only [nextStreamEvent]
    split <;> exact hg.kept id rfl
  | queueStreamEvent =>
    simp only [queueStreamEvent]
    split <;> exact hg.kept id rfl
  | execute h => exact grounded_executes hg h
  | _ => exact hg.kept id rfl

theorem grounded_of_reachable [ByteSource σ] {E : Engine σ β} {s : Session σ β τ}
    (h : Reachable E s) : s.gist.IsGrounded := by
  refine gist_induction (P := IsGrounded) (fun config info layout source => ?_) grounded_moves h
  rintro (hphase | hphase)
  · cases hphase
  · cases hphase

end Session
end PullStreams
