/-
What the built-in orders have in common, and which order the grouped one is.

Both show every stream of the backend, and each of them once: `OrderPolicy.IsComplete`.
The grouped one has the streams of some kinds before those of others, and streams that
kinds do not tell apart backwards.  No other order does (`isGroupedBackwards_iff`).
-/
import Mathlib.Data.List.Nodup
import PullStreams.Config

namespace PullStreams

namespace OrderPolicy

/-- A policy that shows every stream once, whatever the kinds are. -/
def IsComplete (policy : OrderPolicy) : Prop :=
  ∀ kinds, (policy.order kinds).Perm (List.range kinds.length)

variable {policy : OrderPolicy}

theorem IsComplete.nodup (h : policy.IsComplete) (kinds : List MediaKind) :
    (policy.order kinds).Nodup :=
  (h kinds).nodup_iff.mpr List.nodup_range

theorem IsComplete.mem_order (h : policy.IsComplete) {kinds : List MediaKind} {index : Nat} :
    index ∈ policy.order kinds ↔ index < kinds.length := by
  rw [(h kinds).mem_iff, List.mem_range]

theorem IsComplete.length_order (h : policy.IsComplete) (kinds : List MediaKind) :
    (policy.order kinds).length = kinds.length := by
  rw [(h kinds).length_eq, List.length_range]

/-! ### The natural order -/

theorem isComplete_natural : natural.IsComplete := fun _ => .refl _

/-! ### Groups backwards -/

theorem mem_backwardsIn {kinds : List MediaKind} {group index : Nat} :
    index ∈ backwardsIn kinds group ↔ kinds[index]?.map (·.group) = some group := by
  simp only [backwardsIn, List.mem_filter, List.mem_reverse, List.mem_range, beq_iff_eq,
    and_iff_right_iff_imp]
  intro h
  obtain ⟨kind, hkind, _⟩ := Option.map_eq_some_iff.mp h
  exact (List.getElem?_eq_some_iff.mp hkind).1

theorem nodup_backwardsIn (kinds : List MediaKind) (group : Nat) :
    (backwardsIn kinds group).Nodup :=
  (List.nodup_reverse.mpr List.nodup_range).filter _

theorem nodup_reverseGrouped (kinds : List MediaKind) : (reverseGrouped.order kinds).Nodup := by
  refine List.nodup_flatMap.mpr ⟨fun group _ => nodup_backwardsIn kinds group, ?_⟩
  -- No stream is in two groups.
  have hgroups : [0, 1, 2].Nodup := by decide
  refine hgroups.imp fun hne index hfirst hsecond => hne ?_
  exact Option.some.inj ((mem_backwardsIn.mp hfirst).symm.trans (mem_backwardsIn.mp hsecond))

theorem group_mem (kind : MediaKind) : kind.group ∈ [0, 1, 2] := by
  cases kind <;> decide

theorem isComplete_reverseGrouped : reverseGrouped.IsComplete := by
  intro kinds
  refine (List.perm_ext_iff_of_nodup (nodup_reverseGrouped kinds) List.nodup_range).mpr
    fun index => ?_
  rw [List.mem_range]
  constructor
  · intro h
    obtain ⟨group, _, hmem⟩ := List.mem_flatMap.mp h
    obtain ⟨kind, hkind, _⟩ := Option.map_eq_some_iff.mp (mem_backwardsIn.mp hmem)
    exact (List.getElem?_eq_some_iff.mp hkind).1
  · intro h
    refine List.mem_flatMap.mpr ⟨kinds[index].group, group_mem _, mem_backwardsIn.mpr ?_⟩
    rw [List.getElem?_eq_getElem h]
    rfl

/-! ### The only such order -/

/-- A stream of audio comes before all that is none, and one of video before what is neither. -/
def ComesBefore (kinds : List MediaKind) (i j : Nat) : Prop :=
  kinds[i]? = some .audio ∧ kinds[j]? ≠ some .audio ∨
    kinds[i]? = some .video ∧ kinds[j]? ≠ some .audio ∧ kinds[j]? ≠ some .video

/-- An order that goes by `ComesBefore`, and backwards where that leaves it open. -/
structure IsGroupedBackwards (kinds : List MediaKind) (order : List Nat) : Prop where
  /-- Every index is there once, and nothing else is. -/
  complete : order.Perm (List.range kinds.length)
  grouped : order.Pairwise fun i j => ¬ComesBefore kinds j i
  backwards : order.Pairwise fun i j =>
    ¬ComesBefore kinds i j → ¬ComesBefore kinds j i → j < i

variable {kinds : List MediaKind} {i j : Nat}

theorem comesBefore_iff {first second : Nat} (hi : kinds[i]?.map (·.group) = some first)
    (hj : kinds[j]?.map (·.group) = some second) : ComesBefore kinds i j ↔ first < second := by
  obtain ⟨a, ha, rfl⟩ := Option.map_eq_some_iff.mp hi
  obtain ⟨b, hb, rfl⟩ := Option.map_eq_some_iff.mp hj
  rw [ComesBefore, ha, hb]
  cases a <;> cases b <;> decide

/-- In one group the indices fall. -/
theorem pairwise_backwardsIn (kinds : List MediaKind) (group : Nat) :
    (backwardsIn kinds group).Pairwise fun i j => j < i :=
  (List.pairwise_reverse.mpr List.pairwise_lt_range).filter _

theorem isGroupedBackwards_reverseGrouped (kinds : List MediaKind) :
    IsGroupedBackwards kinds (reverseGrouped.order kinds) where
  complete := isComplete_reverseGrouped kinds
  grouped := by
    refine List.pairwise_flatMap.mpr ⟨fun group _ => ?_, ?_⟩
    · refine (pairwise_backwardsIn kinds group).imp_of_mem fun hi hj _ hbefore => ?_
      exact Nat.lt_irrefl group
        ((comesBefore_iff (mem_backwardsIn.mp hj) (mem_backwardsIn.mp hi)).mp hbefore)
    · have hgroups : [0, 1, 2].Pairwise (· < ·) := by decide
      refine hgroups.imp fun hlt i hi j hj hbefore => ?_
      exact Nat.lt_asymm hlt
        ((comesBefore_iff (mem_backwardsIn.mp hj) (mem_backwardsIn.mp hi)).mp hbefore)
  backwards := by
    refine List.pairwise_flatMap.mpr ⟨fun group _ => ?_, ?_⟩
    · exact (pairwise_backwardsIn kinds group).imp fun hlt _ _ => hlt
    · have hgroups : [0, 1, 2].Pairwise (· < ·) := by decide
      refine hgroups.imp fun hlt i hi j hj hnot => ?_
      exact absurd ((comesBefore_iff (mem_backwardsIn.mp hi) (mem_backwardsIn.mp hj)).mpr hlt) hnot

/-- Two indices never stand both ways round, so that the order of all of them is determined. -/
theorem IsGroupedBackwards.unique {order other : List Nat} (h : IsGroupedBackwards kinds order)
    (h' : IsGroupedBackwards kinds other) : order = other := by
  refine List.Perm.eq_of_pairwise (fun i j _ _ hij hji => ?_) (h.grouped.and h.backwards)
    (h'.grouped.and h'.backwards) (h.complete.trans h'.complete.symm)
  obtain ⟨hnot, hback⟩ := hij
  obtain ⟨hnot', hback'⟩ := hji
  have hlt : j < i := hback hnot' hnot
  have hgt : i < j := hback' hnot hnot'
  omega

/-- The grouped order has every index once, goes by kinds and backwards among the others, and is the
only list that does. -/
theorem isGroupedBackwards_iff (kinds : List MediaKind) (order : List Nat) :
    IsGroupedBackwards kinds order ↔ order = reverseGrouped.order kinds := by
  constructor
  · intro h
    exact h.unique (isGroupedBackwards_reverseGrouped kinds)
  · rintro rfl
    exact isGroupedBackwards_reverseGrouped kinds

example : reverseGrouped.order [.video, .unknown, .audio, .subtitle, .video, .audio] =
    [5, 2, 4, 0, 3, 1] := by decide

end OrderPolicy

/-- Whatever is configured, every stream is shown once. -/
theorem SourceConfig.isComplete_policyFor (config : SourceConfig) (mimeType : String) :
    (config.policyFor mimeType).IsComplete := by
  unfold policyFor
  split
  · exact OrderPolicy.isComplete_reverseGrouped
  · exact OrderPolicy.isComplete_natural

end PullStreams
