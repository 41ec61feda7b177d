/-
What a binding gives away.

Where a layout shows no stream twice, binding it gives every stream of the backend to at
most one of its streams, and only streams that the backend has.

* `Binding.given` — the backend's streams that a binding gives away, in order;
* `gets_bindRest` — what every stream gets, and why some get nothing;
* `mem_bindRest`, `nodup_bindRest` — what the streams get that found nothing as planned;
* `bind_lt`, `bind_injective` — so a binding is within its catalog, and injective.
-/
import PullStreams.Layout.Binding
import PullStreams.Proofs.Layout.Order

namespace PullStreams

namespace Binding

/-- The streams of the backend that a binding gives away, in order. -/
def given (binding : Binding) : List Nat := binding.filterMap id

theorem mem_given_of_backendIndex {binding : Binding} {index b : Nat}
    (h : binding.backendIndex? index = some b) : b ∈ binding.given :=
  List.mem_filterMap.mpr ⟨some b, List.mem_of_getElem? (Option.join_eq_some_iff.mp h), rfl⟩

/-- What is given away once belongs to one stream. -/
theorem backendIndex_injective {binding : Binding} (h : binding.given.Nodup) {i j b : Nat}
    (hi : binding.backendIndex? i = some b) (hj : binding.backendIndex? j = some b) : i = j := by
  have hpairs : binding.Pairwise fun x y => ∀ b ∈ id x, ∀ c ∈ id y, b ≠ c :=
    List.pairwise_filterMap.mp h
  rw [backendIndex?, Option.join_eq_some_iff] at hi hj
  obtain ⟨hi, hib⟩ := List.getElem?_eq_some_iff.mp hi
  obtain ⟨hj, hjb⟩ := List.getElem?_eq_some_iff.mp hj
  have happart : ∀ {k l : Nat} (hk : k < binding.length) (hl : l < binding.length),
      binding[k] = some b → binding[l] = some b → ¬k < l := by
    intro k l hk hl hkb hlb hlt
    exact List.pairwise_iff_getElem.mp hpairs k l hk hl hlt b hkb b hlb rfl
  exact Nat.le_antisymm (Nat.le_of_not_lt (happart hj hi hjb hib))
    (Nat.le_of_not_lt (happart hi hj hib hjb))

end Binding

namespace Layout

/-! ### What is found as planned -/

theorem given_bindPlanned_sublist (layout : Layout) (kinds : List MediaKind) :
    (layout.bindPlanned kinds).given.Sublist layout.order := by
  rw [bindPlanned]
  generalize layout.descriptors = descriptors
  induction layout.order generalizing descriptors with
  | nil => exact List.Sublist.refl _
  | cons planned order ih =>
    cases descriptors with
    | nil => exact List.nil_sublist _
    | cons d descriptors =>
      rw [List.zipWith_cons_cons]
      split
      · exact (ih descriptors).cons_cons planned
      · exact (ih descriptors).cons planned

theorem lt_of_mem_bindPlanned {layout : Layout} {kinds : List MediaKind} {b : Nat}
    (h : b ∈ (layout.bindPlanned kinds).given) : b < kinds.length := by
  obtain ⟨entry, hentry, hb⟩ := List.mem_filterMap.mp h
  obtain ⟨i, hi, rfl⟩ := List.getElem_of_mem hentry
  simp only [bindPlanned, List.getElem_zipWith, id_eq] at hb
  split at hb
  · next hkind =>
    obtain rfl := Option.some.inj hb
    exact (List.getElem?_eq_some_iff.mp hkind).1
  · cases hb

/-! ### What the rest gets -/

theorem firstFree_eq_some {kinds : List MediaKind} {taken : List Nat} {kind : MediaKind} {b : Nat}
    (h : firstFree? kinds taken kind = some b) :
    b < kinds.length ∧ b ∉ taken ∧ kinds[b]? = some kind := by
  have hmem := List.mem_of_find?_eq_some h
  have hfree := List.find?_some h
  simp only [Bool.and_eq_true, Bool.not_eq_true', List.contains_eq_mem, decide_eq_false_iff_not,
    beq_iff_eq] at hfree
  exact ⟨List.mem_range.mp hmem, hfree.1, hfree.2⟩

/-- What a stream with its kind and its plan may get: what was found as planned, a stream of its
kind, or nothing when all streams of its kind are `gone`. -/
inductive Gets (kinds : List MediaKind) (gone : Nat → Prop) :
    MediaKind × Option Nat → Option Nat → Prop
  | planned (kind : MediaKind) (b : Nat) : Gets kinds gone (kind, some b) (some b)
  | free {kind : MediaKind} {b : Nat} (hkind : kinds[b]? = some kind) :
      Gets kinds gone (kind, none) (some b)
  | nothing {kind : MediaKind} (hgone : ∀ b, kinds[b]? = some kind → gone b) :
      Gets kinds gone (kind, none) none

theorem Gets.imp {kinds : List MediaKind} {gone gone' : Nat → Prop} {entry : MediaKind × Option Nat}
    {got : Option Nat} (h : Gets kinds gone entry got) (himp : ∀ b, gone b → gone' b) :
    Gets kinds gone' entry got := by
  cases h with
  | planned kind b => exact .planned kind b
  | free hkind => exact .free hkind
  | nothing hgone => exact .nothing fun b hb => himp b (hgone b hb)

theorem mem_taken_of_firstFree_eq_none {kinds : List MediaKind} {taken : List Nat} {kind : MediaKind}
    (h : firstFree? kinds taken kind = none) {b : Nat} (hb : kinds[b]? = some kind) : b ∈ taken := by
  have hlt : b < kinds.length := (List.getElem?_eq_some_iff.mp hb).1
  have hfree := List.find?_eq_none.mp h b (List.mem_range.mpr hlt)
  simpa [hb] using hfree

/-- A stream goes without only if all streams of its kind were taken or are given away here. -/
theorem gets_bindRest (kinds : List MediaKind) (entries : List (MediaKind × Option Nat))
    (taken : List Nat) :
    List.Forall₂ (Gets kinds fun b => b ∈ taken ∨ b ∈ (bindRest kinds entries taken).given) entries
      (bindRest kinds entries taken) := by
  induction entries generalizing taken with
  | nil => exact .nil
  | cons entry entries ih =>
    obtain ⟨kind, _ | planned⟩ := entry
    · rw [bindRest]
      split
      · next free hfree =>
        refine .cons (.free (firstFree_eq_some hfree).2.2) ((ih (free :: taken)).imp ?_)
        intro entry got hgets
        refine hgets.imp fun b hb => ?_
        rw [List.mem_cons, or_assoc] at hb
        rcases hb with rfl | htaken | hgiven
        · exact .inr List.mem_cons_self
        · exact .inl htaken
        · exact .inr (List.mem_cons_of_mem _ hgiven)
      · next hnone =>
        exact .cons (.nothing fun b hb => .inl (mem_taken_of_firstFree_eq_none hnone hb)) (ih taken)
    · refine .cons (.planned kind planned) ((ih taken).imp fun entry got hgets => ?_)
      exact hgets.imp fun b hb => hb.imp_right (List.mem_cons_of_mem _)

/-- What a stream gets was found as planned, or nobody had it. -/
theorem mem_bindRest {kinds : List MediaKind} {entries : List (MediaKind × Option Nat)}
    {taken : List Nat} {b : Nat} (h : b ∈ (bindRest kinds entries taken).given) :
    b ∈ entries.filterMap (·.2) ∨ b ∉ taken ∧ b < kinds.length := by
  induction entries generalizing taken with
  | nil => cases h
  | cons entry entries ih =>
    obtain ⟨kind, _ | planned⟩ := entry
    · simp only [bindRest] at h
      split at h
      · next free hfree =>
        obtain ⟨hlt, hnot, _⟩ := firstFree_eq_some hfree
        rcases List.mem_cons.mp h with rfl | h
        · exact .inr ⟨hnot, hlt⟩
        · exact (ih h).imp_right fun ⟨hnew, hlt⟩ =>
            ⟨fun htaken => hnew (List.mem_cons_of_mem _ htaken), hlt⟩
      · exact ih h
    · rcases List.mem_cons.mp h with rfl | h
      · exact .inl List.mem_cons_self
      · exact (ih h).imp_left (List.mem_cons_of_mem _)

/-- Nothing is given twice, as what was found as planned is taken from the beginning. -/
theorem nodup_bindRest {kinds : List MediaKind} {entries : List (MediaKind × Option Nat)}
    {taken : List Nat} (hnodup : (entries.filterMap (·.2)).Nodup)
    (htaken : ∀ b ∈ entries.filterMap (·.2), b ∈ taken) :
    (bindRest kinds entries taken).given.Nodup := by
  induction entries generalizing taken with
  | nil => exact List.nodup_nil
  | cons entry entries ih =>
    obtain ⟨kind, _ | planned⟩ := entry
    · simp only [bindRest]
      split
      · next free hfree =>
        obtain ⟨_, hnot, _⟩ := firstFree_eq_some hfree
        have hrest : (bindRest kinds entries (free :: taken)).given.Nodup :=
          ih hnodup fun b hb => List.mem_cons_of_mem _ (htaken b hb)
        refine List.nodup_cons.mpr ⟨fun hmem => ?_, hrest⟩
        rcases mem_bindRest hmem with hplanned | ⟨hnew, _⟩
        · exact hnot (htaken free hplanned)
        · exact hnew List.mem_cons_self
      · exact ih hnodup htaken
    · obtain ⟨hplanned, hnodup⟩ := List.nodup_cons.mp hnodup
      obtain ⟨htakes, htaken⟩ := List.forall_mem_cons.mp htaken
      refine List.nodup_cons.mpr ⟨fun hmem => ?_, ih hnodup htaken⟩
      rcases mem_bindRest hmem with hagain | ⟨hnew, _⟩
      · exact hplanned hagain
      · exact hnew htakes

/-! ### The binding -/

variable {layout : Layout}

theorem length_bindPlanned (h : layout.order.length = layout.length) (kinds : List MediaKind) :
    (layout.bindPlanned kinds).length = layout.length := by
  rw [bindPlanned, List.length_zipWith, h]
  exact Nat.min_self _

/-- A binding has an entry for every stream of its layout, whatever the backend shows. -/
theorem length_bind (h : layout.order.length = layout.length) (catalog : Catalog) :
    (layout.bind catalog).length = layout.length := by
  rw [Layout.bind, ← (gets_bindRest ..).length_eq, List.length_zip, List.length_map,
    length_bindPlanned h]
  exact Nat.min_self _

/-- What is found as planned, beside the kinds of the streams that found it. -/
theorem given_zip_bindPlanned (layout : Layout) (kinds : List MediaKind) :
    ((layout.descriptors.map (·.kind)).zip (layout.bindPlanned kinds)).filterMap (·.2) =
      (layout.bindPlanned kinds).given := by
  have hlength : (layout.bindPlanned kinds).length ≤ (layout.descriptors.map (·.kind)).length := by
    rw [bindPlanned, List.length_zipWith, List.length_map]
    exact Nat.min_le_right _ _
  have hsnd := congrArg (List.filterMap id) (List.map_snd_zip hlength)
  rwa [List.filterMap_map] at hsnd

/-- A binding gives nothing away twice. -/
theorem nodup_given_bind (h : layout.order.Nodup) (catalog : Catalog) :
    (layout.bind catalog).given.Nodup := by
  have hplanned := given_zip_bindPlanned layout (catalog.map (·.kind))
  refine nodup_bindRest ?_ fun b hb => ?_
  · rw [hplanned]
    exact (given_bindPlanned_sublist ..).nodup h
  · rwa [hplanned] at hb

/-- A binding gives away what the backend has. -/
theorem lt_of_mem_bind {catalog : Catalog} {b : Nat} (h : b ∈ (layout.bind catalog).given) :
    b < catalog.length := by
  have hlength : (catalog.map (·.kind)).length = catalog.length := List.length_map ..
  rw [← hlength]
  rcases mem_bindRest h with hplanned | ⟨_, hlt⟩
  · rw [given_zip_bindPlanned] at hplanned
    exact lt_of_mem_bindPlanned hplanned
  · exact hlt

theorem bind_lt {catalog : Catalog} {index b : Nat}
    (h : (layout.bind catalog).backendIndex? index = some b) : b < catalog.length :=
  lt_of_mem_bind (Binding.mem_given_of_backendIndex h)

theorem bind_injective (h : layout.order.Nodup) {catalog : Catalog} {i j b : Nat}
    (hi : (layout.bind catalog).backendIndex? i = some b)
    (hj : (layout.bind catalog).backendIndex? j = some b) : i = j :=
  Binding.backendIndex_injective (nodup_given_bind h catalog) hi hj

end Layout
end PullStreams
