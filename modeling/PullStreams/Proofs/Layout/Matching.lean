/-
Bindings that give away as much as they can.

A layout planned over one catalog is bound to the streams of another.  Whatever the two have
in common, every stream gets a stream of its own kind and none is given twice; a stream that
finds its planned index with its kind gets that one; and a stream goes without only if all
streams of its kind are given away, so that of every kind as many are bound as there can be.

* `Layout.gets_bind` — what every stream gets;
* `Layout.mem_given_of_unbound` — nothing is left over for a stream that goes without;
* `Layout.length_givenTo` — so as many of a kind are bound as there can be;
* `Layout.bind_matches` — what a binding keeps to, for every layout that was planned.
-/
import Mathlib.Data.List.Perm.Subperm
import PullStreams.Proofs.Layout.Binding
import PullStreams.Proofs.Layout.Planning

namespace PullStreams

namespace Binding

theorem codes_eq_succ_iff {binding : Binding} {index b : Nat} :
    binding.codes[index]? = some (b + 1) ↔ binding.backendIndex? index = some b := by
  rw [codes, List.getElem?_map, backendIndex?]
  rcases binding[index]? with _ | _ | b' <;> simp

end Binding

namespace OrderPolicy

/-- The order names streams that there are, none of them twice. -/
structure IsWithin (policy : OrderPolicy) (kinds : List MediaKind) : Prop where
  nodup : (policy.order kinds).Nodup
  lt : ∀ index ∈ policy.order kinds, index < kinds.length

/-- So does every order that names each stream once, as the built-in ones do. -/
theorem IsComplete.isWithin {policy : OrderPolicy} (h : policy.IsComplete) (kinds : List MediaKind) :
    policy.IsWithin kinds :=
  ⟨h.nodup kinds, fun _ hmem => h.mem_order.mp hmem⟩

end OrderPolicy

namespace Layout

variable {layout : Layout} {catalog : Catalog} {index b : Nat} {kind : MediaKind}

/-! ### What every stream gets -/

/-- What is found as planned is given away. -/
theorem mem_given_of_gets {kinds : List MediaKind} {gone : Nat → Prop}
    {entries : List (MediaKind × Option Nat)} {binding : Binding}
    (h : List.Forall₂ (Gets kinds gone) entries binding) (hb : b ∈ entries.filterMap (·.2)) :
    b ∈ binding.given := by
  induction h with
  | nil => cases hb
  | cons hgets _ ih =>
    cases hgets with
    | planned kind planned =>
      rcases List.mem_cons.mp hb with rfl | hb
      · exact List.mem_cons_self
      · exact List.mem_cons_of_mem _ (ih hb)
    | free _ => exact List.mem_cons_of_mem _ (ih hb)
    | nothing _ => exact ih hb

theorem gets_bind (layout : Layout) (catalog : Catalog) :
    List.Forall₂ (Gets (catalog.map (·.kind)) (· ∈ (layout.bind catalog).given))
      ((layout.descriptors.map (·.kind)).zip (layout.bindPlanned (catalog.map (·.kind))))
      (layout.bind catalog) := by
  have hgets := gets_bindRest (catalog.map (·.kind))
    ((layout.descriptors.map (·.kind)).zip (layout.bindPlanned (catalog.map (·.kind))))
    ((layout.bindPlanned (catalog.map (·.kind))).filterMap id)
  refine hgets.imp fun entry got hentry => hentry.imp fun b hb => ?_
  rcases hb with hplanned | hgiven
  · exact mem_given_of_gets hgets (given_zip_bindPlanned layout _ ▸ hplanned)
  · exact hgiven

/-- The same of one stream, by its place. -/
theorem gets_at (catalog : Catalog) (hlength : layout.order.length = layout.length)
    (hkind : layout.kind? index = some kind) :
    ∃ planned got, layout.order[index]? = some planned ∧
      (layout.bind catalog)[index]? = some got ∧
      Gets (catalog.map (·.kind)) (· ∈ (layout.bind catalog).given)
        (kind, if (catalog.map (·.kind))[planned]? = some kind then some planned else none) got := by
  obtain ⟨d, hd, rfl⟩ := Option.map_eq_some_iff.mp hkind
  obtain ⟨hlt, hd⟩ := List.getElem?_eq_some_iff.mp hd
  have horder : index < layout.order.length := by rw [hlength]; exact hlt
  obtain ⟨hsame, hall⟩ := List.forall₂_iff_get.mp (layout.gets_bind catalog)
  have hzip : index < ((layout.descriptors.map (·.kind)).zip
      (layout.bindPlanned (catalog.map (·.kind)))).length := by
    rw [List.length_zip, List.length_map, length_bindPlanned hlength]
    exact Nat.lt_min.mpr ⟨hlt, hlt⟩
  have hgets := hall index hzip (hsame ▸ hzip)
  simp only [List.get_eq_getElem, List.getElem_zip, List.getElem_map, bindPlanned,
    List.getElem_zipWith, hd] at hgets
  exact ⟨_, _, List.getElem?_eq_getElem horder, List.getElem?_eq_getElem (hsame ▸ hzip), hgets⟩

/-- What is bound is a stream of the layout, of some kind. -/
theorem exists_kind_of_bound (hlength : layout.order.length = layout.length)
    (hb : (layout.bind catalog).backendIndex? index = some b) :
    ∃ kind, layout.kind? index = some kind := by
  obtain ⟨hlt, _⟩ := List.getElem?_eq_some_iff.mp (Option.join_eq_some_iff.mp hb)
  rw [length_bind hlength] at hlt
  rw [kind?, List.getElem?_eq_getElem hlt]
  exact ⟨_, rfl⟩

/-- A stream gets one of its kind. -/
theorem kind_of_bound (hlength : layout.order.length = layout.length)
    (hkind : layout.kind? index = some kind)
    (hb : (layout.bind catalog).backendIndex? index = some b) :
    (catalog.map (·.kind))[b]? = some kind := by
  obtain ⟨planned, got, _, hgot, hgets⟩ := gets_at catalog hlength hkind
  obtain rfl : got = some b := by simpa [Binding.backendIndex?, hgot] using hb
  split at hgets
  · next hplanned =>
    cases hgets
    exact hplanned
  · cases hgets with
    | free hkind => exact hkind

/-- A stream that finds its planned index with its kind gets that one. -/
theorem bound_as_planned (hlength : layout.order.length = layout.length)
    (hkind : layout.kind? index = some kind) (hplanned : layout.order[index]? = some b)
    (hb : (catalog.map (·.kind))[b]? = some kind) :
    (layout.bind catalog).backendIndex? index = some b := by
  obtain ⟨planned, got, horder, hgot, hgets⟩ := gets_at catalog hlength hkind
  obtain rfl : planned = b := Option.some.inj (horder.symm.trans hplanned)
  rw [if_pos hb] at hgets
  cases hgets
  simp [Binding.backendIndex?, hgot]

/-- Nothing is left over for a stream that goes without. -/
theorem mem_given_of_unbound (hlength : layout.order.length = layout.length)
    (hkind : layout.kind? index = some kind) (hnone : (layout.bind catalog).backendIndex? index = none)
    (hb : (catalog.map (·.kind))[b]? = some kind) : b ∈ (layout.bind catalog).given := by
  obtain ⟨planned, got, _, hgot, hgets⟩ := gets_at catalog hlength hkind
  obtain rfl : got = none := by simpa [Binding.backendIndex?, hgot] using hnone
  generalize (if (catalog.map (·.kind))[planned]? = some kind then some planned else none) = plan
    at hgets
  cases hgets with
  | nothing hgone => exact hgone b hb

/-! ### How many are bound -/

/-- The places of a list at which one value stands are as many as that value occurs. -/
theorem length_filter_range (kinds : List MediaKind) (kind : MediaKind) :
    ((List.range kinds.length).filter fun i => kinds[i]? == some kind).length = kinds.count kind := by
  have hkinds : (List.range kinds.length).map (kinds[·]?) = kinds.map some := by
    refine List.ext_getElem (by simp) fun i h _ => ?_
    simp only [List.length_map, List.length_range] at h
    simp [h]
  rw [← List.countP_eq_length_filter, ← Function.comp_def (· == some kind) (kinds[·]?),
    ← List.countP_map, hkinds, List.countP_map, List.count]
  exact List.countP_congr fun k _ => by simp

/-- The streams of the backend that the streams of one kind get. -/
def givenTo (layout : Layout) (binding : Binding) (kind : MediaKind) : List Nat :=
  (((layout.descriptors.map (·.kind)).zip binding).filter (·.1 == kind)).filterMap (·.2)

theorem mem_givenTo {binding : Binding} :
    b ∈ layout.givenTo binding kind ↔
      ∃ index, layout.kind? index = some kind ∧ binding.backendIndex? index = some b := by
  simp only [givenTo, List.mem_filterMap, List.mem_filter, beq_iff_eq, Prod.exists, kind?,
    Binding.backendIndex?, Option.join_eq_some_iff]
  constructor
  · rintro ⟨_, _, ⟨hmem, rfl⟩, rfl⟩
    obtain ⟨index, hindex⟩ := List.mem_iff_getElem?.mp hmem
    obtain ⟨hkind, hgot⟩ := List.getElem?_zip_eq_some.mp hindex
    exact ⟨index, by rwa [List.getElem?_map] at hkind, hgot⟩
  · rintro ⟨index, hkind, hgot⟩
    refine ⟨kind, some b, ⟨?_, rfl⟩, rfl⟩
    refine List.mem_of_getElem? (i := index) (List.getElem?_zip_eq_some.mpr ⟨?_, hgot⟩)
    rwa [List.getElem?_map]

theorem givenTo_sublist {binding : Binding} (hlength : binding.length = layout.length) :
    (layout.givenTo binding kind).Sublist binding.given := by
  have hsnd : ((layout.descriptors.map (·.kind)).zip binding).map (·.2) = binding :=
    List.map_snd_zip (by rw [List.length_map, hlength]; exact Nat.le_refl _)
  have hall : ((layout.descriptors.map (·.kind)).zip binding).filterMap (·.2) = binding.given := by
    conv_rhs => rw [Binding.given, ← hsnd, List.filterMap_map]
    rfl
  rw [← hall]
  exact List.filter_sublist.filterMap _

/-- How many streams of a kind have a code that is not zero. -/
def countBound (layout : Layout) (codes : List Nat) (kind : MediaKind) : Nat :=
  layout.countSelected (codes.map (· != 0)) kind

theorem countBound_codes (layout : Layout) (binding : Binding) (kind : MediaKind) :
    layout.countBound binding.codes kind =
      ((layout.descriptors.map (·.kind)).zip binding).countP fun (k, got) =>
        k == kind && got.isSome := by
  rw [countBound, countSelected, Binding.codes, List.map_map, List.zip_map_right, List.countP_map]
  refine List.countP_congr fun entry _ => ?_
  rcases entry with ⟨k, _ | b⟩ <;> simp

theorem length_givenTo (layout : Layout) (binding : Binding) (kind : MediaKind) :
    (layout.givenTo binding kind).length = layout.countBound binding.codes kind := by
  rw [countBound_codes, givenTo, List.length_filterMap_eq_countP, List.countP_filter]
  exact List.countP_congr fun (k, got) _ => by simp [and_comm]

/-- As many streams of a kind as there are, of which some may be bound. -/
theorem count_kind_zip {binding : Binding} (hlength : binding.length = layout.length)
    (kind : MediaKind) :
    ((layout.descriptors.map (·.kind)).zip binding).countP (·.1 == kind) =
      (layout.descriptors.map (·.kind)).count kind := by
  have hfst : ((layout.descriptors.map (·.kind)).zip binding).map (·.1) =
      layout.descriptors.map (·.kind) :=
    List.map_fst_zip (by rw [List.length_map, hlength]; exact Nat.le_refl _)
  conv_rhs => rw [← hfst, List.count, List.countP_map]
  rfl

theorem exists_of_mem_given {binding : Binding} (h : b ∈ binding.given) :
    ∃ index, binding.backendIndex? index = some b := by
  obtain ⟨got, hmem, hgot⟩ := List.mem_filterMap.mp h
  obtain ⟨index, hindex⟩ := List.mem_iff_getElem?.mp hmem
  exact ⟨index, by rw [Binding.backendIndex?, hindex, Option.join_some]; exact hgot⟩

/-- If a stream of a kind goes without, the backend's streams of that kind are all given to others
of that kind. -/
theorem mem_givenTo_of_unbound (hlength : layout.order.length = layout.length)
    (hkind : layout.kind? index = some kind) (hnone : (layout.bind catalog).backendIndex? index = none)
    (hb : (catalog.map (·.kind))[b]? = some kind) : b ∈ layout.givenTo (layout.bind catalog) kind := by
  obtain ⟨other, hother⟩ := exists_of_mem_given (mem_given_of_unbound hlength hkind hnone hb)
  obtain ⟨_, hsome⟩ := exists_kind_of_bound hlength hother
  have hsame := kind_of_bound hlength hsome hother
  obtain rfl := Option.some.inj (hb.symm.trans hsame)
  exact mem_givenTo.mpr ⟨other, hsome, hother⟩

/-- Of every kind as many streams are bound as there can be. -/
theorem countBound_bind (hlength : layout.order.length = layout.length)
    (hnodup : layout.order.Nodup) (catalog : Catalog) (kind : MediaKind) :
    layout.countBound (layout.bind catalog).codes kind =
      min ((layout.descriptors.map (·.kind)).count kind) ((catalog.map (·.kind)).count kind) := by
  have hbinding := length_bind hlength catalog
  have hplanned : layout.countBound (layout.bind catalog).codes kind ≤
      (layout.descriptors.map (·.kind)).count kind := layout.countSelected_le _ kind
  -- What is given to the kind is of that kind, and nothing is given twice.
  have hgiven : (layout.givenTo (layout.bind catalog) kind).Nodup :=
    (nodup_given_bind hnodup catalog).sublist (givenTo_sublist hbinding)
  have hothers : layout.givenTo (layout.bind catalog) kind ⊆
      (List.range (catalog.map (·.kind)).length).filter
        fun i => (catalog.map (·.kind))[i]? == some kind := by
    intro b hb
    obtain ⟨index, hkind, hgot⟩ := mem_givenTo.mp hb
    have hsame := kind_of_bound hlength hkind hgot
    exact List.mem_filter.mpr
      ⟨List.mem_range.mpr (List.getElem?_eq_some_iff.mp hsame).1, beq_iff_eq.mpr hsame⟩
  have hbackend := (List.subperm_of_subset hgiven hothers).length_le
  rw [length_givenTo, length_filter_range] at hbackend
  refine Nat.le_antisymm (Nat.le_min.mpr ⟨hplanned, hbackend⟩) ?_
  by_cases hunbound : ∃ index, layout.kind? index = some kind ∧
      (layout.bind catalog).backendIndex? index = none
  · obtain ⟨index, hkind, hnone⟩ := hunbound
    refine Nat.le_trans (Nat.min_le_right _ _) ?_
    rw [← length_givenTo, ← length_filter_range]
    refine (List.subperm_of_subset (List.nodup_range.filter _) fun b hb => ?_).length_le
    exact mem_givenTo_of_unbound hlength hkind hnone (beq_iff_eq.mp (List.mem_filter.mp hb).2)
  · refine Nat.le_trans (Nat.min_le_left _ _) ?_
    rw [countBound_codes, ← count_kind_zip hbinding]
    refine List.countP_mono_left fun (k, got) hmem hk => ?_
    obtain ⟨index, hindex⟩ := List.mem_iff_getElem?.mp hmem
    obtain ⟨hkind, hgot⟩ := List.getElem?_zip_eq_some.mp hindex
    rw [List.getElem?_map, beq_iff_eq.mp hk] at hkind
    cases got with
    | none => exact absurd ⟨index, hkind, by rw [Binding.backendIndex?, hgot]; rfl⟩ hunbound
    | some b => exact Bool.and_eq_true_iff.mpr ⟨hk, rfl⟩

/-! ### The binding of a plan -/

/-- What `codes` keep to as a binding of a layout to the streams of a backend. -/
structure Matches (layout : Layout) (backend : Catalog) (codes : List Nat) : Prop where
  length : codes.length = layout.length
  /-- A stream gets one that the backend has, of its own kind. -/
  kind : ∀ index b : Nat, codes[index]? = some (b + 1) →
    ∃ entry, backend[b]? = some entry ∧ layout.kind? index = some entry.kind
  /-- No two streams get the same one. -/
  apart : ∀ i j b : Nat, codes[i]? = some (b + 1) → codes[j]? = some (b + 1) → i = j
  /-- A stream whose planned index exists with its kind gets that one. -/
  planned : ∀ (index b : Nat) (entry : CatalogEntry), layout.order[index]? = some b →
    backend[b]? = some entry → layout.kind? index = some entry.kind →
    codes[index]? = some (b + 1)
  /-- Of every kind as many are bound as there are of it on both sides. -/
  maximal : ∀ kind, layout.countBound codes kind =
    min ((layout.descriptors.map (·.kind)).count kind) ((backend.map (·.kind)).count kind)

theorem matches_bind (hlength : layout.order.length = layout.length) (hnodup : layout.order.Nodup)
    (backend : Catalog) : layout.Matches backend (layout.bind backend).codes where
  length := by rw [Binding.codes, List.length_map, length_bind hlength]
  kind index b hcode := by
    have hb := Binding.codes_eq_succ_iff.mp hcode
    obtain ⟨_, hsome⟩ := exists_kind_of_bound hlength hb
    have hkind := kind_of_bound hlength hsome hb
    rw [List.getElem?_map] at hkind
    obtain ⟨entry, hentry, hsame⟩ := Option.map_eq_some_iff.mp hkind
    exact ⟨entry, hentry, by rw [hsome, hsame]⟩
  apart i j b hi hj :=
    bind_injective hnodup (Binding.codes_eq_succ_iff.mp hi) (Binding.codes_eq_succ_iff.mp hj)
  planned index b entry horder hentry hkind := by
    refine Binding.codes_eq_succ_iff.mpr (bound_as_planned hlength hkind horder ?_)
    rw [List.getElem?_map, hentry]
    rfl
  maximal := countBound_bind hlength hnodup backend

/-- Bound to the catalog that it was planned over, every stream gets its planned index. -/
theorem codes_bind_plan {policy : OrderPolicy} {probed : Catalog}
    (h : policy.IsWithin (probed.map (·.kind))) :
    ((plan policy probed).bind probed).codes = (plan policy probed).order.map (· + 1) := by
  have hlength := (length_descriptors_plan policy probed).symm
  refine List.ext_getElem? fun index => ?_
  rw [List.getElem?_map]
  cases horder : (plan policy probed).order[index]? with
  | none =>
    rw [Option.map_none, List.getElem?_eq_none_iff, Binding.codes, List.length_map,
      length_bind hlength]
    exact Nat.le_trans (Nat.le_of_eq hlength.symm) (List.getElem?_eq_none_iff.mp horder)
  | some b =>
    have hlt : b < probed.length := by
      simpa using h.lt b (List.mem_of_getElem? horder)
    have hentry := List.getElem?_eq_getElem hlt
    exact (matches_bind hlength h.nodup probed).planned index b _ horder hentry
      (kind_plan horder hentry)

/-- Whatever was probed and whatever is connected, a plan whose order names streams of the catalog,
none twice, is bound to as many streams as there can be, each of its kind and given once. -/
theorem bind_matches {policy : OrderPolicy} {probed : Catalog}
    (h : policy.IsWithin (probed.map (·.kind))) (backend : Catalog) :
    (plan policy probed).Matches backend ((plan policy probed).bind backend).codes ∧
      ((plan policy probed).bind probed).codes = (plan policy probed).order.map (· + 1) :=
  ⟨matches_bind (length_descriptors_plan policy probed).symm h.nodup backend, codes_bind_plan h⟩

end Layout

namespace Sketch

/-- What is connected where `mixed` was probed: one sound track less, one caption more, and nothing
known of the last stream. -/
def remixed : Catalog :=
  [⟨some (.audio ⟨"aac", some 48000, some 2, none⟩), some "en", none⟩,
    ⟨some (.subtitle "srt"), some "de", none⟩,
    ⟨some (.video ⟨"h264", some .i420, 320, 240⟩), none, some "main"⟩,
    ⟨some (.subtitle "ssa"), some "fr", none⟩,
    ⟨none, none, none⟩]

theorem bind_matches_remixed :
    OrderPolicy.reverseGrouped.IsWithin (mixed.map (·.kind)) ∧
      (Layout.plan .reverseGrouped mixed).Matches remixed
        ((Layout.plan .reverseGrouped mixed).bind remixed).codes ∧
      ((Layout.plan .reverseGrouped mixed).bind mixed).codes =
        (Layout.plan .reverseGrouped mixed).order.map (· + 1) ∧
      ((Layout.plan .reverseGrouped mixed).bind remixed).codes = [1, 0, 3, 4, 5] :=
  have h := OrderPolicy.isComplete_reverseGrouped.isWithin (mixed.map (·.kind))
  have hmatches := Layout.bind_matches h remixed
  ⟨h, hmatches.1, hmatches.2, by decide⟩

end Sketch
end PullStreams
