/-
What a plan shows of a catalog.

A complete order shows every stream of the catalog once, so that counting kinds in the plan
is counting them in the catalog.  From that come the marks of exclusion.  The stream of a
kind that starts active is found among the places of the plan, but by its index in the
catalog: it is the one that goes before all others of its kind (`OrderPolicy.GoesFirst`),
and as no two places have the same index there is only one.  A selection takes several
exclusive streams of a kind exactly when it takes several streams of that kind, since these
are then all exclusive.

* `isBest_foldl` — what is chosen from a list by comparing one entry after the other;
* `chosen_eq_some_iff` — which stream of a kind starts active;
* `exclusiveConflicts_plan` — what a selection conflicts in;
* `plan_presents` — what the built-in plans keep to.
-/
import PullStreams.Layout
import PullStreams.Proofs.Layout.Order

namespace PullStreams

/-! ### Formats as they are shown -/

/-- Which format stands for which: planar I420 video is shown as NV12, all else as it is. -/
inductive MediaFormat.IsShownAs : MediaFormat → MediaFormat → Prop
  | planar (v : VideoFormat) (h : v.pixelFormat = some .i420) :
      IsShownAs (.video v) (.video { v with pixelFormat := some .nv12 })
  | same (format : MediaFormat) (h : ∀ v, format = .video v → v.pixelFormat ≠ some .i420) :
      IsShownAs format format

theorem MediaFormat.isShownAs_advertised (format : MediaFormat) :
    format.IsShownAs format.advertised := by
  cases format with
  | video v =>
    rw [advertised]
    split
    · next h => exact .planar v h
    · next h => exact .same _ fun w hw => by cases hw; exact h
  | audio | subtitle | unknown => exact .same _ fun _ h => by cases h

/-! ### The best of a list -/

/-- What comparing one entry after the other comes to, if an entry replaces what is worse or as
good. -/
theorem isBest_foldl (replaces atLeast : Nat → Nat → Prop) [DecidableRel replaces]
    (hrefl : ∀ a, atLeast a a) (htrans : ∀ {a b c}, atLeast a b → atLeast b c → atLeast a c)
    (hyes : ∀ {a b}, replaces a b → atLeast b a) (hno : ∀ {a b}, ¬replaces a b → atLeast a b)
    (items : List Nat) (first : Nat) :
    ∃ best ∈ first :: items,
      items.foldl (fun best item =>
        match best with
        | some b => if replaces b item then some item else some b
        | none => some item) (some first) = some best ∧
      ∀ item ∈ first :: items, atLeast best item := by
  induction items generalizing first with
  | nil =>
    exact ⟨first, List.mem_singleton.mpr rfl, rfl, List.forall_mem_singleton.mpr (hrefl first)⟩
  | cons item items ih =>
    rw [List.foldl_cons]
    by_cases hreplaces : replaces first item
    · obtain ⟨best, hmem, hbest, hall⟩ := ih item
      refine ⟨best, List.mem_cons_of_mem _ hmem, by rw [← hbest]; simp only [if_pos hreplaces], ?_⟩
      refine List.forall_mem_cons.mpr ⟨?_, hall⟩
      exact htrans (hall item List.mem_cons_self) (hyes hreplaces)
    · obtain ⟨best, hmem, hbest, hall⟩ := ih first
      obtain ⟨hfirst, hrest⟩ := List.forall_mem_cons.mp hall
      refine ⟨best, ?_, by rw [← hbest]; simp only [if_neg hreplaces], ?_⟩
      · rcases List.mem_cons.mp hmem with rfl | hmem
        · exact List.mem_cons_self
        · exact List.mem_cons_of_mem _ (List.mem_cons_of_mem _ hmem)
      · exact List.forall_mem_cons.mpr ⟨hfirst, List.forall_mem_cons.mpr
          ⟨htrans hfirst (hno hreplaces), hrest⟩⟩

theorem lastLargest_spec (key : Nat → Nat) {items : List Nat} (h : items ≠ []) :
    ∃ best ∈ items, lastLargest key items = some best ∧ ∀ item ∈ items, key item ≤ key best := by
  obtain ⟨first, rest, rfl⟩ := List.exists_cons_of_ne_nil h
  exact isBest_foldl (fun a b => key a ≤ key b) (fun a b => key b ≤ key a)
    (fun _ => Nat.le_refl _) (fun hab hbc => Nat.le_trans hbc hab) id Nat.le_of_not_le rest first

theorem firstSmallest_spec (key : Nat → Nat) {items : List Nat} (h : items ≠ []) :
    ∃ best ∈ items, firstSmallest key items = some best ∧ ∀ item ∈ items, key best ≤ key item := by
  obtain ⟨first, rest, rfl⟩ := List.exists_cons_of_ne_nil h
  exact isBest_foldl (fun a b => key b < key a) (fun a b => key a ≤ key b)
    (fun _ => Nat.le_refl _) Nat.le_trans Nat.le_of_lt Nat.le_of_not_lt rest first

/-- Whether a stream of the catalog starts active rather than another one of its kind. -/
def OrderPolicy.GoesFirst (policy : OrderPolicy) (b c : Nat) : Prop :=
  if policy.prefersLast then c ≤ b else b ≤ c

theorem OrderPolicy.GoesFirst.antisymm {policy : OrderPolicy} {b c : Nat}
    (hb : policy.GoesFirst b c) (hc : policy.GoesFirst c b) : b = c := by
  unfold OrderPolicy.GoesFirst at hb hc
  split at hb <;> simp_all <;> omega

namespace Layout

variable {policy : OrderPolicy} {catalog : Catalog} {entry : CatalogEntry} {index b : Nat}
  {kind : MediaKind}

/-! ### The stream of a kind that starts active -/

theorem chosen_spec (policy : OrderPolicy) (order : List Nat) {kinds : List MediaKind}
    (h : kind ∈ kinds) :
    ∃ best : Nat, chosen policy order kinds kind = some best ∧ kinds[best]? = some kind ∧
      ∀ other : Nat, kinds[other]? = some kind →
        policy.GoesFirst (order[best]?.getD 0) (order[other]?.getD 0) := by
  have hmem : ∀ {l}, l ∈ (List.range kinds.length).filter (fun l => kinds[l]? == some kind) ↔
      kinds[l]? = some kind := by
    intro l
    rw [List.mem_filter, List.mem_range, beq_iff_eq, and_iff_right_iff_imp]
    exact fun hl => (List.getElem?_eq_some_iff.mp hl).1
  obtain ⟨first, hfirst⟩ := List.mem_iff_getElem?.mp h
  have hsome : (List.range kinds.length).filter (fun l => kinds[l]? == some kind) ≠ [] :=
    List.ne_nil_of_mem (hmem.mpr hfirst)
  cases hlast : policy.prefersLast with
  | true =>
    obtain ⟨best, hbest, hchosen, hall⟩ :=
      lastLargest_spec (fun l => order[l]?.getD 0) hsome
    refine ⟨best, by rw [chosen, hlast]; exact hchosen, hmem.mp hbest, fun other hother => ?_⟩
    rw [OrderPolicy.GoesFirst, if_pos hlast]
    exact hall other (hmem.mpr hother)
  | false =>
    obtain ⟨best, hbest, hchosen, hall⟩ :=
      firstSmallest_spec (fun l => order[l]?.getD 0) hsome
    refine ⟨best, by rw [chosen, hlast]; exact hchosen, hmem.mp hbest, fun other hother => ?_⟩
    rw [OrderPolicy.GoesFirst, if_neg (by rw [hlast]; exact Bool.false_ne_true)]
    exact hall other (hmem.mpr hother)

/-- It is the one that goes before all others of its kind; no two places stand for one stream. -/
theorem chosen_eq_some_iff {order : List Nat} {kinds : List MediaKind} (hnodup : order.Nodup)
    (hlength : kinds.length = order.length) (horder : order[index]? = some b)
    (hkind : kinds[index]? = some kind) :
    chosen policy order kinds kind = some index ↔
      ∀ other c : Nat, order[other]? = some c → kinds[other]? = some kind → policy.GoesFirst b c := by
  obtain ⟨best, hchosen, hbest, hall⟩ := chosen_spec policy order (List.mem_of_getElem? hkind)
  constructor
  · intro hindex other c hother hsame
    obtain rfl : best = index := Option.some.inj (hchosen.symm.trans hindex)
    simpa [horder, hother] using hall other hsame
  · intro hfirst
    have hlt : best < order.length := hlength ▸ (List.getElem?_eq_some_iff.mp hbest).1
    have hplace := List.getElem?_eq_getElem hlt
    have hbefore := hall index hkind
    rw [hplace, horder] at hbefore
    have hsame := (hfirst best _ hplace hbest).antisymm hbefore
    have heq : index = best :=
      (List.getElem?_inj (List.getElem?_eq_some_iff.mp horder).1 hnodup).mp
        (by rw [horder, hplace, hsame])
    rw [hchosen, heq]

/-! ### The parts of a plan -/

/-- The kinds of the streams in the order in which a plan shows them. -/
def shownKinds (policy : OrderPolicy) (catalog : Catalog) : List MediaKind :=
  ((policy.order (catalog.map (·.kind))).map (entryAt catalog)).map (·.kind)

theorem length_shownKinds (policy : OrderPolicy) (catalog : Catalog) :
    (shownKinds policy catalog).length = (policy.order (catalog.map (·.kind))).length := by
  rw [shownKinds, List.length_map, List.length_map]

/-- A complete order shows as many streams of a kind as there are. -/
theorem shownKinds_perm (h : policy.IsComplete) (catalog : Catalog) :
    (shownKinds policy catalog).Perm (catalog.map (·.kind)) := by
  have hall : (List.range (catalog.map (·.kind)).length).map (fun b => (entryAt catalog b).kind) =
      catalog.map (·.kind) := by
    refine List.ext_getElem (by simp) fun i hi _ => ?_
    simp only [List.length_map, List.length_range] at hi
    simp [entryAt, hi]
  have hperm := (h (catalog.map (·.kind))).map (fun b => (entryAt catalog b).kind)
  rw [hall] at hperm
  rwa [shownKinds, List.map_map]

theorem getElem?_shownKinds (horder : (plan policy catalog).order[index]? = some b)
    (hentry : catalog[b]? = some entry) : (shownKinds policy catalog)[index]? = some entry.kind := by
  have horder' : (policy.order (catalog.map (·.kind)))[index]? = some b := horder
  rw [shownKinds, List.getElem?_map, List.getElem?_map, horder', Option.map_some, Option.map_some,
    entryAt, hentry, Option.getD_some]

/-- What a plan says of a stream. -/
theorem descriptor_plan (horder : (plan policy catalog).order[index]? = some b)
    (hentry : catalog[b]? = some entry) :
    (plan policy catalog).descriptors[index]? = some
      { id := streamIdAt index
        format := entry.formatOrUnknown.advertised
        language := entry.language
        name := entry.name
        mutuallyExclusive := isExclusive (shownKinds policy catalog) entry.kind } := by
  have horder' : (policy.order (catalog.map (·.kind)))[index]? = some b := horder
  rw [plan, List.getElem?_mapIdx, List.getElem?_map, horder', Option.map_some, Option.map_some,
    entryAt, hentry, Option.getD_some, shownKinds]

/-- The kinds of a plan are those of the streams in its order. -/
theorem map_kind_plan (policy : OrderPolicy) (catalog : Catalog) :
    (plan policy catalog).descriptors.map (·.kind) = shownKinds policy catalog := by
  refine List.ext_getElem (by simp [plan, shownKinds]) fun index _ _ => ?_
  simp [plan, shownKinds, StreamDescriptor.kind, CatalogEntry.kind]

theorem kind?_plan (policy : OrderPolicy) (catalog : Catalog) (index : Nat) :
    (plan policy catalog).kind? index = (shownKinds policy catalog)[index]? := by
  rw [kind?, ← List.getElem?_map, map_kind_plan]

theorem kind_plan (horder : (plan policy catalog).order[index]? = some b)
    (hentry : catalog[b]? = some entry) : (plan policy catalog).kind? index = some entry.kind := by
  rw [kind?_plan, getElem?_shownKinds horder hentry]

theorem mutuallyExclusive_plan {d : StreamDescriptor}
    (h : d ∈ (plan policy catalog).descriptors) :
    d.mutuallyExclusive = isExclusive (shownKinds policy catalog) d.kind := by
  obtain ⟨index, hindex, rfl⟩ := List.mem_mapIdx.mp h
  simp [shownKinds, StreamDescriptor.kind, CatalogEntry.kind]

theorem defaultActive_plan (policy : OrderPolicy) (catalog : Catalog) :
    (plan policy catalog).defaultActive =
      (shownKinds policy catalog).mapIdx fun index kind => kind.isElementary &&
        chosen policy (plan policy catalog).order (shownKinds policy catalog) kind == some index :=
  rfl

/-- A stream starts active if it is the chosen one of an audio or video kind. -/
theorem defaultActive_eq_true_iff (hkind : (plan policy catalog).kind? index = some kind) :
    (plan policy catalog).defaultActive[index]? = some true ↔ kind.isElementary = true ∧
      chosen policy (plan policy catalog).order (shownKinds policy catalog) kind = some index := by
  rw [kind?_plan] at hkind
  rw [defaultActive_plan, List.getElem?_mapIdx, hkind, Option.map_some, Option.some.injEq,
    Bool.and_eq_true, beq_iff_eq]

/-! ### What a selection conflicts in -/

/-- How many streams of a kind a selection takes. -/
def countSelected (layout : Layout) (selected : List Bool) (kind : MediaKind) : Nat :=
  ((layout.descriptors.map (·.kind)).zip selected).countP fun (k, on) => on && k == kind

theorem countSelected_eq (layout : Layout) (selected : List Bool) (kind : MediaKind) :
    layout.countSelected selected kind =
      (layout.descriptors.zip selected).countP fun (d, on) => on && d.kind == kind := by
  rw [countSelected, List.zip_map_left, List.countP_map]
  rfl

theorem countSelected_le (layout : Layout) (selected : List Bool) (kind : MediaKind) :
    layout.countSelected selected kind ≤ (layout.descriptors.map (·.kind)).count kind := by
  rw [countSelected]
  generalize layout.descriptors.map (·.kind) = kinds
  induction kinds generalizing selected with
  | nil => rw [List.zip_nil_left]; exact Nat.le_refl _
  | cons k kinds ih =>
    cases selected with
    | nil => rw [List.zip_nil_right]; exact Nat.zero_le _
    | cons on selected =>
      rw [List.zip_cons_cons, List.countP_cons, List.count_cons]
      refine Nat.add_le_add (ih selected) ?_
      cases on with
      | true => exact Nat.le_refl _
      | false => exact Nat.zero_le _

/-- A selection conflicts in the kinds of which it takes several streams; each of them is
exclusive then. -/
theorem exclusiveConflicts_plan (policy : OrderPolicy) (catalog : Catalog) (selected : List Bool) :
    exclusiveConflicts (plan policy catalog).descriptors selected =
      [.audio, .video].filter fun kind => 2 ≤ (plan policy catalog).countSelected selected kind := by
  refine List.filter_congr fun kind hkind => ?_
  have helementary : kind.isElementary = true := by
    rcases List.mem_pair.mp hkind with rfl | rfl <;> rfl
  by_cases hcount : 1 < (shownKinds policy catalog).count kind
  · have hsame : ∀ entry ∈ (plan policy catalog).descriptors.zip selected,
        ((entry.2 && entry.1.mutuallyExclusive && entry.1.kind == kind) = true ↔
          (entry.2 && entry.1.kind == kind) = true) := by
      rintro ⟨d, on⟩ hmem
      rw [mutuallyExclusive_plan (List.of_mem_zip hmem).1]
      by_cases hd : d.kind = kind
      · simp [hd, isExclusive, helementary, hcount]
      · simp [hd]
    rw [countSelected_eq, List.countP_congr hsame]
    rfl
  · have hle := (plan policy catalog).countSelected_le selected kind
    rw [map_kind_plan] at hle
    have hfewer : (((plan policy catalog).descriptors.zip selected).countP fun (d, on) =>
        on && d.mutuallyExclusive && d.kind == kind) ≤
          (plan policy catalog).countSelected selected kind := by
      rw [countSelected_eq]
      refine List.countP_mono_left fun (d, on) _ h => ?_
      simp only [Bool.and_eq_true] at h ⊢
      exact ⟨h.1.1, h.2⟩
    rw [decide_eq_false (fun hexclusive => hcount (Nat.lt_of_lt_of_le hexclusive
        (Nat.le_trans hfewer hle))), decide_eq_false (fun htwo => hcount (Nat.le_trans htwo hle))]

/-- What holds of one place of a list at most is counted once at most. -/
theorem countP_le_one {α : Type} {p : α → Bool} {l : List α}
    (h : ∀ (i j : Nat) (a b : α), l[i]? = some a → l[j]? = some b → p a → p b → i = j) :
    l.countP p ≤ 1 := by
  induction l with
  | nil => exact Nat.zero_le _
  | cons a l ih =>
    have htail : l.countP p ≤ 1 := ih fun i j a b hi hj ha hb =>
      Nat.succ.inj (h (i + 1) (j + 1) a b hi hj ha hb)
    rw [List.countP_cons]
    split
    · next ha =>
      have hnone : l.countP p = 0 := by
        refine List.countP_eq_zero.mpr fun b hb hpb => ?_
        obtain ⟨j, hj⟩ := List.mem_iff_getElem?.mp hb
        exact absurd (h 0 (j + 1) a b rfl hj ha hpb) (Nat.zero_ne_add_one j)
      exact Nat.le_of_eq (by rw [hnone])
    · exact htail

/-- What starts active conflicts in nothing. -/
theorem countSelected_defaultActive_le (policy : OrderPolicy) (catalog : Catalog)
    (kind : MediaKind) :
    (plan policy catalog).countSelected (plan policy catalog).defaultActive kind ≤ 1 := by
  refine countP_le_one fun i j (k, on) (k', on') hi hj hk hk' => ?_
  have hchosen : ∀ {index : Nat} {k : MediaKind} {on : Bool},
      (((plan policy catalog).descriptors.map (·.kind)).zip
        (plan policy catalog).defaultActive)[index]? = some (k, on) → (on && k == kind) = true →
      chosen policy (plan policy catalog).order (shownKinds policy catalog) kind = some index := by
    intro index k on hindex hk
    obtain ⟨hkind, hactive⟩ := List.getElem?_zip_eq_some.mp hindex
    obtain ⟨rfl, hk⟩ := Bool.and_eq_true_iff.mp hk
    rw [List.getElem?_map, ← kind?, beq_iff_eq.mp hk] at hkind
    exact ((defaultActive_eq_true_iff hkind).mp hactive).2
  exact Option.some.inj ((hchosen hi hk).symm.trans (hchosen hj hk'))

theorem exclusiveConflicts_defaultActive (policy : OrderPolicy) (catalog : Catalog) :
    exclusiveConflicts (plan policy catalog).descriptors (plan policy catalog).defaultActive = [] := by
  rw [exclusiveConflicts_plan]
  refine List.filter_eq_nil_iff.mpr fun kind _ htwo => ?_
  have hone := countSelected_defaultActive_le policy catalog kind
  exact absurd (of_decide_eq_true htwo) (by omega)

/-! ### The plans of the built-in policies -/

/-- What the plan of a catalog keeps to if of two streams of a kind the one that goes first is
the one to start active. -/
structure Presents (policy : OrderPolicy) (catalog : Catalog) (goesFirst : Nat → Nat → Prop) :
    Prop where
  /-- Every stream of the catalog has one place, and all three parts of the plan know of it. -/
  order : (plan policy catalog).order.Perm (List.range catalog.length)
  lengths : (plan policy catalog).descriptors.length = catalog.length ∧
    (plan policy catalog).defaultActive.length = catalog.length
  /-- A place is numbered from one and shows what the catalog tells of its stream.  It excludes
  others if it is audio or video and not the only one of its kind. -/
  described : ∀ (index b : Nat) (entry : CatalogEntry),
    (plan policy catalog).order[index]? = some b → catalog[b]? = some entry →
      ∃ d, (plan policy catalog).descriptors[index]? = some d ∧ d.id.toNat = index + 1 ∧
        d.language = entry.language ∧ d.name = entry.name ∧
        entry.formatOrUnknown.IsShownAs d.format ∧ d.kind = entry.kind ∧
        (d.mutuallyExclusive = true ↔ (entry.kind = .audio ∨ entry.kind = .video) ∧
          2 ≤ (catalog.map (·.kind)).count entry.kind)
  /-- It starts active if it is audio or video and goes before all others of its kind. -/
  active : ∀ (index b : Nat) (entry : CatalogEntry),
    (plan policy catalog).order[index]? = some b → catalog[b]? = some entry →
      ((plan policy catalog).defaultActive[index]? = some true ↔
        (entry.kind = .audio ∨ entry.kind = .video) ∧
        ∀ (c : Nat) (other : CatalogEntry), catalog[c]? = some other → other.kind = entry.kind →
          goesFirst b c)
  /-- So of audio and of video, where there is any, exactly one stream does. -/
  one : ∀ kind ∈ catalog.map (·.kind), kind = .audio ∨ kind = .video →
    ∃! index, (plan policy catalog).kind? index = some kind ∧
      (plan policy catalog).defaultActive[index]? = some true
  calm : exclusiveConflicts (plan policy catalog).descriptors
    (plan policy catalog).defaultActive = []
  /-- A selection conflicts in the kinds of which it takes at least two streams. -/
  conflicts : ∀ selected, exclusiveConflicts (plan policy catalog).descriptors selected =
    [.audio, .video].filter fun kind => 2 ≤ (plan policy catalog).countSelected selected kind

theorem isElementary_iff {kind : MediaKind} :
    kind.isElementary = true ↔ kind = .audio ∨ kind = .video := by
  cases kind <;> decide

theorem perm_order_plan (h : policy.IsComplete) (catalog : Catalog) :
    (plan policy catalog).order.Perm (List.range catalog.length) := by
  have hperm := h (catalog.map (·.kind))
  rwa [List.length_map] at hperm

theorem length_order_plan (h : policy.IsComplete) (catalog : Catalog) :
    (plan policy catalog).order.length = catalog.length := by
  have hlength := h.length_order (catalog.map (·.kind))
  rwa [List.length_map] at hlength

/-- Every stream of the catalog has its place. -/
theorem exists_place (h : policy.IsComplete) (hentry : catalog[b]? = some entry) :
    ∃ index : Nat, (plan policy catalog).order[index]? = some b :=
  List.mem_iff_getElem?.mp ((perm_order_plan h catalog).mem_iff.mpr
    (List.mem_range.mpr (List.getElem?_eq_some_iff.mp hentry).1))

/-- And no place is without its stream. -/
theorem exists_entry (h : policy.IsComplete) (horder : (plan policy catalog).order[index]? = some b) :
    ∃ entry, catalog[b]? = some entry :=
  ⟨_, List.getElem?_eq_getElem (List.mem_range.mp
    ((perm_order_plan h catalog).mem_iff.mp (List.mem_of_getElem? horder)))⟩

theorem isActive_iff (h : policy.IsComplete) (horder : (plan policy catalog).order[index]? = some b)
    (hentry : catalog[b]? = some entry) :
    (plan policy catalog).defaultActive[index]? = some true ↔
      (entry.kind = .audio ∨ entry.kind = .video) ∧
      ∀ (c : Nat) (other : CatalogEntry), catalog[c]? = some other → other.kind = entry.kind →
        policy.GoesFirst b c := by
  have hkind := getElem?_shownKinds horder hentry
  have hnodup : (plan policy catalog).order.Nodup := h.nodup _
  rw [defaultActive_eq_true_iff (kind_plan horder hentry), isElementary_iff,
    chosen_eq_some_iff hnodup (length_shownKinds policy catalog) horder hkind]
  refine and_congr_right fun _ => ⟨fun hfirst c other hother hsame => ?_,
    fun hfirst place c hplace hsame => ?_⟩
  · obtain ⟨place, hplace⟩ := exists_place h hother
    exact hfirst place c hplace (by rw [getElem?_shownKinds hplace hother, hsame])
  · obtain ⟨other, hother⟩ := exists_entry h hplace
    rw [getElem?_shownKinds hplace hother] at hsame
    exact hfirst c other hother (Option.some.inj hsame)

theorem presents_of_isComplete (h : policy.IsComplete) (hlength : catalog.length < 4294967295) :
    Presents policy catalog policy.GoesFirst where
  order := perm_order_plan h catalog
  lengths := by
    rw [length_descriptors_plan, length_defaultActive_plan, length_order_plan h]
    exact ⟨rfl, rfl⟩
  described index b entry horder hentry := by
    refine ⟨_, descriptor_plan horder hentry, ?_, rfl, rfl, MediaFormat.isShownAs_advertised _,
      MediaFormat.kind_advertised _, ?_⟩
    · have hindex := (List.getElem?_eq_some_iff.mp horder).1
      rw [length_order_plan h] at hindex
      rw [streamIdAt, UInt32.toNat_add, UInt32.toNat_ofNat', UInt32.toNat_one]
      omega
    · rw [isExclusive, Bool.and_eq_true, decide_eq_true_iff, isElementary_iff,
        (shownKinds_perm h catalog).count_eq]
      exact Iff.rfl
  active _ _ _ horder hentry := isActive_iff h horder hentry
  one kind hmem hkind := by
    obtain ⟨best, hchosen, hbest, _⟩ := chosen_spec policy (plan policy catalog).order
      ((shownKinds_perm h catalog).mem_iff.mpr hmem)
    rw [← kind?_plan] at hbest
    refine ⟨best, ⟨hbest, ?_⟩, fun index ⟨hindex, hactive⟩ => ?_⟩
    · exact (defaultActive_eq_true_iff hbest).mpr ⟨isElementary_iff.mpr hkind, hchosen⟩
    · have hsame := ((defaultActive_eq_true_iff hindex).mp hactive).2
      exact Option.some.inj (hsame.symm.trans hchosen)
  calm := exclusiveConflicts_defaultActive policy catalog
  conflicts := exclusiveConflicts_plan policy catalog

/-- Whatever is in the catalog, the natural plan starts the lowest stream of a kind and the
grouped one the highest; for the rest they keep to the same. -/
theorem plan_presents (h : catalog.length < 4294967295) :
    Presents .natural catalog (· ≤ ·) ∧ Presents .reverseGrouped catalog (· ≥ ·) :=
  ⟨presents_of_isComplete OrderPolicy.isComplete_natural h,
    presents_of_isComplete OrderPolicy.isComplete_reverseGrouped h⟩

end Layout

namespace Sketch

/-- Two sound tracks, a planar picture, a caption and a stream nobody knows. -/
def mixed : Catalog :=
  [⟨some (.video ⟨"h264", some .i420, 320, 240⟩), none, some "main"⟩,
    ⟨some (.audio ⟨"aac", some 48000, some 2, none⟩), some "en", none⟩,
    ⟨none, none, none⟩,
    ⟨some (.subtitle "srt"), some "de", none⟩,
    ⟨some (.audio ⟨"ac3", none, some 6, none⟩), some "de", none⟩]

theorem plan_presents_mixed :
    mixed.length < 4294967295 ∧
      (Layout.Presents .natural mixed (· ≤ ·) ∧ Layout.Presents .reverseGrouped mixed (· ≥ ·)) ∧
      (Layout.plan .reverseGrouped mixed).order = [4, 1, 0, 3, 2] ∧
      (Layout.plan .reverseGrouped mixed).defaultActive = [true, false, true, false, false] ∧
      exclusiveConflicts (Layout.plan .natural mixed).descriptors [true, true, true, true, true] =
        [.audio] :=
  ⟨by decide, Layout.plan_presents (by decide), by decide, by decide, by decide⟩

end Sketch
end PullStreams
