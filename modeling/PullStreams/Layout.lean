/-
Layouts: how the streams that a probe found are shown to consumers.

`Layout.plan` orders the streams by a policy and gives each its description and its
first activity.  An audio or video stream whose kind occurs more than once is
mutually exclusive with the others of its kind; one stream of each of the two kinds
starts active, the one whose backend index is lowest or highest, as the policy
prefers.

`exclusiveConflicts` names the kinds of which a selection takes more than one
exclusive stream.
-/
import PullStreams.Catalog
import PullStreams.Layout.Order
import PullStreams.Media.Presentation

namespace PullStreams

/-- Per stream, in the order of consumption: the backend index that the plan has for it, its
description, and whether it starts active. -/
structure Layout where
  order : List Nat
  descriptors : List StreamDescriptor
  defaultActive : List Bool
  deriving Repr

/-- The entry with the largest key, the last of them. -/
def lastLargest (key : Nat → Nat) (items : List Nat) : Option Nat :=
  items.foldl (fun best item =>
    match best with
    | some b => if key b ≤ key item then some item else some b
    | none => some item) none

/-- The entry with the smallest key, the first of them. -/
def firstSmallest (key : Nat → Nat) (items : List Nat) : Option Nat :=
  items.foldl (fun best item =>
    match best with
    | some b => if key item < key b then some item else some b
    | none => some item) none

namespace Layout

def length (layout : Layout) : Nat := layout.descriptors.length

def isEmpty (layout : Layout) : Bool := layout.descriptors.isEmpty

/-- The kind of the stream at an index. -/
def kind? (layout : Layout) (index : Nat) : Option MediaKind :=
  layout.descriptors[index]?.map (·.kind)

/-- Whether at least two of `kinds` are `kind`, and `kind` is one that excludes. -/
def isExclusive (kinds : List MediaKind) (kind : MediaKind) : Bool :=
  kind.isElementary && decide (1 < kinds.count kind)

/-- The stream of the catalog that an ordered index stands for. -/
def entryAt (catalog : Catalog) (backend : Nat) : CatalogEntry :=
  catalog[backend]?.getD ⟨none, none, none⟩

/-- Which of the streams of one kind starts active. -/
def chosen (policy : OrderPolicy) (order : List Nat) (kinds : List MediaKind)
    (kind : MediaKind) : Option Nat :=
  let candidates := (List.range kinds.length).filter fun l => kinds[l]? == some kind
  let key l := order[l]?.getD 0
  if policy.prefersLast then lastLargest key candidates else firstSmallest key candidates

/-- Orders the streams of a catalog and describes them. -/
def plan (policy : OrderPolicy) (catalog : Catalog) : Layout :=
  let order := policy.order (catalog.map (·.kind))
  let entries := order.map (entryAt catalog)
  let kinds := entries.map (·.kind)
  { order
    descriptors := entries.mapIdx fun logical entry =>
      { id := streamIdAt logical
        format := entry.formatOrUnknown.advertised
        language := entry.language
        name := entry.name
        mutuallyExclusive := isExclusive kinds entry.kind }
    defaultActive := kinds.mapIdx fun logical kind =>
      kind.isElementary && chosen policy order kinds kind == some logical }

@[simp] theorem length_descriptors_plan (policy : OrderPolicy) (catalog : Catalog) :
    (plan policy catalog).descriptors.length = (plan policy catalog).order.length := by
  simp [plan]

@[simp] theorem length_defaultActive_plan (policy : OrderPolicy) (catalog : Catalog) :
    (plan policy catalog).defaultActive.length = (plan policy catalog).order.length := by
  simp [plan]

end Layout

/-- The kinds of which `selected` takes more than one mutually exclusive stream. -/
def exclusiveConflicts (descriptors : List StreamDescriptor) (selected : List Bool) :
    List MediaKind :=
  [.audio, .video].filter fun kind =>
    1 < (descriptors.zip selected).countP fun (d, on) => on && d.mutuallyExclusive && d.kind == kind

end PullStreams
