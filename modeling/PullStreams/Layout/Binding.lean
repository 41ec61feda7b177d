/-
Bindings: which stream of a connected backend stands behind each planned stream.

A backend may show other streams than the probe did.  First every planned stream
whose index exists with the same kind gets that index; then each of the rest gets
the first stream of its kind that nobody has.  What is left stays unbound.
-/
import PullStreams.Layout

namespace PullStreams

/-- Per planned stream, the backend index behind it. -/
abbrev Binding := List (Option Nat)

namespace Binding

/-- The binding with every index raised by one and nothing as zero, as log lines show it. -/
def codes (binding : Binding) : List Nat :=
  binding.map fun | some b => b + 1 | none => 0

/-- The backend index behind the stream at `index`. -/
def backendIndex? (binding : Binding) (index : Nat) : Option Nat :=
  (binding[index]?).join

/-- The streams that got nothing, with their kinds. -/
def unbound (layout : Layout) (binding : Binding) : List (Nat × MediaKind) :=
  (List.range binding.length).filterMap fun logical =>
    match binding.backendIndex? logical, layout.kind? logical with
    | none, some kind => some (logical, kind)
    | _, _ => none

end Binding

namespace Layout

/-- The planned streams that find their index with the same kind. -/
def bindPlanned (layout : Layout) (kinds : List MediaKind) : Binding :=
  List.zipWith (fun planned d => if kinds[planned]? = some d.kind then some planned else none)
    layout.order layout.descriptors

/-- The first index of `kind` that is not taken. -/
def firstFree? (kinds : List MediaKind) (taken : List Nat) (kind : MediaKind) : Option Nat :=
  (List.range kinds.length).find? fun b => !taken.contains b && kinds[b]? == some kind

/-- Gives each stream that has none the first free one of its kind. -/
def bindRest (kinds : List MediaKind) :
    List (MediaKind × Option Nat) → (taken : List Nat) → Binding
  | [], _ => []
  | (_, some b) :: rest, taken => some b :: bindRest kinds rest taken
  | (kind, none) :: rest, taken =>
    match firstFree? kinds taken kind with
    | some b => some b :: bindRest kinds rest (b :: taken)
    | none => none :: bindRest kinds rest taken

/-- Binds each planned stream to a stream of the connected backend. -/
def bind (layout : Layout) (backend : Catalog) : Binding :=
  let kinds := backend.map (·.kind)
  let planned := layout.bindPlanned kinds
  bindRest kinds ((layout.descriptors.map (·.kind)).zip planned) (planned.filterMap id)

end Layout
end PullStreams
