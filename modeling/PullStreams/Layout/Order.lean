/-
The order in which the streams of a backend are shown to consumers.

A policy gives the backend's indices in the order of consumption, and says whether
the stream of a kind that starts active is the first or the last of its kind.

* `OrderPolicy.natural` keeps the backend's order and starts the first of a kind;
* `OrderPolicy.reverseGrouped` puts audio before video before all else, each group
  backwards, and starts the last of a kind.
-/
import PullStreams.Media.Format

namespace PullStreams

/-- How a backend's streams are shown, and which of them start active. -/
structure OrderPolicy where
  name : String
  /-- Backend indices in the order in which consumers see them. -/
  order : List MediaKind → List Nat
  /-- Whether the last stream of a kind starts active, and not the first. -/
  prefersLast : Bool

/-- The group that a kind is shown in. -/
def MediaKind.group : MediaKind → Nat
  | .audio => 0
  | .video => 1
  | .subtitle | .unknown => 2

/-- The indices of one group, backwards. -/
def backwardsIn (kinds : List MediaKind) (group : Nat) : List Nat :=
  (List.range kinds.length).reverse.filter fun i => (kinds[i]?.map (·.group)) == some group

namespace OrderPolicy

def natural : OrderPolicy where
  name := "natural"
  order kinds := List.range kinds.length
  prefersLast := false

def reverseGrouped : OrderPolicy where
  name := "reverse-grouped"
  order kinds := [0, 1, 2].flatMap (backwardsIn kinds)
  prefersLast := true

/-- A policy that answers the same indices whatever the kinds are. -/
def given (order : List Nat) (prefersLast : Bool) : OrderPolicy where
  name := "given"
  order _ := order
  prefersLast := prefersLast

end OrderPolicy
end PullStreams
