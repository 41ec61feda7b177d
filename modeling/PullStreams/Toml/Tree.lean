/-
Trees under construction.

A document names tables by paths: in headers, which define a table or one more of a
list of tables, and in dotted keys, which define the tables on their way.  A table is
defined only once, by a header or by dotted keys: either may complete a table that
other headers merely mention, and dotted keys may add to a table that dotted keys
have defined.
-/
import PullStreams.Toml.Value

namespace PullStreams.Toml

/-- How a table came to be. -/
inductive Origin where
  /-- On the way of a header to another table. -/
  | mentioned
  /-- By a header of its own; the document itself counts as such a table. -/
  | header
  /-- On the way of a dotted key. -/
  | dotted
  deriving DecidableEq, Repr

inductive Node where
  | leaf (value : Value)
  | table (origin : Origin) (fields : List (String × Node))
  /-- Tables that headers define one after the other, the latest last. -/
  | tables (elements : List (List (String × Node)))

abbrev Branches := List (String × Node)

/-! ### The finished value -/

mutual

def Node.value : Node → Value
  | .leaf value => value
  | .table _ fields => .table (fieldValues fields)
  | .tables elements => .list (elementValues elements)

def fieldValues : List (String × Node) → Fields
  | [] => []
  | (key, node) :: rest => (key, node.value) :: fieldValues rest

def elementValues : List (List (String × Node)) → List Value
  | [] => []
  | fields :: rest => .table (fieldValues fields) :: elementValues rest

end

namespace Branches

/-- `fields` with `node` at a key. -/
def put (fields : Branches) (key : String) (node : Node) : Branches :=
  match fields with
  | [] => [(key, node)]
  | (k, n) :: rest => if k = key then (k, node) :: rest else (k, n) :: put rest key node

/-- Changes the table at the end of a path, making the tables that are missing on the way.  A
dotted key does not lead through a table that has a header of its own, and makes a table of dotted
keys of every other. -/
def alterAt (isDotted : Bool) (change : Origin → Branches → Option Branches) :
    (path : List String) → Origin → Branches → Option Branches
  | [], origin, fields => change origin fields
  | key :: path, _, fields =>
    match fields.lookup key with
    | none => do
      let origin := if isDotted then Origin.dotted else .mentioned
      return fields.put key (.table origin (← alterAt isDotted change path origin []))
    | some (.leaf _) => none
    | some (.table origin inner) =>
      if isDotted && origin = .header then none
      else do
        let origin := if isDotted then Origin.dotted else origin
        return fields.put key (.table origin (← alterAt isDotted change path origin inner))
    | some (.tables elements) => do
      let inner ← alterAt isDotted change path .header (elements.getLast?.getD [])
      return fields.put key (.tables (elements.dropLast ++ [inner]))

/-- Gives a key its value.  The last table on the way of a dotted key has to be one of dotted
keys. -/
def addLeaf (fields : Branches) (path : List String) (key : String) (value : Value) :
    Option Branches :=
  alterAt true (fun origin fields =>
      if decide (origin = .dotted) = path.isEmpty then none
      else if (fields.lookup key).isSome then none
      else some (fields.put key (.leaf value))) path .header fields

/-- The table at the end of a path of a header; a missing one has no fields. -/
def at? : (path : List String) → Branches → Option Branches
  | [], fields => some fields
  | key :: path, fields =>
    match fields.lookup key with
    | none => some []
    | some (.leaf _) => none
    | some (.table _ inner) => at? path inner
    | some (.tables elements) => at? path (elements.getLast?.getD [])

/-- The fields that the table of a header has before it is defined. -/
def mentionedAt? (fields : Branches) (path : List String) (key : String) : Option Branches := do
  match (← at? path fields).lookup key with
  | none => some []
  | some (.table .mentioned inner) => some inner
  | some _ => none

/-- Puts the table of a header in its place. -/
def addTable (fields : Branches) (path : List String) (key : String) (table : Branches) :
    Option Branches :=
  alterAt false (fun _ fields => some (fields.put key (.table .header table))) path .header fields

/-- Adds a table to the list of tables of a header. -/
def addElement (fields : Branches) (path : List String) (key : String) (table : Branches) :
    Option Branches :=
  alterAt false (fun _ fields =>
    match fields.lookup key with
    | none => some (fields.put key (.tables [table]))
    | some (.tables elements) => some (fields.put key (.tables (elements ++ [table])))
    | some _ => none) path .header fields

end Branches
end PullStreams.Toml
