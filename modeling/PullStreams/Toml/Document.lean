/-
TOML documents.

A document is a list of lines: each gives a key its value, or begins a table or one
more of a list of tables.  Inside brackets and braces a line may end anywhere between
the parts, though not inside a key.  A mark of the byte order may stand at the very
beginning.

A text whose brackets, commas, equals signs and ends of lines are not those of a list
of lines is refused.  Faults that are noted are keys and values that are missing or mean
nothing where one belongs, a key with too many parts, and a key that is defined twice.
-/
import PullStreams.Toml.Number
import PullStreams.Toml.Text
import PullStreams.Toml.Tree

namespace PullStreams.Toml

open Taking

/-! ### Keys -/

def isKeyChar (c : Char) : Bool := c.isAlphanum || c = '_' || c = '-'

/-- A key: the parts on the way, the last one, and whether there is a last one at all. -/
structure Key where
  path : List String
  last : String
  isWhole : Bool

/-- Whether a character may stand in a part of a key, if only as a fault. -/
def isPartChar (c : Char) : Bool := isBare c && c ≠ '.'

/-- One part of a key, if there is one. -/
def keyPart? : Taking (Option String) := do
  if let some s ← linesText? then instead (some s)
  else if let some s ← lineText? then return some s
  else
    let chars ← takeWhile isPartChar
    if chars.isEmpty then instead none
    else
      let part := String.ofList chars
      if chars.all isKeyChar then return some part else instead (some part)

/-- A key of at most `fuel` parts. -/
def keyIn : (fuel : Nat) → Taking Key
  | 0 => refuse
  | fuel + 1 => do
    blanks
    let part ← keyPart?
    blanks
    if ← mark "." then
      let key ← keyIn fuel
      return { key with path := part.getD "" :: key.path }
    else return { path := [], last := part.getD "", isWhole := part.isSome }

/-- A key may have so many parts. -/
def partLimit : Nat := 80

def key : Taking Key := do
  let key ← keyIn ((← rest).length + 1)
  if partLimit ≤ key.path.length then note .longKey
  return key

/-! ### Values -/

/-- How many characters of a value without quotes come next.  A quote in front or behind a dot
begins a text of its own. -/
def bareSpan : (isInside : Bool) → List Char → Nat
  | _, [] => 0
  | isInside, c :: rest =>
    if !isBare c || (!isInside && (c = '"' || c = '\'')) then 0
    else bareSpan (c ≠ '.') rest + 1

/-- The characters of a value without quotes that come next. -/
def bareRun : Taking (List Char) := do exactly (bareSpan false (← rest)) fun _ => true

/-- The characters of a value without quotes.  Blanks may divide it once, as a date from its
time. -/
def bareChars : Taking (List Char) := do
  let chars ← bareRun
  demand (!chars.isEmpty)
  let gap := (← rest).takeWhile isBlank
  match (← rest).drop gap.length with
  | [] => return chars
  | c :: _ =>
    if isPartChar c && c ∉ ['"', '\''] then
      blanks
      return chars ++ gap ++ (← bareRun)
    else return chars

/-- A value that stands for one that is missing or means nothing. -/
def noValue : Taking Value := instead (.truth false)

/-- A value without quotes. -/
def bare : Taking Value := do
  match bareValue? (← bareChars) with
  | some value => return value
  | none => noValue

/-- Goes on with a tree that was added to; when nothing could be added, with the tree before. -/
def grown (before : Branches) : Option Branches → Taking Branches
  | some tree => return tree
  | none => instead before

/-- How deeply lists and tables may be nested in a value. -/
def nestingLimit : Nat := 80

/-- Whether a field in braces has no more to it. -/
def endsField : List Char → Bool
  | ',' :: _ | '\x7d' :: _ => true
  | _ => false

mutual

/-- A value.  `fuel` bounds the values and fields in it, `depth` how deeply they are nested. -/
def value (depth : Nat) : (fuel : Nat) → Taking Value
  | 0 => refuse
  | fuel + 1 => do
    if let some s ← text? then return .text s
    else if ← mark "[" then
      demand (depth ≠ 0)
      return .list (← items (depth - 1) fuel)
    else if ← mark "\x7b" then
      demand (depth ≠ 0)
      return .table (fieldValues (← fields (depth - 1) fuel []))
    else bare

/-- The items of a list, up to its closing bracket. -/
def items (depth : Nat) : (fuel : Nat) → Taking (List Value)
  | 0 => refuse
  | fuel + 1 => do
    gap
    if ← mark "]" then return []
    let first ← value depth fuel
    gap
    if ← mark "," then return first :: (← items depth fuel)
    expect "]"
    return [first]

/-- The fields of a table in braces, up to the closing one. -/
def fields (depth : Nat) : (fuel : Nat) → Branches → Taking Branches
  | 0, _ => refuse
  | fuel + 1, sofar => do
    gap
    if ← mark "\x7d" then return sofar
    let { path, last, .. } ← key
    gap
    if ← mark "\x7d" then instead sofar
    else
      expect "="
      gap
      let v ← if endsField (← rest) then noValue else value depth fuel
      let sofar ← grown sofar (sofar.addLeaf path last v)
      gap
      if ← mark "," then fields depth fuel sofar
      else
        expect "\x7d"
        return sofar

end

/-! ### Lines -/

/-- A header. -/
structure Header where
  /-- Whether the table is one more of a list. -/
  isElement : Bool
  path : List String
  key : String

/-- A document so far: the tables that are complete, and the table that lines belong to with its
header. -/
structure Draft where
  tree : Branches
  header : Option Header
  table : Branches

/-- The tree with the last table in its place. -/
def Draft.finish (draft : Draft) : Taking Branches :=
  match draft.header with
  | none => return draft.table
  | some h =>
    let add := if h.isElement then Branches.addElement else Branches.addTable
    grown draft.tree (add draft.tree h.path h.key draft.table)

/-- Begins the table of a header. -/
def begin (tree : Branches) (h : Header) : Taking Draft := do
  let table ← if h.isElement then pure [] else grown [] (tree.mentionedAt? h.path h.key)
  return { tree, header := some h, table }

/-- Whether a line has no more to it but a comment. -/
def endsLine : List Char → Bool
  | [] | '#' :: _ | '\n' :: _ | '\r' :: _ => true
  | _ => false

/-- Passes over what is left of a line but a comment, in `fuel` steps at most. -/
def passLineIn : (fuel : Nat) → Taking Unit
  | 0 => return
  | fuel + 1 => do
    if endsLine (← rest) then return
    else
      if let none ← text? then
        let chars ← takeWhile isPartChar
        if chars.isEmpty then let _ ← next
      passLineIn fuel

/-- The rest of a header, up to its closing mark.  One whose key has no end is passed over. -/
def headed (draft : Draft) (isElement : Bool) (closing : String) : Taking Draft := do
  let tree ← draft.finish
  let key ← key
  if ← mark closing then begin tree { isElement, path := key.path, key := key.last }
  else
    demand (!key.isWhole && (← rest).head? != some ']')
    passLineIn (← rest).length
    return { tree, header := none, table := tree }

/-- What one line does, its blanks and comment aside. -/
def content (draft : Draft) : Taking Draft := do
  if ← mark "[[" then headed draft true "]]"
  else if ← mark "[" then headed draft false "]"
  else
    let { path, last, .. } ← key
    expect "="
    blanks
    let v ← if endsLine (← rest) then noValue else value nestingLimit ((← rest).length + 1)
    return { draft with table := ← grown draft.table (draft.table.addLeaf path last v) }

/-- Reads lines to the end of the text, `fuel` lines at most. -/
def lines : (fuel : Nat) → Draft → Taking Draft
  | 0, _ => refuse
  | fuel + 1, draft => do
    blanks
    let draft ← if endsLine (← rest) then pure draft else content draft
    blanks
    comment?
    if (← rest).isEmpty then return draft
    demand (← lineEnd?)
    lines fuel draft

/-- The fields of a document. -/
def parse (text : String) : Except Fault Fields :=
  let chars := match text.toList with
    | '\ufeff' :: rest => rest
    | chars => chars
  let whole : Taking Branches := do
    (← lines (chars.length + 1) { tree := [], header := none, table := [] }).finish
  match whole.run { rest := chars, fault := none } with
  | none => .error .malformed
  | some (_, { fault := some fault, .. }) => .error fault
  | some (tree, _) => .ok (fieldValues tree)

end PullStreams.Toml
