/-
Patterns: regular expressions that the values of fields are compared with.

Nothing here compares anything: `Pattern.fault?` tells whether a text is a pattern.  A
pattern is read from the front, with the groups that are open on a stack.  Flags in a
group hold to its end.

Patterns know the characters of Unicode by their numbers only.  So classes that need
its tables, small and capital letters that count as the same, and boundaries of words
are to be had for ASCII alone, where the flag `u` is taken away; and there nothing may
stand for bytes that are no text.
-/
import PullStreams.Media.Position
import PullStreams.Text.Alphanumeric
import PullStreams.Text.Blank

namespace PullStreams

/-- Why a text is no pattern. -/
inductive PatternFault where
  | syntactic
  /-- It asks where words begin or end. -/
  | wordBoundary
  deriving DecidableEq, Repr

def PatternFault.message : PatternFault → String
  | .syntactic => "error building NFA"
  | .wordBoundary =>
    "unsupported regex feature for DFAs: cannot build DFAs for regexes with Unicode word " ++
      "boundaries; switch to ASCII word boundaries, or heuristically enable Unicode word " ++
      "boundaries or use a different regex engine"

namespace Pattern

/-- The flags that decide what is allowed. -/
structure Flags where
  ignoresCase : Bool
  isUnicode : Bool
  /-- Whether white space and comments are passed over. -/
  isSpaced : Bool
  deriving DecidableEq, Repr

/-! ### Depth -/

/-- Parts in a row: how many they are, and how deep the deepest is. -/
structure Row where
  count : Nat
  deepest : Nat
  deriving DecidableEq, Repr

namespace Row

def empty : Row := ⟨0, 0⟩

def add (r : Row) (depth : Nat) : Row := ⟨r.count + 1, max r.deepest depth⟩

/-- How deep the row is: several parts are one level deeper than the deepest of them. -/
def depth (r : Row) : Nat := if r.count ≤ 1 then r.deepest else r.deepest + 1

end Row

/-- A pattern is not deeper than this. -/
def deepest : Nat := 250

/-- What a group has so far: the alternatives that are complete, and the pieces of the last. -/
structure Inside where
  alternatives : Row
  pieces : Row
  /-- How deep the piece in front is, if it can be repeated. -/
  last : Option Nat
  deriving DecidableEq, Repr

namespace Inside

def empty : Inside := ⟨.empty, .empty, none⟩

/-- With one more piece. -/
def add (s : Inside) (depth : Nat) : Inside :=
  { s with pieces := s.pieces.add depth, last := some depth }

/-- With flags that were set: a piece that cannot be repeated. -/
def addFlags (s : Inside) : Inside := { s with pieces := s.pieces.add 0, last := none }

/-- With the piece in front repeated. -/
def repeat? (s : Inside) : Option Inside := do
  let depth := (← s.last) + 1
  some { s with
    pieces := { s.pieces with deepest := max s.pieces.deepest depth }, last := some depth }

/-- With the last alternative complete. -/
def split (s : Inside) : Inside := ⟨s.alternatives.add s.pieces.depth, .empty, none⟩

def depth (s : Inside) : Nat := s.split.alternatives.depth

end Inside

/-! ### Characters -/

/-- Passes over white space and comments, of which `fuel` at most, where they do not count. -/
def spaced (f : Flags) : (fuel : Nat) → List Char → List Char
  | 0, chars => chars
  | _, [] => []
  | fuel + 1, c :: chars =>
    if !f.isSpaced then c :: chars
    else if Text.isBlank c then spaced f fuel chars
    else if c = '#' then spaced f fuel (chars.dropWhile (· ≠ '\n'))
    else c :: chars

/-- The front of what is left, where white space does not count. -/
def clear (f : Flags) (chars : List Char) : List Char := spaced f chars.length chars

/-- What one item of a pattern is. -/
inductive Item where
  | literal (c : Char)
  /-- Some of the characters of ASCII. -/
  | characters
  | place
  /-- A place where a word begins or ends. -/
  | wordBoundary
  deriving DecidableEq, Repr

/-- The character that so many hexadecimal digits give, with `code` from those in front. -/
def hexadecimal? (f : Flags) : (count code : Nat) → List Char → Option (Char × List Char)
  | 0, code, chars => if code.isValidChar then some (Char.ofNat code, chars) else none
  | count + 1, code, chars =>
    match clear f chars with
    | [] => none
    | c :: rest => do hexadecimal? f count (16 * code + (← TimeFormat.hexDigit? c)) rest

/-- What stands behind a backslash. -/
def escaped? (f : Flags) : List Char → Option (Item × List Char)
  | [] => none
  | c :: rest =>
    let literal (c : Char) := some (Item.literal c, rest)
    match c with
    | 'x' => do
      let (c, rest) ← hexadecimal? f 2 0 rest
      if f.isUnicode || c.toNat < 0x80 then some (.literal c, rest) else none
    | 'u' => do let (c, rest) ← hexadecimal? f 4 0 rest; some (.literal c, rest)
    | 'U' => do let (c, rest) ← hexadecimal? f 8 0 rest; some (.literal c, rest)
    | 'd' | 's' | 'w' => if f.isUnicode then none else some (.characters, rest)
    | 'a' => literal '\x07'
    | 'f' => literal '\x0c'
    | 't' => literal '\t'
    | 'n' => literal '\n'
    | 'r' => literal '\r'
    | 'v' => literal '\x0b'
    | 'A' | 'z' => some (.place, rest)
    | 'b' | 'B' | '<' | '>' =>
      some (if f.isUnicode then .wordBoundary else .place, rest)
    | c => if c.isAlphanum || 0x80 ≤ c.toNat then none else literal c

/-- The next item, which is no operator. -/
def item? (f : Flags) : List Char → Option (Item × List Char)
  | [] => none
  | '\\' :: rest => escaped? f rest
  | c :: rest => some (.literal c, rest)

/-! ### Classes -/

/-- The classes of ASCII that have names. -/
def classNames : List String :=
  ["alnum", "alpha", "ascii", "blank", "cntrl", "digit", "graph", "lower", "print", "punct",
    "space", "upper", "word", "xdigit"]

/-- What stands behind a named class, when its opening bracket is behind: whether it is one of all
other characters, and the rest. -/
def namedClass? : List Char → Option (Bool × List Char)
  | ':' :: rest => do
    let (isNegated, rest) := match rest with
      | '^' :: rest => (true, rest)
      | rest => (false, rest)
    let name := rest.takeWhile (· ≠ ':')
    if String.ofList name ∉ classNames then none
    else
      match rest.drop name.length with
      | ':' :: ']' :: rest => some (isNegated, rest)
      | _ => none
  | _ => none

/-- Whether a class may have a character as a member.  Where small and capital letters beyond ASCII
were to count as the same it has none. -/
def mayBeMember (f : Flags) (c : Char) : Bool :=
  if f.isUnicode then !f.ignoresCase else c.toNat < 0x80

/-- The next character that shows, in a comment or not; the first sign of a comment does not. -/
def shown? : (isInComment : Bool) → List Char → Option Char
  | _, [] => none
  | isInComment, c :: chars =>
    if Text.isBlank c then shown? isInComment chars
    else if c = '#' && !isInComment then shown? true chars
    else some c

/-- Whether a minus sign, behind which `chars` stand, is that of a range.  Where white space does
not count it is the next character that shows that tells, be it within a comment. -/
def isRangeSign (f : Flags) (chars : List Char) : Bool :=
  let next := if f.isSpaced then (shown? false chars).or chars.head? else chars.head?
  !(next.any fun c => c = ']' || c = '-')

/-- One member of a class, or a range of members. -/
def member? (f : Flags) (chars : List Char) : Option (List Char) := do
  let (first, rest) ← item? f chars
  let rest := clear f rest
  let isRange := match rest with
    | '-' :: rest => isRangeSign f rest
    | _ => false
  match first, isRange with
  | .literal a, true =>
    match ← item? f (clear f rest.tail) with
    | (.literal b, rest) =>
      if a ≤ b && mayBeMember f a && mayBeMember f b then some rest else none
    | _ => none
  | .literal a, false => if mayBeMember f a then some rest else none
  | .characters, false => some rest
  | _, _ => none

/-- A class that is open: how deep the operations on sets in it are so far, and the members behind
the last of them. -/
structure OpenClass where
  operated : Option Nat
  members : Row
  deriving DecidableEq, Repr

namespace OpenClass

def empty : OpenClass := ⟨none, .empty⟩

def add (s : OpenClass) (depth : Nat) : OpenClass := { s with members := s.members.add depth }

/-- How deep the set is. -/
def depth (s : OpenClass) : Nat :=
  match s.operated with
  | none => s.members.depth
  | some d => max d s.members.depth + 1

/-- What was read becomes the left of an operation. -/
def operate (s : OpenClass) : OpenClass := ⟨some s.depth, .empty⟩

end OpenClass

/-- The minus signs in front of a class, of which `fuel` at most, are members. -/
def leading (f : Flags) : (fuel : Nat) → OpenClass → List Char → OpenClass × List Char
  | fuel + 1, s, '-' :: rest => leading f fuel (s.add 0) (clear f rest)
  | _, s, chars => (s, chars)

/-- A class whose opening bracket is behind, and the rest.  A closing bracket right behind it is a
member. -/
def opened? (f : Flags) (chars : List Char) : Option (OpenClass × List Char) :=
  let (isNegated, chars) := match clear f chars with
    | '^' :: chars => (true, clear f chars)
    | chars => (false, chars)
  let (s, chars) := match chars with
    | ']' :: rest => (OpenClass.empty.add 0, rest)
    | chars => leading f chars.length .empty chars
  if isNegated && !f.isUnicode || s ≠ .empty && !mayBeMember f ']' then none
  else some (s, chars)

/-- The rest of a class, with the classes around it that are open, the innermost first, and how deep
the whole is; `fuel` bounds its members. -/
def class? (f : Flags) : (fuel : Nat) → (inner : OpenClass) → (outer : List OpenClass) →
    List Char → Option (Nat × List Char)
  | 0, _, _, _ => none
  | fuel + 1, inner, outer, chars =>
    match clear f chars with
    | '[' :: rest =>
      match namedClass? rest with
      | some (isNegated, rest) =>
        if isNegated && !f.isUnicode || !mayBeMember f 'a' then none
        else class? f fuel (inner.add 0) outer rest
      | none => do
        let (innermost, rest) ← opened? f rest
        class? f fuel innermost (inner :: outer) rest
    | ']' :: rest =>
      match outer with
      | [] => some (inner.depth + 1, rest)
      | next :: outer => class? f fuel (next.add (inner.depth + 1)) outer rest
    | '&' :: '&' :: rest | '-' :: '-' :: rest | '~' :: '~' :: rest =>
      class? f fuel inner.operate outer rest
    | chars => do class? f fuel (inner.add 0) outer (← member? f chars)

/-! ### Groups -/

/-- A pattern that is being read. -/
structure State where
  rest : List Char
  flags : Flags
  inside : Inside
  /-- The flags that held where the open groups began, and what was in front of them, the innermost
  first. -/
  outer : List (Flags × Inside)
  /-- The names of groups so far. -/
  names : List (List Char)
  hasBoundary : Bool
  deriving Repr

/-- Whether a character may stand in the name of a group. -/
def isNameChar (isFirst : Bool) (c : Char) : Bool :=
  c = '_' || (if isFirst then Text.isAlphabetic c
    else Text.isAlphanumeric c || c ∈ ['.', '[', ']'])

/-- Opens a group, whose inside is under `flags`. -/
def State.enter (s : State) (flags : Flags) (rest : List Char) : State :=
  { s with rest, flags, outer := (s.flags, s.inside) :: s.outer, inside := .empty }

/-- Opens a group with a name. -/
def named? (s : State) (chars : List Char) : Option State :=
  let name := chars.takeWhile (· ≠ '>')
  match name, chars.drop name.length with
  | first :: others, _ :: rest =>
    if isNameChar true first && others.all (isNameChar false) && name ∉ s.names then
      some { s.enter s.flags rest with names := name :: s.names }
    else none
  | _, _ => none

/-- The flags that there are. -/
def flagLetters : List Char := ['i', 'm', 's', 'U', 'u', 'R', 'x']

/-- One flag set or taken away. -/
def Flags.change (f : Flags) (letter : Char) (isSet : Bool) : Flags :=
  match letter with
  | 'i' => { f with ignoresCase := isSet }
  | 'u' => { f with isUnicode := isSet }
  | 'x' => { f with isSpaced := isSet }
  | _ => f

/-- Flags in a row: those behind a minus sign are taken away.  Each occurs once, and the sign is
not the last of them. -/
def flags? (f : Flags) (letters : List Char) : Option Flags :=
  let set := letters.takeWhile (· ≠ '-')
  let cleared := letters.drop (set.length + 1)
  let all := set ++ cleared
  if all.all (· ∈ flagLetters) && all.Nodup && (cleared ≠ [] || set.length = letters.length) then
    some (cleared.foldl (·.change · false) (set.foldl (·.change · true) f))
  else none

/-- Opens a group with flags, or sets flags for the rest of the group. -/
def flagged? (s : State) (chars : List Char) : Option State := do
  let letters := chars.takeWhile fun c => c ≠ ':' && c ≠ ')'
  let flags ← flags? s.flags letters
  match chars.drop letters.length with
  | ':' :: rest => some (s.enter flags rest)
  | ')' :: rest =>
    if letters.isEmpty then none else some { s with rest, flags, inside := s.inside.addFlags }
  | _ => none

/-- Opens a group whose opening bracket is behind. -/
def group? (s : State) (chars : List Char) : Option State :=
  match chars with
  | '?' :: '=' :: _ | '?' :: '!' :: _ | '?' :: '<' :: '=' :: _ | '?' :: '<' :: '!' :: _ => none
  | '?' :: 'P' :: '<' :: rest | '?' :: '<' :: rest => named? s rest
  | '?' :: rest => flagged? s rest
  | rest => some (s.enter s.flags rest)

/-! ### Whole patterns -/

/-- The state after a piece of a depth. -/
def State.add (s : State) (depth : Nat) (rest : List Char) : State :=
  { s with rest, inside := s.inside.add depth }

/-- The state after one item. -/
def State.after (s : State) (item : Item) (rest : List Char) : Option State :=
  match item with
  | .literal _ => if s.flags.ignoresCase && s.flags.isUnicode then none else some (s.add 0 rest)
  | .wordBoundary => some { s.add 0 rest with hasBoundary := true }
  | .characters | .place => some (s.add 0 rest)

/-- Reads on by one item, operator or bracket. -/
def State.step (s : State) : Option State :=
  match s.rest with
  | [] => some s
  | '(' :: rest => group? s (clear s.flags rest)
  | ')' :: rest =>
    match s.outer with
    | [] => none
    | (flags, inside) :: outer =>
      some { s with rest, flags, outer, inside := inside.add (s.inside.depth + 1) }
  | '|' :: rest => some { s with rest, inside := s.inside.split }
  | '[' :: rest => do
    let (inner, rest) ← opened? s.flags rest
    let (depth, rest) ← class? s.flags (rest.length + 1) inner [] rest
    some (s.add depth rest)
  | '?' :: rest | '*' :: rest | '+' :: rest => do
    some { s with
      inside := ← s.inside.repeat?, rest := if rest.head? = some '?' then rest.tail else rest }
  | '\x7b' :: _ => none
  | '.' :: rest => if s.flags.isUnicode then s.after .characters rest else none
  | '^' :: rest | '$' :: rest => s.after .place rest
  | chars => do
    let (item, rest) ← item? s.flags chars
    s.after item rest

/-- Reads a pattern to its end, in `fuel` steps at most. -/
def State.run : (fuel : Nat) → State → Option State
  | 0, s => some s
  | fuel + 1, s =>
    let s := { s with rest := clear s.flags s.rest }
    if s.rest.isEmpty then some s else do run fuel (← s.step)

/-- What is wrong with a text as a pattern. -/
def fault? (text : List Char) : Option PatternFault :=
  let flags : Flags := { ignoresCase := false, isUnicode := true, isSpaced := false }
  let start : State :=
    { rest := text, flags, inside := .empty, outer := [], names := [], hasBoundary := false }
  match start.run text.length with
  | none => some .syntactic
  | some s =>
    if !s.outer.isEmpty || deepest < s.inside.depth then some .syntactic
    else if s.hasBoundary then some .wordBoundary
    else none

end Pattern
end PullStreams
