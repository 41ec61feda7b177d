/-
Reading a text from its front.

A step takes characters from the front of a text or refuses the text.  It refuses a
text whose parts do not fit together.  Where a part in its place is no good in itself,
the step notes a fault and goes on: a text that is refused further on counts as refused,
and of several faults the first counts.

Lines end in a line feed, before which a carriage return may stand; blanks are spaces
and tabs; a comment begins with a number sign and reaches to the end of its line.  No
other control character stands anywhere.
-/

namespace PullStreams.Toml

/-- What is wrong with a text. -/
inductive Fault where
  /-- It is no document, or says two things of one key. -/
  | malformed
  /-- A key has too many parts. -/
  | longKey
  deriving DecidableEq, Repr

/-- A text that is being read. -/
structure Source where
  rest : List Char
  /-- The first fault that was noted. -/
  fault : Option Fault

/-- A step of reading. -/
abbrev Taking (α : Type) := StateT Source Option α

namespace Taking

def refuse {α : Type} : Taking α := failure

def rest : Taking (List Char) := return (← get).rest

def setRest (chars : List Char) : Taking Unit := modify fun s => { s with rest := chars }

def note (fault : Fault) : Taking Unit :=
  modify fun s => { s with fault := s.fault <|> some fault }

/-- Notes that a part is no good and goes on with a substitute. -/
def instead {α : Type} (substitute : α) : Taking α := do
  note .malformed
  return substitute

/-- Goes on with what a step makes of the characters of a part, all of them, or else with a
substitute. -/
def within {α : Type} (part : List Char) (step : Taking α) (substitute : α) : Taking α :=
  match step.run { rest := part, fault := none } with
  | some (a, { rest := [], .. }) => return a
  | _ => instead substitute

/-- Goes on when a condition holds. -/
def demand (condition : Bool) : Taking Unit := if condition then return else refuse

/-- Takes the next character. -/
def next : Taking Char := do
  match ← rest with
  | [] => refuse
  | c :: chars => setRest chars; return c

/-- Takes a text if it comes next, and says whether it did. -/
def mark (text : String) : Taking Bool := do
  let chars ← rest
  if text.toList.isPrefixOf chars then
    setRest (chars.drop text.length)
    return true
  else return false

/-- Takes a text that has to come next. -/
def expect (text : String) : Taking Unit := do demand (← mark text)

/-- Takes the characters up to the first that is not `p`. -/
def takeWhile (p : Char → Bool) : Taking (List Char) := do
  let chars ← rest
  setRest (chars.dropWhile p)
  return chars.takeWhile p

/-- Takes exactly `count` characters, all of which are `p`. -/
def exactly (count : Nat) (p : Char → Bool) : Taking (List Char) := do
  let chars ← rest
  let taken := chars.take count
  demand (taken.length = count && taken.all p)
  setRest (chars.drop count)
  return taken

end Taking

open Taking

def isBlank (c : Char) : Bool := c = ' ' || c = '\t'

/-- Whether a character may stand in a line. -/
def isPlain (c : Char) : Bool := c = '\t' || (' ' ≤ c && c ≠ '\x7f')

def blanks : Taking Unit := do let _ ← takeWhile isBlank

/-- Takes the end of a line, if it comes next. -/
def lineEnd? : Taking Bool := do return (← mark "\n") || (← mark "\r\n")

/-- Whether a line ends at once. -/
def isLineEnd : List Char → Bool
  | [] | '\n' :: _ | '\r' :: '\n' :: _ => true
  | _ => false

/-- Takes a comment, if one comes next. -/
def comment? : Taking Unit := do
  if ← mark "#" then
    let _ ← takeWhile isPlain
    demand (isLineEnd (← rest))

/-- Takes blanks and the ends of `fuel` lines at most. -/
def emptyLinesIn : (fuel : Nat) → Taking Unit
  | 0 => return
  | fuel + 1 => do
    blanks
    if ← lineEnd? then emptyLinesIn fuel

/-- Takes blanks, comments and the ends of `fuel` lines at most. -/
def gapIn : (fuel : Nat) → Taking Unit
  | 0 => return
  | fuel + 1 => do
    blanks
    comment?
    if ← lineEnd? then gapIn fuel

/-- Takes all blanks, comments and ends of lines that come next. -/
def gap : Taking Unit := do gapIn ((← rest).length + 1)

end PullStreams.Toml
