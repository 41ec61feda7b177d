/-
Quoted texts.

A text in double quotes has escapes, one in single quotes has none.  Three quotes
begin a text that may run over several lines; a line end right behind them is no part
of it.  Up to two quotes may stand inside such a text, also right before the closing
ones.  A backslash at the end of a line takes all white space behind it away.

Where a text ends is told by its quotes alone; a text of one line ends with its line in
any case.  What does not make sense inside is noted.
-/
import PullStreams.Media.Position
import PullStreams.Toml.Taking

namespace PullStreams.Toml

open Taking

/-- The character of a code point, where there is one. -/
def charOf? (code : Nat) : Option Char :=
  if h : code.isValidChar then some (Char.ofNatAux code h) else none

/-- A character given by so many hexadecimal digits. -/
def codePoint (digits : Nat) : Taking Char := do
  let chars ← exactly digits fun c => (TimeFormat.hexDigit? c).isSome
  let code := chars.foldl (fun n c => 16 * n + (TimeFormat.hexDigit? c).getD 0) 0
  match charOf? code with
  | some c => return c
  | none => refuse

/-- What stands behind a backslash. -/
def escape : Taking Char := do
  match ← next with
  | '"' => return '"'
  | '\\' => return '\\'
  | 'b' => return '\x08'
  | 'e' => return '\x1b'
  | 'f' => return '\x0c'
  | 'n' => return '\n'
  | 'r' => return '\r'
  | 't' => return '\t'
  | 'x' => codePoint 2
  | 'u' => codePoint 4
  | 'U' => codePoint 8
  | _ => refuse

/-- The rest of a text of one line, `fuel` characters at most. -/
def lineBody (quote : Char) : (fuel : Nat) → Taking (List Char)
  | 0 => refuse
  | fuel + 1 => do
    let c ← next
    if c = quote then return []
    else if c = '\\' && quote = '"' then
      let c ← escape
      return c :: (← lineBody quote fuel)
    else
      demand (isPlain c)
      return c :: (← lineBody quote fuel)

/-- Takes a line end, and the empty lines and blanks behind it, if it comes after blanks. -/
def foldedLine? : Taking Bool := do
  let before ← rest
  blanks
  if ← lineEnd? then
    emptyLinesIn (before.length + 1)
    return true
  else
    setRest before
    return false

/-- Three quotes. -/
def tripled (quote : Char) : String := String.ofList [quote, quote, quote]

/-- The quotes that stand next, as content, or the end of the text: three or more close it, of
which at most two belong to it. -/
def quotes (quote : Char) : Taking (List Char × Bool) := do
  let count := min 5 ((← rest).takeWhile (· = quote)).length
  let _ ← exactly count (· = quote)
  if count < 3 then return (List.replicate count quote, false)
  else return (List.replicate (count - 3) quote, true)

/-- The rest of a text of several lines, `fuel` pieces at most. -/
def linesBody (quote : Char) : (fuel : Nat) → Taking (List Char)
  | 0 => refuse
  | fuel + 1 => do
    match ← rest with
    | [] => refuse
    | c :: _ =>
      if c = quote then
        let (content, isClosed) ← quotes quote
        return content ++ (← if isClosed then pure [] else linesBody quote fuel)
      else if c = '\\' && quote = '"' then
        let _ ← next
        if ← foldedLine? then linesBody quote fuel
        else
          let c ← escape
          return c :: (← linesBody quote fuel)
      else if ← mark "\r\n" then return '\r' :: '\n' :: (← linesBody quote fuel)
      else
        let c ← next
        demand (isPlain c || c = '\n')
        return c :: (← linesBody quote fuel)

/-- How many characters the rest of a text of one line has, the closing quote among them, though
not the line's end.  `isEscaped` says that a backslash is in front. -/
def lineSpan (quote : Char) : (isEscaped : Bool) → List Char → Nat
  | _, [] => 0
  | isEscaped, c :: rest =>
    if isEscaped && (c = '"' || c = '\\') then lineSpan quote false rest + 1
    else if c = '\n' then 0
    else if c = quote then 1
    else lineSpan quote (c = '\\' && quote = '"') rest + 1

/-- The same of a text of several lines, which may end with five quotes. -/
def linesSpan (quote : Char) : (isEscaped : Bool) → List Char → Nat
  | _, [] => 0
  | isEscaped, c :: rest =>
    if isEscaped && (c = '"' || c = '\\') then linesSpan quote false rest + 1
    else
      let count := min 5 ((c :: rest).takeWhile (· = quote)).length
      if 3 ≤ count then count
      else linesSpan quote (c = '\\' && quote = '"') rest + 1

/-- A text of one line, when its quote comes next. -/
def lineTextIn? (quote : Char) : Taking (Option String) := do
  if ← mark quote.toString then
    let part ← exactly (lineSpan quote false (← rest)) fun _ => true
    within part (return some (String.ofList (← lineBody quote (part.length + 1)))) (some "")
  else return none

/-- A text of several lines, when its quotes come next. -/
def linesTextIn? (quote : Char) : Taking (Option String) := do
  if ← mark (tripled quote) then
    let part ← exactly (linesSpan quote false (← rest)) fun _ => true
    within part (do
      let _ ← lineEnd?
      return some (String.ofList (← linesBody quote (part.length + 1)))) (some "")
  else return none

/-- A text in quotes of either kind. -/
def inEither (step : Char → Taking (Option String)) : Taking (Option String) := do
  match ← step '"' with
  | some s => return some s
  | none => step '\''

/-- A text of several lines, when one comes next. -/
def linesText? : Taking (Option String) := inEither linesTextIn?

/-- A text of one line, when one comes next that is not of several. -/
def lineText? : Taking (Option String) := inEither lineTextIn?

/-- A text, when one comes next. -/
def text? : Taking (Option String) := do
  match ← linesText? with
  | some s => return some s
  | none => lineText?

end PullStreams.Toml
