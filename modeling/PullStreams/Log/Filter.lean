/-
Filters: which records are logged.

A filter is a list of directives with commas between them.  A directive gives a level
to all records, or to those of the parts of the program whose names begin with a given
target.  A directive may also ask for a field of a record, or speak of spans; records
outside all spans are no concern of the latter.  Of the directives that speak of a
record the one with the longest target decides, among those one that asks for a field,
the last in the order of their names, and among directives for the same records the last.

White space around a directive is not counted when its parts are looked for, but the
parts are cut out of the whole directive, byte by byte.
-/
import PullStreams.Log.Line
import PullStreams.Log.Pattern
import PullStreams.Text.Lossy

namespace PullStreams

/-- A severity to be logged with all that are graver, or nothing at all. -/
abbrev LevelFilter := Option LogLevel

namespace LevelFilter

def allows (filter : LevelFilter) (level : LogLevel) : Bool :=
  filter.any fun bound => level.rank ≤ bound.rank

/-- The filter of a number. -/
def ofNumber? (n : Nat) : Option LevelFilter :=
  if n = 0 then some none else (LogLevel.all.find? (·.rank = n)).map some

/-- The number that a text gives in decimal digits, a plus sign before them or not. -/
def number? (s : String) : Option Nat :=
  let digits := if s.startsWith "+" then (s.drop 1).toString else s
  if !digits.isEmpty ∧ digits.all Char.isDigit then digits.toNat? else none

/-- The filter that a text names, in whatever case, or gives as a number. -/
def ofText? (s : String) : Option LevelFilter :=
  match number? s with
  | some n => ofNumber? n
  | none =>
    if s.isEmpty then some (some .error)
    else if s.map Char.toLower = "off" then some none
    else (LogLevel.all.find? (·.name = s.map Char.toUpper)).map some

end LevelFilter

/-- Why a directive is not understood. -/
inductive DirectiveFault where
  | malformed
  | level
  /-- The value of a field is no pattern. -/
  | field (fault : PatternFault)
  deriving DecidableEq, Repr

def DirectiveFault.message : DirectiveFault → String
  | .malformed => "invalid filter directive"
  | .level =>
    "error parsing level filter: expected one of \"off\", \"error\", \"warn\", \"info\", " ++
      "\"debug\", \"trace\", or a number 0-5"
  | .field fault => "invalid field filter: " ++ fault.message

structure Directive where
  level : LevelFilter
  target : Option String
  /-- The field that a record has to have. -/
  field : Option String
  /-- Whether it speaks of spans only. -/
  isOfSpans : Bool
  deriving DecidableEq, Repr

namespace Directive

/-- The directive that everything is logged of. -/
def everything : Directive :=
  { level := some .trace, target := none, field := none, isOfSpans := false }

/-- How many bytes the first `count` characters take. -/
def offset (chars : List Char) (count : Nat) : Nat :=
  (chars.take count).foldl (fun n c => n + c.utf8Size) 0

/-- What `whole` has where `chars` have their characters from position `start` to position
`stop`. -/
def cut (whole chars : List Char) (start stop : Nat) : String :=
  let bytes := Bytes.ofText (String.ofList whole)
  Text.ofBytesLossy (bytes.slice (offset chars start) (offset chars stop - offset chars start))

/-- What `whole` has where `chars` have their characters from position `start` on. -/
def cutFrom (whole chars : List Char) (start : Nat) : String :=
  Text.ofBytesLossy ((Bytes.ofText (String.ofList whole)).drop (offset chars start))

/-- The level behind an equals sign; without one everything is logged. -/
def levelOf (s : String) : Except DirectiveFault LevelFilter :=
  if s.isEmpty then .ok (some .trace)
  else
    match LevelFilter.ofText? s with
    | some level => .ok level
    | none => .error .level

/-- A directive that is either a level or a target of which everything is logged. -/
def ofWord (s : String) : Directive :=
  match LevelFilter.ofText? s with
  | some level => { everything with level }
  | none => { everything with target := some s }

/-- Whether a text is a number written with a plus sign; no pattern begins so. -/
def isPlusNumber (chars : List Char) : Bool :=
  match chars with
  | '+' :: chars =>
    let lower := String.ofList (chars.map Char.toLower)
    let (digits, rest) := (chars.takeWhile Char.isDigit, chars.dropWhile Char.isDigit)
    let (fraction, rest) := match rest with
      | '.' :: rest => (rest.takeWhile Char.isDigit, rest.dropWhile Char.isDigit)
      | rest => ([], rest)
    let exponent := match rest with
      | e :: '+' :: digits | e :: '-' :: digits | e :: digits =>
        (e = 'e' || e = 'E') && !digits.isEmpty && digits.all Char.isDigit
      | [] => true
    lower ∈ ["inf", "infinity", "nan"] || ((digits ++ fraction ≠ []) && exponent)
  | _ => false

/-- The field between braces.  One with a value speaks of spans, and its value is a number or a
pattern. -/
def withField (d : Directive) (s : String) : Except DirectiveFault Directive :=
  if s.isEmpty then .error .malformed
  else
    match s.splitOn "=" with
    | _ :: value :: _ =>
      match Pattern.fault? value.toList, isPlusNumber value.toList with
      | some fault, false => .error (.field fault)
      | _, _ => .ok { d with isOfSpans := true }
    | _ => .ok { d with field := some s }

/-- Where a character stands first, from position `start` on. -/
def find? (chars : List Char) (start : Nat) (p : Char → Bool) : Option Nat :=
  ((chars.drop start).findIdx? p).map (start + ·)

/-- What stands behind a span, from position `start` on: nothing, or a level. -/
def afterSpan (whole chars : List Char) (start : Nat) (d : Directive) :
    Except DirectiveFault Directive :=
  match chars[start]? with
  | none => .ok d
  | some '=' => do return { d with level := ← levelOf (cutFrom whole chars (start + 1)) }
  | some _ => .error .malformed

/-- A span whose inside begins at position `start`. -/
def ofSpan (whole chars : List Char) (start : Nat) (d : Directive) :
    Except DirectiveFault Directive :=
  match find? chars start fun c => c = ']' || c = '\x7b' with
  | none => .error .malformed
  | some stop =>
    if chars[stop]? = some ']' then afterSpan whole chars (stop + 1) { d with isOfSpans := true }
    else
      match find? chars stop (· = '\x7d') with
      | none => .error .malformed
      | some close => do
        let d := { d with isOfSpans := start ≠ stop }
        let d ← d.withField (cut whole chars (stop + 1) close)
        if chars[close + 1]? = some ']' then afterSpan whole chars (close + 2) d
        else throw .malformed

/-- Whether a directive may begin with a character. -/
def mayBegin (c : Char) : Bool := Text.isAlphanumeric c || c ∈ ['-', ':', '_']

/-- A text without the white space at its two ends. -/
def trimmed (whole : List Char) : List Char :=
  ((whole.dropWhile Text.isBlank).reverse.dropWhile Text.isBlank).reverse

def parse (text : String) : Except DirectiveFault Directive :=
  let whole := text.toList
  let chars := trimmed whole
  match chars with
  | [] => .error .malformed
  | '[' :: _ => ofSpan whole chars 1 everything
  | first :: _ =>
    if !mayBegin first then .error .malformed
    else
      match find? chars 1 fun c => c = '=' || c = '[' with
      | none => .ok (ofWord text)
      | some stop =>
        let d := { everything with target := some (cut whole chars 0 stop) }
        if chars[stop]? = some '[' then ofSpan whole chars (stop + 1) d
        else do return { d with level := ← levelOf (cutFrom whole chars (stop + 1)) }

/-- Whether a directive speaks of records of a target that have such fields. -/
def speaksOf (d : Directive) (target : String) (fields : List String) : Bool :=
  !d.isOfSpans && target.startsWith (d.target.getD "") && d.field.all (· ∈ fields)

/-- How much of a target a directive asks for. -/
def targetSize (d : Directive) : Nat := d.target.elim 0 (·.utf8ByteSize + 1)

/-- Whether a name does not come behind another in the order of their characters. -/
def isUpTo : List Char → List Char → Bool
  | [], _ => true
  | _ :: _, [] => false
  | a :: as, b :: bs => a.toNat < b.toNat || a = b && isUpTo as bs

/-- Whether `d`, which comes later, decides rather than `b` where both speak of a record. -/
def outweighs (d b : Directive) : Bool :=
  b.targetSize < d.targetSize || b.targetSize = d.targetSize &&
    match b.field, d.field with
    | none, _ => true
    | some _, none => false
    | some first, some second => isUpTo first.toList second.toList

end Directive

/-- The directives of a filter, in order. -/
abbrev LogFilter := List Directive

namespace LogFilter

/-- What is logged when no directive is left. -/
def standard : LogFilter := [{ Directive.everything with level := some .error }]

/-- The directives of a text, one by one. -/
def directives (text : String) : List String :=
  (text.splitOn ",").filter fun s => !s.isEmpty

def orStandard (filter : LogFilter) : LogFilter := if filter.isEmpty then standard else filter

/-- The filter of a text, all of whose directives are understood. -/
def parse (text : String) : Except DirectiveFault LogFilter := do
  return orStandard (← (directives text).mapM Directive.parse)

/-- The directives of a text that are understood. -/
def parseLossy (text : String) : LogFilter :=
  orStandard ((directives text).filterMap fun s => (Directive.parse s).toOption)

/-- What is said about the directives that are not understood. -/
def complaints (text : String) : List String :=
  (directives text).filterMap fun s =>
    match Directive.parse s with
    | .error fault => some ("ignoring `" ++ s ++ "`: " ++ fault.message)
    | .ok _ => none

/-- The directive that decides on the records of a target that have such fields. -/
def decisive? (filter : LogFilter) (target : String) (fields : List String) :
    Option Directive :=
  (filter.filter (·.speaksOf target fields)).foldl (fun best d =>
    match best with
    | some b => if d.outweighs b then some d else some b
    | none => some d) none

/-- Whether a record is logged. -/
def allows (filter : LogFilter) (level : LogLevel) (target : String) (fields : List String) :
    Bool :=
  (filter.decisive? target fields).any fun d => LevelFilter.allows d.level level

end LogFilter
end PullStreams
