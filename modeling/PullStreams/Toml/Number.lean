/-
Numbers, dates and the other values without quotes.

Such a value is one run of characters.  Digits may be grouped by single underscores.
A whole number has no needless leading zero and may be hexadecimal, octal or binary;
it fits 128 bits.  A floating-point number has a fraction, an exponent or both, and is
not larger than the 64-bit binary format can hold.
-/
import PullStreams.Media.Position
import PullStreams.Number.Power
import PullStreams.Toml.Value

namespace PullStreams.Toml

/-- The value of a digit to a base. -/
def digit? (base : Nat) (c : Char) : Option Nat :=
  (TimeFormat.hexDigit? c).filter (· < base)

/-- The values of digits that single underscores may group. -/
def grouped? (base : Nat) : List Char → Option (List Nat)
  | [] => none
  | [c] => (digit? base c).map ([·])
  | c :: '_' :: rest => do return (← digit? base c) :: (← grouped? base rest)
  | c :: rest => do return (← digit? base c) :: (← grouped? base rest)

/-- The number that digits stand for. -/
def ofDigits (base : Nat) (digits : List Nat) : Nat :=
  digits.foldl (fun n d => base * n + d) 0

/-- Digits without a needless leading zero. -/
def plainDigits? (chars : List Char) : Option (List Nat) := do
  let digits ← grouped? 10 chars
  if digits.head? = some 0 ∧ 1 < digits.length then none else some digits

/-- The sign of a number and what stands behind it. -/
def signed : List Char → Bool × List Char
  | '-' :: rest => (true, rest)
  | '+' :: rest => (false, rest)
  | chars => (false, chars)

/-- The number, where it fits 128 bits with a sign or without one. -/
def inWords (n : Int) : Option Int :=
  if -(Number.twoTo 127 : Int) ≤ n ∧ n < Number.twoTo 128 then some n else none

def integer? (chars : List Char) : Option Int :=
  match chars with
  | '0' :: 'x' :: rest => do inWords (ofDigits 16 (← grouped? 16 rest))
  | '0' :: 'o' :: rest => do inWords (ofDigits 8 (← grouped? 8 rest))
  | '0' :: 'b' :: rest => do inWords (ofDigits 2 (← grouped? 2 rest))
  | chars => do
    let (negative, chars) := signed chars
    let n := ofDigits 10 (← plainDigits? chars)
    inWords (if negative then -(n : Int) else n)

/-! ### Floating-point numbers -/

/-- The least number that rounds to no finite 64-bit binary number. -/
def overflowBound : Nat := Number.twoTo 1024 - Number.twoTo 970

/-- Whether the number of `digits` and a power of ten is too large. -/
def overflows (digits : List Nat) (power : Int) : Bool :=
  let n := ofDigits 10 digits
  let length := (toString n).length
  if n = 0 then false
  else if 310 < length + power then true
  else if length + power < 300 then false
  else
    decide (overflowBound * Number.tenTo (-power).toNat ≤ n * Number.tenTo power.toNat)

/-- What stands behind a mark, when one of the marks occurs. -/
def cutAt (isMark : Char → Bool) (chars : List Char) : List Char × Option (List Char) :=
  let before := chars.takeWhile (!isMark ·)
  match chars.dropWhile (!isMark ·) with
  | [] => (before, none)
  | _ :: rest => (before, some rest)

/-- An exponent; none means zero. -/
def exponent? : Option (List Char) → Option Int
  | none => some 0
  | some chars => do
    let (negative, chars) := signed chars
    let n := ofDigits 10 (← grouped? 10 chars)
    some (if negative then -(n : Int) else n)

/-- The digits of a fraction; none means no digits. -/
def fraction? : Option (List Char) → Option (List Nat)
  | none => some []
  | some chars => grouped? 10 chars

def isFloating (chars : List Char) : Bool :=
  let (_, chars) := signed chars
  let (before, exponent) := cutAt (fun c => c = 'e' || c = 'E') chars
  let (whole, fraction) := cutAt (· = '.') before
  String.ofList chars = "inf" || String.ofList chars = "nan" ||
    ((exponent.isSome || fraction.isSome) &&
      match plainDigits? whole, fraction? fraction, exponent? exponent with
      | some whole, some fraction, some exponent =>
        !overflows (whole ++ fraction) (exponent - fraction.length)
      | _, _, _ => false)

/-! ### Dates and times -/

/-- The number that exactly `count` digits at the front stand for, and the rest. -/
def front? (count : Nat) (chars : List Char) : Option (Nat × List Char) := do
  let digits ← (chars.take count).mapM (digit? 10)
  if digits.length = count then some (ofDigits 10 digits, chars.drop count) else none

def isLeapYear (year : Nat) : Bool :=
  year % 4 = 0 && (year % 100 ≠ 0 || year % 400 = 0)

def daysIn (year month : Nat) : Nat :=
  if month = 2 then (if isLeapYear year then 29 else 28)
  else if month ∈ [4, 6, 9, 11] then 30 else 31

/-- What stands behind a date at the front. -/
def afterDate? (chars : List Char) : Option (List Char) := do
  let (year, chars) ← front? 4 chars
  let '-' :: chars := chars | none
  let (month, chars) ← front? 2 chars
  let '-' :: chars := chars | none
  let (day, chars) ← front? 2 chars
  if 1 ≤ month ∧ month ≤ 12 ∧ 1 ≤ day ∧ day ≤ daysIn year month then some chars else none

/-- What stands behind seconds and their fraction at the front, if there are any. -/
def afterSeconds? : List Char → Option (List Char)
  | ':' :: chars => do
    let (seconds, chars) ← front? 2 chars
    if 60 < seconds then none
    else
      match chars with
      | '.' :: chars =>
        if (chars.takeWhile Char.isDigit).isEmpty then none
        else some (chars.dropWhile Char.isDigit)
      | chars => some chars
  | chars => some chars

/-- What stands behind hours and minutes at the front. -/
def afterMinutes? (chars : List Char) : Option (List Char) := do
  let (hours, chars) ← front? 2 chars
  let ':' :: chars := chars | none
  let (minutes, chars) ← front? 2 chars
  if hours ≤ 23 ∧ minutes ≤ 59 then some chars else none

/-- What stands behind a time of day at the front. -/
def afterTime? (chars : List Char) : Option (List Char) := do
  afterSeconds? (← afterMinutes? chars)

/-- Whether an offset from universal time, or nothing, stands there. -/
def isOffset : List Char → Bool
  | [] | ['Z'] | ['z'] => true
  | '+' :: chars | '-' :: chars => (afterMinutes? chars).any List.isEmpty
  | _ => false

/-- Whether characters are a date, a time of day or both. -/
def isDate (chars : List Char) : Bool :=
  match afterDate? chars with
  | none => (afterTime? chars).any List.isEmpty
  | some [] => true
  | some (c :: rest) => (c = 'T' || c = 't' || c = ' ') && (afterTime? rest).any isOffset

/-! ### All of them -/

/-- Whether a character may stand in a value without quotes.  A quote that is not in front begins
no text. -/
def isBare (c : Char) : Bool := c ∉ " \t\r\n#,=[]\x7b\x7d".toList

/-- The value without quotes that characters stand for. -/
def bareValue? (chars : List Char) : Option Value :=
  match String.ofList chars with
  | "true" => some (.truth true)
  | "false" => some (.truth false)
  | _ =>
    match integer? chars with
    | some n => some (.integer n)
    | none =>
      if isFloating chars then some .floating
      else if isDate chars then some .date
      else none

end PullStreams.Toml
