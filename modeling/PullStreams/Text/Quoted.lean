/-
Texts as status lines and error reports quote them.

A quoted text stands in double quotes.  The quote and the backslash, the tab and
the two line ends and the zero character have a short escape; any other character
that does not show by itself is written `\u{…}` with its code point in
hexadecimal digits.
-/
import PullStreams.Text.Hidden

namespace PullStreams.Text

/-- The hexadecimal digits of a number, lowercase, without leading zeros. -/
def hex (n : Nat) : String := String.ofList (Nat.toDigits 16 n)

/-- A code point escape. -/
def codePointEscape (c : Char) : String :=
  "\\u\x7b" ++ hex c.toNat ++ "\x7d"

/-- One character of a quoted text. -/
def quotedChar (c : Char) : String :=
  match c with
  | '"' => "\\\""
  | '\\' => "\\\\"
  | '\t' => "\\t"
  | '\n' => "\\n"
  | '\r' => "\\r"
  | '\x00' => "\\0"
  | c => if isHidden c then codePointEscape c else c.toString

/-- A text in double quotes. -/
def quoted (s : String) : String :=
  "\"" ++ String.join (s.toList.map quotedChar) ++ "\""

/-- Items in square brackets, with a comma between them. -/
def bracketed (items : List String) : String :=
  "[" ++ ", ".intercalate items ++ "]"

/-- A text of fixed width at least: blanks follow a shorter one. -/
def padRight (width : Nat) (s : String) : String :=
  s ++ String.ofList (List.replicate (width - s.length) ' ')

end PullStreams.Text
