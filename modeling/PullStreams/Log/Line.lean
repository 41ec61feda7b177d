/-
Lines of the log.

A record is written as one line: when, how grave, which thread, which part of the
program and where in it, and then the message and its fields.  Lines for a terminal
are coloured.  Control characters of a message that could steer a terminal are written
as escapes.
-/
import PullStreams.Log.Notice

namespace PullStreams

/-- The value of a field that goes with a message. -/
inductive FieldValue where
  | text (s : String)
  | truth (b : Bool)
  | integer (n : Int)
  deriving DecidableEq, Repr

def FieldValue.written : FieldValue → String
  | .text s => Text.quoted s
  | .truth b => toString b
  | .integer n => toString n

/-- The value as a message of its own. -/
def FieldValue.spoken : FieldValue → String
  | .text s => s
  | value => value.written

structure LogRecord where
  level : LogLevel
  target : String
  /-- Where in its part of the program the record was made. -/
  line : Option Nat
  thread : String
  message : String
  fields : List (String × FieldValue)
  deriving Repr

/-- A code that steers a terminal; on plain lines there is none. -/
def terminalCode (isColoured : Bool) (code : Nat) : String :=
  if isColoured then "\x1b[" ++ toString code ++ "m" else ""

namespace LogLevel

/-- The colour of a severity on a terminal. -/
def colour : LogLevel → Nat
  | error => 31
  | warn => 33
  | info => 32
  | debug => 34
  | trace => 35

end LogLevel

/-- One character of a message. -/
def messageChar (c : Char) : String :=
  match c with
  | '\x07' => "\\x07"
  | '\x08' => "\\x08"
  | '\x0c' => "\\x0c"
  | '\x1b' => "\\x1b"
  | '\x7f' => "\\x7f"
  | c => if 0x80 ≤ c.toNat ∧ c.toNat ≤ 0x9f then Text.codePointEscape c else c.toString

/-- A message without what could steer a terminal. -/
def messageText (s : String) : String := String.join (s.toList.map messageChar)

namespace LogRecord

def resetCode : Nat := 0
def boldCode : Nat := 1
def dimCode : Nat := 2
def italicCode : Nat := 3

/-- How long the longest name of a severity is. -/
def levelWidth : Nat := 5

/-- One field, with a blank before it.  One that is called message is written like the
message. -/
def fieldText (isColoured : Bool) (field : String × FieldValue) : String :=
  let code := terminalCode isColoured
  let name := if field.1.startsWith "r#" then (field.1.drop 2).toString else field.1
  if field.1 = "message" then " " ++ messageText field.2.spoken
  else
    " " ++ code italicCode ++ name ++ code resetCode ++ code dimCode ++ "=" ++ code resetCode ++
      field.2.written

/-- Fields whose names begin so belong to records that other loggers made, and are not shown. -/
def foreignField : String := "log."

/-- The message and the fields. -/
def content (isColoured : Bool) (r : LogRecord) : String :=
  messageText r.message ++
    String.join ((r.fields.filter fun f => !f.1.startsWith foreignField).map
      (fieldText isColoured))

/-- The record as a line, with its end. -/
def render (isColoured : Bool) (timestamp : String) (r : LogRecord) : String :=
  let code := terminalCode isColoured
  let place := r.target ++ ": " ++ r.line.elim "??" toString
  code dimCode ++ "[" ++ timestamp ++ "]" ++ code resetCode ++ " " ++
    code r.level.colour ++ code boldCode ++ Text.padRight levelWidth r.level.name ++
    code resetCode ++ " [" ++ r.thread ++ "] " ++
    code dimCode ++ place ++ code resetCode ++ " > " ++ r.content isColoured ++
    code resetCode ++ "\n"

end LogRecord
end PullStreams
