/-
Values of TOML documents.

Nothing looks at how large a floating-point number is or at when a date is, so these
carry nothing.
-/

namespace PullStreams.Toml

inductive Value where
  | text (s : String)
  | integer (n : Int)
  | floating
  | truth (b : Bool)
  | date
  | list (items : List Value)
  | table (fields : List (String × Value))
  deriving Repr

/-- The fields of a table, in the order of the document. -/
abbrev Fields := List (String × Value)

namespace Value

def text? : Value → Option String
  | text s => some s
  | _ => none

def integer? : Value → Option Int
  | integer n => some n
  | _ => none

def list? : Value → Option (List Value)
  | list items => some items
  | _ => none

/-- The fields of a value that counts as a table.  A date is one without any known field. -/
def fields? : Value → Option Fields
  | table fields => some fields
  | date => some []
  | _ => none

end Value
end PullStreams.Toml
