/-
Tokens: marks of the caller's own that a sample request carries and that the
delivered sample brings back.

Two tokens are the same when they stem from one making, whatever they hold; a copy
is the same token.  The contents can be looked at only as the type that they were
made with.
-/

namespace PullStreams

/-- The contents of a token. -/
inductive TokenContent where
  | word (value : UInt32)
  | integer (value : Int)
  | text (value : String)
  deriving DecidableEq, Repr

namespace TokenContent

def asWord? : TokenContent → Option UInt32
  | word value => some value
  | _ => none

def asInteger? : TokenContent → Option Int
  | integer value => some value
  | _ => none

def asText? : TokenContent → Option String
  | text value => some value
  | _ => none

end TokenContent

/-- A caller's mark: which making it stems from, and what it holds. -/
structure Token where
  making : Nat
  content : TokenContent
  deriving DecidableEq, Repr

namespace Token

/-- Whether two tokens stem from one making. -/
def sameAs (a b : Token) : Bool := a.making = b.making

/-- A new token, to stand after those made so far. -/
def make (made : List Token) (content : TokenContent) : Token :=
  ⟨made.foldl (fun next token => max next (token.making + 1)) 0, content⟩

/-- How each pair of tokens compares. -/
def sameMatrix (tokens : List Token) : List (List Bool) :=
  tokens.map fun a => tokens.map a.sameAs

end Token
end PullStreams
