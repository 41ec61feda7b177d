/-
Byte sources that follow a script.

Such a source holds data and says beforehand how its calls turn out: how many bytes
a read gives at most, which reads fail, whether it claims another length than it
has.  Each read uses up one entry of the script; past its end reads give as much as
`chunk` allows.
-/
import PullStreams.ByteSource

namespace PullStreams

/-- How one read turns out. -/
inductive ReadTurn where
  /-- It gives so many bytes at most. -/
  | atMost (count : Nat)
  /-- It fails and does not move. -/
  | fails (e : IoError)
  deriving DecidableEq, Repr

structure ScriptedSource where
  contents : Array UInt8
  position : Nat
  /-- The length that is reported instead of the true one. -/
  claimed : Option Nat
  seekable : Bool
  contentType : Option String
  /-- The most bytes of a read that the script does not speak of. -/
  chunk : Option Nat
  lengthFault : Option IoError
  seekFault : Option IoError
  /-- What every read fails with, before the script is looked at. -/
  readFault : Option IoError
  script : List ReadTurn
  isClosed : Bool

namespace ScriptedSource

/-- A source over `contents` whose every call succeeds. -/
def ofContents (contents : Array UInt8) : ScriptedSource :=
  { contents, position := 0, claimed := none, seekable := true, contentType := none
    chunk := none, lengthFault := none, seekFault := none, readFault := none, script := []
    isClosed := false }

/-- What a closed source answers. -/
def closedFault : IoError := .custom .notConnected "closed"

/-- The failure of a call, if it fails: that of a closed source comes first. -/
def faultOr (s : ScriptedSource) (fault : Option IoError) : Option IoError :=
  if s.isClosed then some closedFault else fault

def length (s : ScriptedSource) : Except IoError Nat :=
  match s.faultOr s.lengthFault with
  | some e => .error e
  | none => .ok (s.claimed.getD s.contents.size)

def seek (s : ScriptedSource) (offset : Nat) : ScriptedSource × Except IoError Unit :=
  match s.faultOr s.seekFault with
  | some e => (s, .error e)
  | none => ({ s with position := offset }, .ok ())

/-- Gives at most `count` bytes from the current position on. -/
def give (s : ScriptedSource) (count : Nat) : ScriptedSource × Except IoError Bytes :=
  let bytes := (s.contents.extract s.position (s.position + count)).toList
  ({ s with position := s.position + bytes.length }, .ok bytes)

def read (s : ScriptedSource) (count : Nat) : ScriptedSource × Except IoError Bytes :=
  match s.faultOr s.readFault, s.script with
  | some e, _ => (s, .error e)
  | none, .fails e :: rest => ({ s with script := rest }, .error e)
  | none, .atMost most :: rest => { s with script := rest }.give (min count most)
  | none, [] => s.give (s.chunk.elim count (min count))

instance : ByteSource ScriptedSource where
  length := length
  seek := seek
  read := read
  isSeekable s := s.seekable
  contentType s := s.contentType
  close s := { s with isClosed := true }
  interruptions s := s.script.length

end ScriptedSource
end PullStreams
