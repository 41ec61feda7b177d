/-
Byte sources over data at hand.

A `Cursor` is data with a position.  `OpenedSource` is the byte source over such a
cursor: opening one asks the cursor for its end to learn the length, goes back to
the start, and from then on keeps the length even when closed.  A closed source
refuses to seek and to read.
-/
import PullStreams.ByteSource

namespace PullStreams

/-- Data with a position, and what its operations may fail with. -/
structure Cursor where
  contents : Array UInt8
  /-- Where a seek to the end leads. -/
  endOffset : Nat
  position : Nat
  /-- The largest position that can be sought, where there is such a limit. -/
  lastOffset : Option Nat
  /-- The failure of a seek to the end. -/
  endFault : Option IoError
  /-- The failure of any other seek. -/
  startFault : Option IoError
  /-- The failure of a read. -/
  readFault : Option IoError

namespace Cursor

/-- Data in memory. -/
def ofBytes (contents : Array UInt8) : Cursor :=
  { contents, endOffset := contents.size, position := 0, lastOffset := none
    endFault := none, startFault := none, readFault := none }

/-- The largest offset that a file system of 4096-byte blocks counted in 32 bits allows. -/
def lastFileOffset : Nat := 0xffffffff * 4096

/-- The contents of a file. -/
def ofFile (contents : Array UInt8) : Cursor :=
  { ofBytes contents with lastOffset := some lastFileOffset }

/-- The largest offset that a file system allows in a directory. -/
def lastDirectoryOffset : Nat := 0x7fffffffffffffff

/-- A directory: it can be opened and sought, but not read. -/
def ofDirectory : Cursor :=
  { ofBytes #[] with
    endOffset := lastDirectoryOffset
    lastOffset := some lastDirectoryOffset
    readFault := some (.system .isADirectory) }

/-- Goes to the end and says where that is. -/
def seekEnd (c : Cursor) : Cursor × Except IoError Nat :=
  match c.endFault with
  | some e => (c, .error e)
  | none => ({ c with position := c.endOffset }, .ok c.endOffset)

def seekTo (c : Cursor) (offset : Nat) : Cursor × Except IoError Unit :=
  match c.startFault, c.lastOffset.any (· < offset) with
  | some e, _ => (c, .error e)
  | none, true => (c, .error (.system .invalidArgument))
  | none, false => ({ c with position := offset }, .ok ())

def read (c : Cursor) (count : Nat) : Cursor × Except IoError Bytes :=
  match c.readFault with
  | some e => (c, .error e)
  | none =>
    let bytes := (c.contents.extract c.position (c.position + count)).toList
    ({ c with position := c.position + bytes.length }, .ok bytes)

end Cursor

/-- A byte source over a cursor; the cursor is given back when the source is closed. -/
structure OpenedSource where
  cursor : Option Cursor
  length : Nat
  contentType : Option String

namespace OpenedSource

/-- Measures the cursor's data and puts it at the start. -/
def ofCursor (cursor : Cursor) (contentType : Option String) : Except IoError OpenedSource := do
  let (cursor, length) := cursor.seekEnd
  let length ← length
  let (cursor, moved) := cursor.seekTo 0
  moved
  return { cursor := some cursor, length, contentType }

/-- A source over data in memory. -/
def ofMemory (contents : Array UInt8) (contentType : Option String) : OpenedSource :=
  { cursor := some (.ofBytes contents), length := contents.size, contentType }

/-- What a closed source answers. -/
def closedFault : IoError := .custom .notConnected "byte source closed"

def seek (s : OpenedSource) (offset : Nat) : OpenedSource × Except IoError Unit :=
  match s.cursor with
  | none => (s, .error closedFault)
  | some cursor =>
    let (cursor, result) := cursor.seekTo offset
    ({ s with cursor := some cursor }, result)

def read (s : OpenedSource) (count : Nat) : OpenedSource × Except IoError Bytes :=
  match s.cursor with
  | none => (s, .error closedFault)
  | some cursor =>
    let (cursor, result) := cursor.read count
    ({ s with cursor := some cursor }, result)

instance : ByteSource OpenedSource where
  length s := .ok s.length
  seek := seek
  read := read
  contentType s := s.contentType
  close s := { s with cursor := none }

end OpenedSource

/-- The source that has nothing and does nothing. -/
structure EmptySource where

instance : ByteSource EmptySource where
  length _ := .ok 0
  seek s _ := (s, .ok ())
  read s _ := (s, .ok [])

end PullStreams
