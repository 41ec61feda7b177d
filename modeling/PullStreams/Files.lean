/-
Files by path, as a program sees them when it starts.

`Files` is any answer to the question what lies at a path.  `FileTree.files` answers
it for a working directory whose contents are known: a path is followed name by name,
every name before the last one has to be a directory, two dots lead back, and a path
that ends in a stroke names a directory too.  Of what lies outside the working
directory nothing is known but the directories around it and the empty device.
-/
import PullStreams.ByteSource.Cursor

namespace PullStreams

/-- What lies at a path. -/
inductive FileNode where
  | file (contents : Array UInt8)
  /-- A device that is empty wherever it is read. -/
  | emptyDevice
  | directory

/-- What lies at each path, or why nothing can be had there. -/
abbrev Files := String → Except IoError FileNode

namespace FileNode

/-- The node opened for reading. -/
def cursor : FileNode → Cursor
  | file contents => .ofFile contents
  | emptyDevice => .ofBytes #[]
  | directory => .ofDirectory

/-- All that a file holds. -/
def readAll : FileNode → Except IoError (Array UInt8)
  | file contents => .ok contents
  | emptyDevice => .ok #[]
  | directory => .error (.system .isADirectory)

end FileNode

namespace Files

/-- A byte source over the file at a path. -/
def openSource (files : Files) (path : String) (contentType : Option String) :
    Except IoError OpenedSource := do
  OpenedSource.ofCursor (← files path).cursor contentType

/-- Whether anything lies at a path. -/
def exists? (files : Files) (path : String) : Bool := (files path).isOk

end Files

/-- The contents of a working directory: by path, a file or a directory. -/
abbrev FileTree := List (String × FileNode)

namespace FileTree

/-- The longest name of a file, in bytes. -/
def longestName : Nat := 255

/-- The longest path, in bytes. -/
def longestPath : Nat := 4095

/-- A directory on the way of a path. -/
inductive Place where
  /-- In the working directory, by the names that lead there. -/
  | inside (names : List String)
  /-- Around it. -/
  | around
  /-- By the names that lead there from the root of all directories. -/
  | system (names : List String)

/-- The directory that a directory lies in. -/
def Place.parent : Place → Place
  | .inside [] | .around => .around
  | .inside names => .inside names.dropLast
  | .system names => .system names.dropLast

/-- What is known to lie behind names that lead from the root. -/
def systemNode? : List String → Option FileNode
  | ["dev"] => some .directory
  | ["dev", "null"] => some .emptyDevice
  | _ => none

/-- What lies under a name in a directory, and the place of that. -/
def entry (tree : FileTree) (place : Place) (name : String) :
    Except IoError (FileNode × Place) :=
  if longestName < name.utf8ByteSize then .error (.system .nameTooLong)
  else
    let found := match place with
      | .around => none
      | .inside names =>
        let names := names ++ [name]
        (tree.lookup ("/".intercalate names)).map fun node => (node, Place.inside names)
      | .system names =>
        let names := names ++ [name]
        (systemNode? names).map fun node => (node, Place.system names)
    match found with
    | none => .error (.system .noSuchEntry)
    | some entry => .ok entry

/-- Follows the names of a path from a directory. -/
def follow (tree : FileTree) : Place → List String → Except IoError FileNode
  | _, [] => .ok .directory
  | place, name :: rest =>
    if name = ".." then follow tree place.parent rest
    else
      match tree.entry place name with
      | .error e => .error e
      | .ok (.directory, place) => follow tree place rest
      | .ok (node, _) => if rest.isEmpty then .ok node else .error (.system .notADirectory)

/-- The names of a path.  A dot names the directory it stands in. -/
def names (path : String) : List String :=
  (path.splitOn "/").filter fun name => !name.isEmpty && name != "."

/-- Whether the end of a path says that it is one of a directory. -/
def namesDirectory (path : String) : Bool :=
  match (path.splitOn "/").getLast? with
  | some last => last.isEmpty || last == "."
  | none => false

def files (tree : FileTree) : Files := fun path =>
  if path.contains '\x00' then
    .error (.custom .invalidInput "file name contained an unexpected NUL byte")
  else if path.isEmpty then .error (.system .noSuchEntry)
  else if longestPath < path.utf8ByteSize then .error (.system .nameTooLong)
  else
    let start : Place := if path.startsWith "/" then .system [] else .inside []
    match tree.follow start (names path), namesDirectory path with
    | .ok .directory, _ => .ok .directory
    | .ok _, true => .error (.system .notADirectory)
    | result, _ => result

end FileTree
end PullStreams
