/-
Configuration files.

The working directory is searched for files of two names, and the first that exists is
read, whatever it is.  Without either the standard configuration holds.
-/
import PullStreams.Config.Document
import PullStreams.Files
import PullStreams.Text.Blank

namespace PullStreams.Config

/-- Where a configuration is looked for, the first choice first. -/
def fileNames : List String := ["media-source.toml", "media-source.default.toml"]

/-- Why a file gives no text. -/
def notText : String := "stream did not contain valid UTF-8"

/-- The text of the file at a path. -/
def textAt (files : Files) (path : String) : Except SourceError String :=
  let fault (reason : String) : SourceError := .config (path ++ ": " ++ reason)
  match files path >>= FileNode.readAll with
  | .error e => .error (fault e.message)
  | .ok bytes =>
    match Bytes.toText? bytes.toList with
    | none => .error (fault notText)
    | some text => .ok text

/-- The configuration in the file at a path. -/
def ofFile (files : Files) (path : String) : Except SourceError Config := do
  let text ← textAt files path
  if Text.allBlank text then throw (.config (path ++ " is empty"))
  parse text

/-- The configuration of the working directory. -/
def load (files : Files) : Except SourceError Config :=
  match fileNames.find? files.exists? with
  | some path => ofFile files path
  | none => .ok standard

end PullStreams.Config
