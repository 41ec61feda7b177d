/-
The program.

It sees the files of the working directory that it may need as they are at the start,
and prints what the run comes to.
-/
import PullStreams.CommandLine
import Std.Time.Format

namespace PullStreams

/-- A failure of the operating system, by its code or what is missing from the code to zero. -/
def faultOfCode (code : UInt32) : SystemFault :=
  match (min code (0 - code)).toNat with
  | 13 => .accessDenied
  | 20 => .notADirectory
  | 21 => .isADirectory
  | 36 => .nameTooLong
  | 22 => .invalidArgument
  | _ => .noSuchEntry

/-- What a failed read of a path says about what lies there. -/
def nodeOfError : IO.Error → Except IoError FileNode
  | .noFileOrDirectory _ code _ | .permissionDenied _ code _ | .inappropriateType _ code _
  | .invalidArgument _ code _ | .otherError code _ =>
    match faultOfCode code with
    | .isADirectory => .ok .directory
    | fault => .error (.system fault)
  | e => .error (.custom .other (toString e))

/-- What lies at a path. -/
def lookAt (path : String) : IO (Except IoError FileNode) := do
  try
    let bytes ← IO.FS.readBinFile path
    return .ok (.file bytes.data)
  catch e => return nodeOfError e

/-- What lies at some paths; nothing lies at any other. -/
def filesAt (paths : List String) : IO Files := do
  let seen ← paths.mapM fun path => do return (path, ← lookAt path)
  return fun path => (seen.lookup path).getD (.error (.system .noSuchEntry))

/-- The present moment, for the log. -/
def timestamp : IO String := do
  return (← Std.Time.PlainDateTime.now).format "uuuu-MM-dd HH:mm:ss.SSS"

end PullStreams

open PullStreams in
/-- Runs the program on the arguments of the command line. -/
def main (arguments : List String) : IO UInt32 := do
  let files ← filesAt (Config.fileNames ++ arguments.take 1)
  let report := CommandLine.run files (← IO.getEnv "RUST_LOG") arguments
  for record in report.log do
    IO.print (record.render true (← timestamp))
  for complaint in report.complaints do
    IO.eprintln complaint
  return UInt32.ofNat report.exitCode
