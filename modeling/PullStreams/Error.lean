/-
What can go wrong, by cause.

`IoError` is a failure of reading or seeking; `SourceError` is what a media source,
its streams and its collaborators report.  A cause carries what its wording needs,
and the wording is in one place: `IoError.message`, `SourceError.message`.  The
longer form that a program prints when it gives up is `SourceError.report`.
-/
import PullStreams.Number.Shortest
import PullStreams.Text.Quoted

namespace PullStreams

/-- The category of an I/O failure. -/
inductive IoErrorKind where
  | notFound
  | permissionDenied
  | connectionAborted
  | notConnected
  | invalidInput
  | invalidData
  | timedOut
  | interrupted
  | unexpectedEof
  | notADirectory
  | isADirectory
  | invalidFilename
  | other
  deriving DecidableEq, Repr

namespace IoErrorKind

/-- The name of a category in reports. -/
def name : IoErrorKind → String
  | notFound => "NotFound"
  | permissionDenied => "PermissionDenied"
  | connectionAborted => "ConnectionAborted"
  | notConnected => "NotConnected"
  | invalidInput => "InvalidInput"
  | invalidData => "InvalidData"
  | timedOut => "TimedOut"
  | interrupted => "Interrupted"
  | unexpectedEof => "UnexpectedEof"
  | notADirectory => "NotADirectory"
  | isADirectory => "IsADirectory"
  | invalidFilename => "InvalidFilename"
  | other => "Other"

def all : List IoErrorKind :=
  [notFound, permissionDenied, connectionAborted, notConnected, invalidInput, invalidData,
    timedOut, interrupted, unexpectedEof, notADirectory, isADirectory, invalidFilename,
    other]

/-- The category of a given name. -/
def ofName? (s : String) : Option IoErrorKind := all.find? (·.name == s)

end IoErrorKind

/-- Failures that the operating system reports about files. -/
inductive SystemFault where
  | noSuchEntry
  | accessDenied
  | notADirectory
  | isADirectory
  | invalidArgument
  | nameTooLong
  deriving DecidableEq, Repr

namespace SystemFault

def code : SystemFault → Nat
  | noSuchEntry => 2
  | accessDenied => 13
  | notADirectory => 20
  | isADirectory => 21
  | invalidArgument => 22
  | nameTooLong => 36

def kind : SystemFault → IoErrorKind
  | noSuchEntry => .notFound
  | accessDenied => .permissionDenied
  | notADirectory => .notADirectory
  | isADirectory => .isADirectory
  | invalidArgument => .invalidInput
  | nameTooLong => .invalidFilename

def text : SystemFault → String
  | noSuchEntry => "No such file or directory"
  | accessDenied => "Permission denied"
  | notADirectory => "Not a directory"
  | isADirectory => "Is a directory"
  | invalidArgument => "Invalid argument"
  | nameTooLong => "File name too long"

end SystemFault

/-- A failure of reading or seeking. -/
inductive IoError where
  | system (fault : SystemFault)
  | custom (kind : IoErrorKind) (text : String)
  deriving DecidableEq, Repr

namespace IoError

def kind : IoError → IoErrorKind
  | system fault => fault.kind
  | custom kind _ => kind

/-- An interrupted read may simply be tried again. -/
def isInterrupted (e : IoError) : Bool := e.kind = .interrupted

def message : IoError → String
  | system fault => fault.text ++ " (os error " ++ toString fault.code ++ ")"
  | custom _ text => text

/-- The form with every part named. -/
def report : IoError → String
  | system fault =>
    "Os \x7b code: " ++ toString fault.code ++ ", kind: " ++ fault.kind.name ++
      ", message: " ++ Text.quoted fault.text ++ " \x7d"
  | custom kind text =>
    "Custom \x7b kind: " ++ kind.name ++ ", error: " ++ Text.quoted text ++ " \x7d"

end IoError

/-- What a media source, its streams and its collaborators report. -/
inductive SourceError where
  /-- The operation is not valid in the current phase. -/
  | wrongState
  /-- The stream has already signalled its end. -/
  | endOfStream
  /-- The source, or the queue, has been shut down. -/
  | shutdown
  /-- Only the default time format is accepted. -/
  | unsupportedTimeFormat
  /-- The bytes are in no container that is understood. -/
  | unsupportedFormat (reason : String)
  | allocationFailure (size : Nat)
  | io (cause : IoError)
  | notSeekable
  /-- A rate outside the supported range. -/
  | unsupportedRate (rate : Number.Single)
  | reverseUnsupported
  | thinningUnsupported
  /-- No stream has this id. -/
  | invalidStream (id : UInt32)
  | backend (reason : String)
  | config (reason : String)
  deriving DecidableEq, Repr

namespace SourceError

def message : SourceError → String
  | wrongState => "operation is not valid in the current state"
  | endOfStream => "stream has reached end of stream"
  | shutdown => "media source has been shut down"
  | unsupportedTimeFormat => "unsupported time format"
  | unsupportedFormat reason => "unsupported format: " ++ reason
  | allocationFailure size => "allocation of " ++ toString size ++ " bytes failed"
  | io cause => "I/O error: " ++ cause.message
  | notSeekable => "byte source is not seekable"
  | unsupportedRate rate => "unsupported playback rate " ++ rate.text
  | reverseUnsupported => "reverse playback is not supported"
  | thinningUnsupported => "thinned playback is not supported"
  | invalidStream id => "no stream with id " ++ toString id.toNat
  | backend reason => "backend error: " ++ reason
  | config reason => "configuration error: " ++ reason

/-- The name of a cause in reports. -/
def name : SourceError → String
  | wrongState => "WrongState"
  | endOfStream => "EndOfStream"
  | shutdown => "Shutdown"
  | unsupportedTimeFormat => "UnsupportedTimeFormat"
  | unsupportedFormat _ => "UnsupportedFormat"
  | allocationFailure _ => "AllocationFailure"
  | io _ => "Io"
  | notSeekable => "NotSeekable"
  | unsupportedRate _ => "UnsupportedRate"
  | reverseUnsupported => "ReverseUnsupported"
  | thinningUnsupported => "ThinningUnsupported"
  | invalidStream _ => "InvalidStream"
  | backend _ => "Backend"
  | config _ => "Config"

/-- What a cause carries, as reports show it. -/
def payload : SourceError → Option String
  | unsupportedFormat reason => some (Text.quoted reason)
  | allocationFailure size => some (toString size)
  | io cause => some cause.report
  | unsupportedRate rate => some rate.text
  | invalidStream id => some (toString id.toNat)
  | backend reason => some (Text.quoted reason)
  | config reason => some (Text.quoted reason)
  | _ => none

/-- The form with the cause named. -/
def report (e : SourceError) : String :=
  match e.payload with
  | some p => e.name ++ "(" ++ p ++ ")"
  | none => e.name

end SourceError
end PullStreams
