/-
What the parties of a running source have to say, by cause.

A notice carries what its wording needs; `Notice.level`, `Notice.target` and
`Notice.message` give its severity, the part of the program that speaks and its
text.  Who says it is not part of the notice: `Said` pairs the two.
-/
import PullStreams.Error
import PullStreams.Log.Remark
import PullStreams.Media.Format
import PullStreams.Time.Duration

namespace PullStreams

/-- Who speaks. -/
inductive Party where
  /-- Whoever calls the source. -/
  | caller
  /-- The thread that executes commands. -/
  | executor
  /-- The thread that answers a backend's requests for bytes. -/
  | feeder
  /-- The thread that takes a container apart. -/
  | demuxer
  deriving DecidableEq, Repr

inductive Notice where
  | opened (mimeType : String) (size streams : Nat) (policy : String)
  | backendConnected (streams : Nat) (codes : List Nat)
  | shuttingDown
  | unknownSelection (id : UInt32)
  | exclusiveConflict (kind : MediaKind)
  | enableFailed (id : Nat) (e : SourceError)
  | disableFailed (id : Nat) (e : SourceError)
  | notBound (id : Nat)
  | seekFailed (time : Duration) (e : SourceError)
  | commandFailed (number : Nat) (name : String) (e : SourceError)
  | noBackendStream (logical : Nat) (kind : MediaKind)
  | bufferNotAllocated (size : Nat)
  | shortRead (offset wanted got : Nat)
  | readFailed (offset size : Nat) (e : IoError)
  /-- The feeder did not come to its end in good order. -/
  | feederBroke
  /-- Nor did the executor. -/
  | executorBroke
  | demuxConnected (size tracks : Nat)
  | demuxDisconnected
  | packetFailed (reason : String)
  /-- What the reader of a container had to remark. -/
  | remark (remark : Remark)
  /-- A line of the command line's own. -/
  | status (level : LogLevel) (text : String)
  deriving Repr

namespace Notice

def level : Notice → LogLevel
  | opened .. | backendConnected .. | shuttingDown | demuxConnected .. | demuxDisconnected =>
    .info
  | unknownSelection _ | exclusiveConflict _ | enableFailed .. | disableFailed .. | notBound _
  | seekFailed .. | commandFailed .. | noBackendStream .. | shortRead .. | readFailed ..
  | packetFailed _ | feederBroke | executorBroke => .warn
  | bufferNotAllocated _ => .error
  | remark r => r.level
  | status level _ => level

/-- The part of the program that speaks. -/
def target : Notice → String
  | status .. => "media_source"
  | opened .. | executorBroke => "media_source::source"
  | backendConnected .. | shuttingDown | unknownSelection _ | exclusiveConflict _
  | enableFailed .. | disableFailed .. | notBound _ | seekFailed .. =>
    "media_source::source::state"
  | commandFailed .. => "media_source::source::command"
  | noBackendStream .. => "media_source::source::mapper"
  | bufferNotAllocated _ | shortRead .. | readFailed .. | feederBroke =>
    "media_source::source::read_thread"
  | demuxConnected .. | demuxDisconnected => "media_source::backend::demux"
  | packetFailed _ => "media_source::backend::demux::worker"
  | remark r => r.target

def message : Notice → String
  | opened mimeType size streams policy =>
    "MediaSource: opened " ++ mimeType ++ " (" ++ toString size ++ " bytes, " ++
      toString streams ++ " stream(s), " ++ policy ++ " ordering)"
  | backendConnected streams codes =>
    "MediaSource: backend connected, " ++ toString streams ++ " stream(s), map " ++
      Text.bracketed (codes.map toString)
  | shuttingDown => "MediaSource: shutting down"
  | unknownSelection id =>
    "MediaSource: ignoring selection of unknown stream " ++ toString id.toNat
  | exclusiveConflict kind =>
    "MediaSource: more than one exclusive " ++ kind.text ++ " stream selected"
  | enableFailed id e =>
    "MediaSource: failed to enable stream " ++ toString id ++ ": " ++ e.message
  | disableFailed id e =>
    "MediaSource: failed to disable stream " ++ toString id ++ ": " ++ e.message
  | notBound id => "MediaSource: stream " ++ toString id ++ " is not bound to the backend"
  | seekFailed time e =>
    "MediaSource: backend seek to " ++ time.text ++ " failed: " ++ e.message
  | commandFailed number name e =>
    "MediaSource: command #" ++ toString number ++ " (" ++ name ++ ") failed: " ++ e.message
  | noBackendStream logical kind =>
    "StreamMapper: no backend stream for logical stream " ++ toString logical ++
      " (" ++ kind.text ++ ")"
  | bufferNotAllocated size =>
    "ReadThread: failed to allocate " ++ toString size ++ " bytes"
  | shortRead offset wanted got =>
    "ReadThread: short read at " ++ toString offset ++ ": wanted " ++ toString wanted ++
      " bytes, got " ++ toString got
  | readFailed offset size e =>
    "ReadThread: failed to read " ++ toString size ++ " bytes at " ++ toString offset ++
      ": " ++ e.message
  | feederBroke => "ReadThread: thread panicked"
  | executorBroke => "MediaSource: command executor panicked"
  | demuxConnected size tracks =>
    "SymphoniaBackend: connected to " ++ toString size ++ " bytes, " ++ toString tracks ++
      " track(s)"
  | demuxDisconnected => "SymphoniaBackend: disconnected"
  | packetFailed reason => "Demux worker: failed to read packet: " ++ reason
  | remark r => r.message
  | status _ text => text

/-- Who says it, when `party` called the part that speaks.  A packet fails where the container is
taken apart, and there a container is opened too, unless a caller looks at it. -/
def speaker (party : Party) : Notice → Party
  | packetFailed _ => .demuxer
  | remark _ => if party = .caller then .caller else .demuxer
  | _ => party

/-- Whether a party of the source says it itself. -/
def isOwn : Notice → Bool
  | remark _ => false
  | _ => true

/-- What is recorded of it. -/
def fields : Notice → List String
  | remark _ => Remark.fields
  | _ => ["message"]

/-- The notice with its severity in front. -/
def line (n : Notice) : String := n.level.name ++ " " ++ n.message

end Notice

/-- A notice and who said it. -/
structure Said where
  party : Party
  notice : Notice
  deriving Repr

end PullStreams
