/-
Playing a file: what the program does with an opened session.

It describes the streams, starts those that are selected by default, asks each for a
number of samples one after the other, and says what it gets.  At the end the session
is stopped and shut down, also when something went wrong before.
-/
import PullStreams.CommandLine.Count
import PullStreams.Session.Calls

namespace PullStreams

/-- Why the program gives up. -/
inductive ProgramError where
  | count (fault : CountFault)
  | io (e : IoError)
  | source (e : SourceError)
  | startTimedOut
  | sampleTimedOut (id : UInt32)
  deriving DecidableEq, Repr

def ProgramError.report : ProgramError → String
  | .count fault => fault.report
  | .io e => e.report
  | .source e => e.report
  | .startTimedOut => Text.quoted "timed out waiting for the source to start"
  | .sampleTimedOut id =>
    Text.quoted ("stream " ++ toString id.toNat ++ ": timed out waiting for a sample")

namespace Playback

variable {σ β : Type} [ByteSource σ]

/-- A session whose tokens count the requests of a stream. -/
abbrev Player (σ β : Type) := Session σ β Nat

def inform (s : Player σ β) (text : String) : Player σ β :=
  s.say .caller (.status .info text)

/-- Says what a presentation holds. -/
def describe (path : String) (p : Presentation) (s : Player σ β) : Player σ β :=
  let head := path ++ ": " ++ p.mimeType ++ " (" ++ toString p.totalSize ++
    " bytes, duration " ++ Duration.optionText p.duration ++ ")"
  p.entries.foldl (fun s (d, selected) =>
    inform s ("  stream " ++ toString d.id.toNat ++ ": " ++ d.format.text ++ " lang=" ++
      d.language.getD "-" ++ " exclusive=" ++ toString d.mutuallyExclusive ++ " selected=" ++
      toString selected)) (inform s head)

/-- Takes events up to the start, `fuel` at most, and gives the streams that they announce. -/
def awaitStart : (fuel : Nat) → Player σ β → List UInt32 →
    Player σ β × Except ProgramError (List UInt32)
  | 0, s, _ => (s, .error .startTimedOut)
  | fuel + 1, s, ids =>
    match s.nextEvent with
    | (s, .error e) => (s, .error (.source e))
    | (s, .ok none) => (s, .error .startTimedOut)
    | (s, .ok (some (.newStream id))) | (s, .ok (some (.updatedStream id))) =>
      awaitStart fuel s (ids ++ [id])
    | (s, .ok (some (.started _))) => (s, .ok ids)
    | (s, .ok (some _)) => awaitStart fuel s ids

/-- What is said of a sample. -/
def sampleLine (id : UInt32) (sample : Sample Nat) : String :=
  "stream " ++ toString id.toNat ++ " sample #" ++ toString (sample.token.getD 0) ++ ": " ++
    toString sample.data.length ++ " bytes pts=" ++ sample.pts.text ++ " duration=" ++
    sample.duration.text

/-- Takes a stream's events up to the answer of a request, `fuel` at most, and says whether the
stream goes on. -/
def awaitSample (index : Nat) (id : UInt32) : (fuel : Nat) → Player σ β →
    Player σ β × Except ProgramError Bool
  | 0, s => (s, .error (.sampleTimedOut id))
  | fuel + 1, s =>
    let place := "stream " ++ toString id.toNat ++ ": "
    match s.nextStreamEvent index with
    | (s, .error e) => (s, .error (.source e))
    | (s, .ok none) => (s, .error (.sampleTimedOut id))
    | (s, .ok (some (.sample sample))) => (inform s (sampleLine id sample), .ok true)
    | (s, .ok (some .endOfStream)) => (inform s (place ++ "end of stream"), .ok false)
    | (s, .ok (some (.error message))) =>
      (s.say .caller (.status .warn (place ++ message)), .ok false)
    | (s, .ok (some _)) => awaitSample index id fuel s

/-- How many events wait at a stream's queue. -/
def pendingAt (s : Player σ β) (index : Nat) : Nat :=
  (s.streams[index]?.map (·.events.pending.length)).getD 0

/-- Asks a stream for `remaining` samples, the first of which has the number `count`. -/
def playStream (E : Engine σ β) (index : Nat) (id : UInt32) :
    (remaining count : Nat) → Player σ β → Player σ β × Except ProgramError Unit
  | 0, _, s => (s, .ok ())
  | remaining + 1, count, s =>
    match s.requestSample index (some count) with
    | (s, .error e) => (inform s ("stream " ++ toString id.toNat ++ ": " ++ e.message), .ok ())
    | (s, .ok ()) =>
      let s := s.settle E
      match awaitSample index id (pendingAt s index + 1) s with
      | (s, .error e) => (s, .error e)
      | (s, .ok false) => (s, .ok ())
      | (s, .ok true) => playStream E index id remaining (count + 1) s

/-- Plays streams one after the other. -/
def playStreams (E : Engine σ β) (samples : Nat) :
    List UInt32 → Player σ β → Player σ β × Except ProgramError Unit
  | [], s => (s, .ok ())
  | id :: ids, s =>
    match s.streamIndex id with
    | .error e => (s, .error (.source e))
    | .ok index =>
      match playStream E index id samples 0 s with
      | (s, .error e) => (s, .error e)
      | (s, .ok ()) => playStreams E samples ids s

/-- What is said when all streams have ended. -/
def presentationEndLine : String := "end of presentation"

/-- Says which of the pending events is the end of the presentation, and takes them all. -/
def drainEvents (s : Player σ β) : Player σ β :=
  let ends := s.events.pending.filter (· == .endOfPresentation)
  ends.foldl (fun s _ => inform s presentationEndLine)
    { s with events := { s.events with pending := [] } }

/-- Everything up to the stop. -/
def play (E : Engine σ β) (path : String) (samples : Nat) (s : Player σ β) :
    Player σ β × Except ProgramError Unit :=
  match s.presentation with
  | .error e => (s, .error (.source e))
  | .ok p =>
    match (describe path p s).start p .default .current with
    | (s, .error e) => (s, .error (.source e))
    | (s, .ok ()) =>
      let s := s.settle E
      match awaitStart (s.events.pending.length + 1) s [] with
      | (s, .error e) => (s, .error e)
      | (s, .ok ids) =>
        match playStreams E samples ids s with
        | (s, .error e) => (s, .error e)
        | (s, .ok ()) => (((drainEvents s).stop.1).settle E, .ok ())

/-- Plays a session and shuts it down. -/
def run (E : Engine σ β) (path : String) (samples : Nat) (s : Player σ β) :
    Player σ β × Except ProgramError Unit :=
  let (s, result) := play E path samples s
  ((s.letGo E).settle E, result)

end Playback
end PullStreams
