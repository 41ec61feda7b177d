/-
The calls that consumers make.

A call is checked against the session as it is when the call is made.  What passes
becomes a command with a number of its own; what fails changes nothing, except that a
command which the queue refuses has used its number up.  The rate needs no command: it
changes at once, and the next move of the backend uses it.
-/
import PullStreams.Session.Execution

namespace PullStreams.Session

variable {σ β τ : Type}

/-- Submits a command of a session that is alive. -/
def submit (s : Session σ β τ) (command : Command τ) : Session σ β τ × Except SourceError Unit :=
  let (commands, result) := s.commands.submit command
  ({ s with commands }, result)

def start (s : Session σ β τ) (presentation : Presentation) (format : TimeFormat)
    (position : StartPosition) : Session σ β τ × Except SourceError Unit :=
  if s.phase = .shutdown then (s, .error .shutdown)
  else if format.isDefault then s.submit (.start presentation format position)
  else (s, .error .unsupportedTimeFormat)

/-- Only a running session can be paused. -/
def pause (s : Session σ β τ) : Session σ β τ × Except SourceError Unit :=
  match s.phase with
  | .shutdown => (s, .error .shutdown)
  | .running => s.submit .pause
  | _ => (s, .error .wrongState)

def stop (s : Session σ β τ) : Session σ β τ × Except SourceError Unit :=
  if s.phase = .shutdown then (s, .error .shutdown) else s.submit .stop

/-- Accepts a request, if the command queue does. -/
def acceptRequest (s : Session σ β τ) (index : Nat) (token : Option τ) :
    Session σ β τ × Except SourceError Unit :=
  let request : Request τ := ⟨s.commands.nextNumber, token⟩
  match s.submit (.requestSample index request) with
  | (s, .ok ()) => (s.record (.accepted index request), .ok ())
  | (s, .error e) => (s, .error e)

/-- Asks for the next sample of a stream.  The sample will carry `token`. -/
def requestSample (s : Session σ β τ) (index : Nat) (token : Option τ) :
    Session σ β τ × Except SourceError Unit :=
  match s.phase, s.streams[index]? with
  | .shutdown, _ => (s, .error .shutdown)
  | _, none => (s, .error .wrongState)
  | _, some stream =>
    if !stream.isActive then (s, .error .wrongState)
    else if stream.hasEnded then (s, .error .endOfStream)
    else s.acceptRequest index token

/-! ### The rate -/

def slowestRate : Number.Single := .zero

/-- The largest rate, one million. -/
def fastestRate : Number.Single := ⟨0x49742400⟩

/-- The fastest rate in a direction. -/
def fastest (inReverse : Bool) : Number.Single :=
  if inReverse then fastestRate.negate else fastestRate

/-- The rate itself, where it is in range. -/
def supportedRate (rate : Number.Single) : Except SourceError Number.Single :=
  if rate.isNaN || rate.exceeds fastestRate then .error (.unsupportedRate rate) else .ok rate

/-- Why a rate cannot be set on any session. -/
def rateFault? (thin : Bool) (rate : Number.Single) : Option SourceError :=
  if rate.isBelowZero then some .reverseUnsupported
  else if thin then some .thinningUnsupported
  else
    match supportedRate rate with
    | .error e => some e
    | .ok _ => none

/-- Sets the rate, and announces it. -/
def setRate (s : Session σ β τ) (thin : Bool) (rate : Number.Single) :
    Session σ β τ × Except SourceError Unit :=
  match rateFault? thin rate with
  | some e => (s, .error e)
  | none =>
    if s.phase = .shutdown then (s, .error .shutdown)
    else ({ s with rate }.post (.rateChanged rate), .ok ())

/-- The rate, with `false` because no samples are ever left out. -/
def currentRate (s : Session σ β τ) : Except SourceError (Bool × Number.Single) :=
  s.whileAlive (false, s.rate)

end PullStreams.Session
