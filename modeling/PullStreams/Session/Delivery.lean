/-
Delivering samples.

A request that is executed while the session is paused is deferred; while it runs,
the backend's next buffer of the stream answers it.  An exhausted backend ends the
stream, and when every active stream has ended, the presentation has ended too,
which is announced once.  Requests of streams that are not active or have ended are
given up.
-/
import PullStreams.Session

namespace PullStreams.Session

variable {σ β τ : Type}

/-- A buffer as the answer to a request. -/
def sampleOf (buffer : Buffer) (request : Request τ) : Sample τ :=
  { data := buffer.data, pts := buffer.pts, duration := buffer.duration, token := request.token }

/-- Whether all active streams have ended. -/
def allEnded (s : Session σ β τ) : Bool :=
  s.streams.all fun stream => !stream.isActive || stream.hasEnded

/-- Announces the end of the presentation, unless that was done or a stream goes on. -/
def endPresentation (s : Session σ β τ) : Session σ β τ :=
  if !s.presentationEnded && s.allEnded then
    { s with presentationEnded := true }.post .endOfPresentation
  else s

/-- Answers a request with the end of its stream. -/
def endStream (s : Session σ β τ) (index : Nat) (request : Request τ) : Session σ β τ :=
  ((s.updateStream index fun stream => { stream with hasEnded := true }).answer index request
    .endOfStream).endPresentation

/-- Answers a request with what a pull of its stream gave. -/
def answerWith (s : Session σ β τ) (index : Nat) (request : Request τ) :
    Except SourceError (Option Buffer) → Session σ β τ × Except SourceError Unit
  | .ok (some buffer) =>
    if allocationLimit ≤ buffer.data.length then
      (s.drop index request, .error (.allocationFailure buffer.data.length))
    else (s.answer index request (.sample (sampleOf buffer request)), .ok ())
  | .ok none => (s.endStream index request, .ok ())
  | .error e => (s.answer index request (.error e.message), .error e)

/-- Pulls the backend for a request. -/
def deliver [ByteSource σ] (E : Engine σ β) (s : Session σ β τ) (index : Nat)
    (request : Request τ) : Session σ β τ × Except SourceError Unit :=
  match s.resources with
  | .opened backend binding =>
    match binding.backendIndex? index with
    | none => (s.drop index request, .error (.invalidStream (streamIdAt index)))
    | some b =>
      let (s, result) := s.callBackend binding (.pull b) (E.pull backend b)
      s.answerWith index request result
  | _ => (s.drop index request, .error .wrongState)

/-- Whether a stream's requests are answered. -/
def serves (s : Session σ β τ) (index : Nat) : Bool :=
  (s.streams[index]?.map (·.isServed)).getD false

/-- Puts a request off until the session goes on. -/
def defer (s : Session σ β τ) (index : Nat) (request : Request τ) : Session σ β τ :=
  s.updateStream index fun stream => { stream with deferred := stream.deferred ++ [request] }

/-- Executes a request. -/
def runRequest [ByteSource σ] (E : Engine σ β) (s : Session σ β τ) (index : Nat)
    (request : Request τ) : Session σ β τ × Except SourceError Unit :=
  match s.phase with
  | .paused => (s.defer index request, .ok ())
  | .running =>
    if s.serves index then s.deliver E index request else (s.drop index request, .ok ())
  | .stopped | .shutdown => (s.drop index request, .ok ())

end PullStreams.Session
