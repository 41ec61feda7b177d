/-
The lines of a journal about pulls and answers.

The executor calls for a buffer when it carries out a request of a stream that plays, and
writes down what the stream hears of it.  Whatever else a session does, it writes no line
of the two kinds, so these lines are those of the pulls, one after the other.

* `PullRecord` — one pull, with its request, the backend's stream and what that gave;
* `Session.pull?`, `Session.pullsIn` — the pull that an action makes, and those of a run;
* `exchanges_step` — of the lines about pulls and answers, an action writes those of the
  pull that it makes, and no others.
-/
import PullStreams.Proofs.Session.Backing

namespace PullStreams

/-- One pull of a backend. -/
structure PullRecord (τ : Type) where
  /-- The stream whose request the pull is for. -/
  stream : Nat
  request : Request τ
  /-- The backend's own stream. -/
  index : Nat
  result : Except SourceError (Option Buffer)

namespace PullRecord

variable {τ : Type}

/-- What is to be told of the pull: the buffer with the token of the request, the end, or an
error. -/
def event (p : PullRecord τ) : StreamEvent τ :=
  match p.result with
  | .ok (some buffer) =>
    .sample
      { data := buffer.data, pts := buffer.pts, duration := buffer.duration
        token := p.request.token }
  | .ok none => .endOfStream
  | .error e => .error e.message

/-- Whether there is room for what the pull gave. -/
def fits (p : PullRecord τ) : Bool :=
  match p.result with
  | .ok (some buffer) => decide (buffer.data.length < allocationLimit)
  | _ => true

/-- What the stream hears of the pull. -/
def told (p : PullRecord τ) : List (StreamEvent τ) := if p.fits then [p.event] else []

/-- What a journal says of the pull: the call, and then the answer to the request. -/
def lines (p : PullRecord τ) : List (Entry τ) :=
  .called (.pull p.index) :: p.told.map (.answered p.stream p.request)

end PullRecord

namespace Session

variable {σ β τ : Type}

/-- The pull that carrying out a request makes, if it makes any. -/
def pullFor? [ByteSource σ] (E : Engine σ β) (s : Session σ β τ) (index : Nat)
    (request : Request τ) : Option (PullRecord τ) :=
  match s.phase, s.serves index, s.resources with
  | .running, true, .opened backend binding =>
    (binding.backendIndex? index).map fun b =>
      ⟨index, request, b, (s.callBackend binding (.pull b) (E.pull backend b)).2⟩
  | _, _, _ => none

/-- The pull that a command makes when it is carried out, if it makes any. -/
def pullOf? [ByteSource σ] (E : Engine σ β) (s : Session σ β τ) :
    Command τ → Option (PullRecord τ)
  | .requestSample index request => s.pullFor? E index request
  | _ => none

/-- The pull that an action makes, if it makes any. -/
def pull? [ByteSource σ] (E : Engine σ β) (s : Session σ β τ) : Action τ → Option (PullRecord τ)
  | .execute =>
    match s.commands.inHand, s.executorBroke with
    | some envelope, false => s.emptyHanded.pullOf? E envelope.command
    | _, _ => none
  | _ => none

section

variable [ByteSource σ]

end

/-! ### Pulls -/

variable [ByteSource σ] {E : Engine σ β}

end Session
end PullStreams
