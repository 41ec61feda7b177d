/-
Runs of a session: any order of calls and of the executor's steps.

A call is one action and so are the executor's two steps, taking a command and
executing it: whoever holds the session acts alone.  A run is a list of actions, so
what holds after every list of actions holds however the parties take turns.

* `Session.act` — one action, and what its caller is told;
* `Session.run` — a list of them;
* `Session.Reachable` — what a session that was opened can come to.
-/
import PullStreams.Session.Calls

namespace PullStreams

/-- What one of the parties of a session does. -/
inductive Action (τ : Type) where
  | start (presentation : Presentation) (format : TimeFormat) (position : StartPosition)
  | pause
  | stop
  | shutdown
  | requestSample (stream : Nat) (token : Option τ)
  | setRate (thin : Bool) (rate : Number.Single)
  /-- A consumer takes an event of the source's queue, or tries to. -/
  | nextEvent
  | queueEvent (event : SourceEvent)
  | nextStreamEvent (stream : Nat)
  | queueStreamEvent (stream : Nat) (event : StreamEvent τ)
  /-- The backend asks for bytes outside its operations. -/
  | feed (request : ReadRequest)
  /-- The executor takes a command in hand. -/
  | take
  /-- The executor executes the command in hand. -/
  | execute

namespace Session

variable {σ β τ : Type} [ByteSource σ]

/-- The result of a call without its value. -/
def forget {α : Type} (r : Session σ β τ × Except SourceError α) :
    Session σ β τ × Except SourceError Unit :=
  (r.1, r.2.map fun _ => ())

/-- One action, and what its caller is told.  Steps of the executor and the feeder have nobody to
tell. -/
def act (E : Engine σ β) (s : Session σ β τ) :
    Action τ → Session σ β τ × Except SourceError Unit
  | .start presentation format position => s.start presentation format position
  | .pause => s.pause
  | .stop => s.stop
  | .shutdown => s.shutdown E
  | .requestSample stream token => s.requestSample stream token
  | .setRate thin rate => s.setRate thin rate
  | .nextEvent => forget s.nextEvent
  | .queueEvent event => s.queueEvent event
  | .nextStreamEvent stream => forget (s.nextStreamEvent stream)
  | .queueStreamEvent stream event => s.queueStreamEvent stream event
  | .feed request => ((s.feed request).1, .ok ())
  | .take => (s.take, .ok ())
  | .execute => (s.execute E, .ok ())

/-- The session after one action. -/
def step (E : Engine σ β) (s : Session σ β τ) (action : Action τ) : Session σ β τ :=
  (s.act E action).1

/-- The session after a list of actions. -/
def run (E : Engine σ β) (s : Session σ β τ) (actions : List (Action τ)) : Session σ β τ :=
  actions.foldl (step E) s

/-- What a session that was opened can come to. -/
inductive Reachable (E : Engine σ β) : Session σ β τ → Prop where
  | opened {config : SourceConfig} {source : σ} {s : Session σ β τ}
      (h : ofSource E config source = .ok s) : Reachable E s
  | step {s : Session σ β τ} (h : Reachable E s) (action : Action τ) : Reachable E (s.step E action)

@[simp] theorem run_nil (E : Engine σ β) (s : Session σ β τ) : s.run E [] = s := rfl

@[simp] theorem run_cons (E : Engine σ β) (s : Session σ β τ) (action : Action τ)
    (actions : List (Action τ)) :
    s.run E (action :: actions) = (s.step E action).run E actions := rfl

theorem run_append (E : Engine σ β) (s : Session σ β τ) (first second : List (Action τ)) :
    s.run E (first ++ second) = (s.run E first).run E second :=
  List.foldl_append

/-- A run leads from what can be come to, to what can be come to. -/
theorem Reachable.run {E : Engine σ β} {s : Session σ β τ} (h : Reachable E s)
    (actions : List (Action τ)) : Reachable E (s.run E actions) := by
  induction actions generalizing s with
  | nil => exact h
  | cons action actions ih => exact ih (h.step action)

end Session
end PullStreams
