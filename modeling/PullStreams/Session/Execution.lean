/-
Executing commands, and shutting down.

The executor carries out one command at a time.  A command that fails changes
nothing but what it says itself, and the failure is logged with the command's number
and name.  After the shutdown what is left in the queue is taken out and given up.

A feeder that cannot be called by its name makes the executor break off at the first
start that would need it.  From then on the queue takes no command, and what it holds
is given up as after the shutdown.

* `Session.settle` — lets the executor work until no command waits.
-/
import PullStreams.Session.Delivery
import PullStreams.Session.Start

namespace PullStreams.Session

variable {σ β τ : Type}

/-! ### Pausing and stopping -/

def runPause (s : Session σ β τ) : Session σ β τ × Except SourceError Unit :=
  match s.phase with
  | .running => ({ s.announceActive .paused with phase := .paused }.post .paused, .ok ())
  | _ => (s, .error .wrongState)

def runStop (s : Session σ β τ) : Session σ β τ × Except SourceError Unit :=
  match s.phase with
  | .running | .paused =>
    ({ s.announceActive .stopped with phase := .stopped }.dropDeferred.post .stopped, .ok ())
  | _ => (s, .error .wrongState)

/-! ### Shutting down -/

/-- Lets the backend go, if there is one. -/
def releaseResources (E : Engine σ β) (s : Session σ β τ) : Session σ β τ :=
  let s := match s.resources with
    | .opened backend _ => s.releaseBackend E .caller backend
    | _ => s
  { s with resources := .released }

/-- Gives the byte source back. -/
def closeSource [ByteSource σ] (s : Session σ β τ) : Session σ β τ :=
  { s with feeder := { s.feeder with source := ByteSource.close s.feeder.source } }.noteCall .close

/-- Shuts every event queue and deactivates every stream. -/
def shutQueues (s : Session σ β τ) : Session σ β τ :=
  let s := s.dropDeferred
  { s with
    events := s.events.shutdown
    streams := s.streams.map fun stream =>
      { stream with isActive := false, events := stream.events.shutdown } }

/-- Waits until the executor has come to its end, if it has not broken off. -/
def joinExecutor (s : Session σ β τ) : Session σ β τ :=
  if s.executorBroke then s.say .caller .executorBroke else s

/-- Lets everything go, for good. -/
def shutdown [ByteSource σ] (E : Engine σ β) (s : Session σ β τ) :
    Session σ β τ × Except SourceError Unit :=
  if s.phase = .shutdown then (s, .error .shutdown)
  else
    let s := { s.say .caller .shuttingDown with phase := .shutdown }
    let s := (s.releaseResources E).closeSource.shutQueues
    ({ s with commands := s.commands.close }.joinExecutor, .ok ())

/-- Shuts down a session that nobody holds any more, unless that was done. -/
def letGo [ByteSource σ] (E : Engine σ β) (s : Session σ β τ) : Session σ β τ :=
  (s.shutdown E).1

/-! ### The executor -/

/-- Carries out a command. -/
def perform [ByteSource σ] (E : Engine σ β) (s : Session σ β τ) :
    Command τ → Session σ β τ × Except SourceError Unit
  | .start presentation format position => s.runStart E presentation format position
  | .pause => s.runPause
  | .stop => s.runStop
  | .requestSample stream request => s.runRequest E stream request

/-- Gives up a command that comes too late. -/
def discard (s : Session σ β τ) (command : Command τ) : Session σ β τ :=
  match command.request? with
  | some (stream, request) => s.drop stream request
  | none => s

/-- Takes the oldest command in hand. -/
def take (s : Session σ β τ) : Session σ β τ := { s with commands := s.commands.take }

/-- The new backend at which the executor breaks off, if the command makes it do so. -/
def stumble? (E : Engine σ β) (s : Session σ β τ) (command : Command τ) : Option β :=
  match command, s.resources, s.feederStart, E.create with
  | .start _ format _, .unopened, .unnameable, .ok backend =>
    if format.isDefault then some backend else none
  | _, _, _, _ => none

/-- The executor breaks off, with a new backend that it throws away. -/
def breakOff (E : Engine σ β) (s : Session σ β τ) (backend : β) : Session σ β τ :=
  { (s.noteCall .create).forgoBackend E backend with
    executorBroke := true
    commands := s.commands.close }

/-- Executes the command in hand. -/
def execute [ByteSource σ] (E : Engine σ β) (s : Session σ β τ) : Session σ β τ :=
  match s.commands.inHand with
  | none => s
  | some envelope =>
    let s := { s with commands := { s.commands with inHand := none } }
    if s.phase = .shutdown ∨ s.executorBroke then s.discard envelope.command
    else
      match s.stumble? E envelope.command with
      | some backend => s.breakOff E backend
      | none =>
        match s.perform E envelope.command with
        | (s, .ok ()) => s
        | (s, .error e) =>
          s.say .executor (.commandFailed envelope.number envelope.command.name e)

/-- Whether the executor has something to do. -/
def isBusy (s : Session σ β τ) : Bool :=
  s.commands.inHand.isSome || !s.commands.waiting.isEmpty

/-- Lets the executor carry out at most `fuel` commands. -/
def settleIn [ByteSource σ] (E : Engine σ β) : (fuel : Nat) → Session σ β τ → Session σ β τ
  | 0, s => s
  | fuel + 1, s => if s.isBusy then settleIn E fuel (s.take.execute E) else s

/-- A bound on the commands that are executed before the queue is empty: each start puts back at
most all requests there are. -/
def backlog (s : Session σ β τ) : Nat :=
  let waiting := s.commands.waiting.length + s.commands.inHand.toList.length
  (waiting + 1) * (waiting + s.deferredRequests.length + 1)

/-- Lets the executor work until no command waits. -/
def settle [ByteSource σ] (E : Engine σ β) (s : Session σ β τ) : Session σ β τ :=
  s.settleIn E s.backlog

end PullStreams.Session
