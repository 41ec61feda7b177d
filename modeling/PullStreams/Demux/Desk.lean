/-
The demultiplexing backend as many callers see it.

The worker is a thread of its own.  Callers who connect, pull or seek leave an order
and wait; the worker carries the orders out one after the other, posts its requests for
bytes and waits for the chunks.  Whoever feeds it takes the requests and pushes chunks.
Disconnecting posts the end of the requests, shuts the list of orders and the list of
chunks, and waits for the worker to come to its end: once the chunks that were pushed
before are used up, what it reads fails.  Of those who disconnect only the first waits.

* `Desk.move` — one call, or one step of the worker;
* `Desk.run` — a list of them, by any callers;
* `Desk.nextRequest?`, `Desk.push` — the feeder's side.
-/
import PullStreams.Demux.Backend

namespace PullStreams

/-- What a caller wants of the worker. -/
inductive Order where
  | pull (track : Nat)
  | seek (position : Duration)
  deriving DecidableEq, Repr

/-- What comes of an order. -/
inductive OrderAnswer where
  | pulled (result : Except SourceError (Option Buffer))
  | sought (result : Except SourceError Unit)

/-- What a caller is told. -/
inductive DeskAnswer where
  | connected (result : Except SourceError Unit)
  | marked (result : Except SourceError Unit)
  | pulled (result : Except SourceError (Option Buffer))
  | sought (result : Except SourceError Unit)
  /-- No request means that there will be none any more. -/
  | request (next : Option ReadRequest)

/-- What whoever left an order is told. -/
def OrderAnswer.told : OrderAnswer → DeskAnswer
  | pulled result => .pulled result
  | sought result => .sought result

/-- What is posted for those who take requests. -/
inductive Posted where
  | request (asked : ReadRequest)
  /-- Somebody has disconnected. -/
  | last
  deriving DecidableEq, Repr

def Posted.request? : Posted → Option ReadRequest
  | request asked => some asked
  | last => none

/-- What the worker does. -/
inductive Stage (ρ : Type) where
  | unborn
  /-- It opens the container; the caller waits for that. -/
  | opening (caller total : Nat) (task : Pull (RequestReader × OpenedContainer ρ))
  | idle (worker : Worker ρ) (input : RequestReader)
  | busy (caller : Nat) (task : Pull (RequestReader × Worker ρ × List Notice × OrderAnswer))
  | gone

structure Desk (ρ : Type) where
  stage : Stage ρ
  /-- Whether the worker has posted its request and waits for the chunk. -/
  isWaiting : Bool
  /-- Orders that wait for the worker, with their callers, oldest first. -/
  orders : List (Nat × Order)
  /-- Whether orders are taken. -/
  takesOrders : Bool
  tracks : List Track
  enabled : List Bool
  /-- Posted and not taken, oldest first. -/
  requests : List Posted
  /-- Pushed and not received, oldest first. -/
  chunks : List Chunk
  isDisconnected : Bool
  /-- Whether somebody has disconnected and waits for the worker to come to its end. -/
  isAwaited : Bool
  /-- Who was told what, oldest first. -/
  told : List (Nat × DeskAnswer)
  /-- What the backend and its worker said, oldest first. -/
  notices : List Notice

/-- A call with its caller, or a step of the worker. -/
inductive DeskMove where
  /-- Somebody connects, and gets a thread for the worker or does not. -/
  | connect (caller total : Nat) (thread : Except IoError Unit := .ok ())
  | enable (caller track : Nat)
  | disable (caller track : Nat)
  | order (caller : Nat) (order : Order)
  | nextRequest (caller : Nat)
  | push (chunk : Chunk)
  | disconnect
  | work

namespace Desk

variable {ρ : Type} [FormatReader ρ Reading]

def new : Desk ρ :=
  { stage := .unborn, isWaiting := false, orders := [], takesOrders := false, tracks := []
    enabled := [], requests := [], chunks := [], isDisconnected := false, isAwaited := false
    told := [], notices := [] }

def tell (d : Desk ρ) (caller : Nat) (answer : DeskAnswer) : Desk ρ :=
  { d with told := d.told ++ [(caller, answer)] }

def say (d : Desk ρ) (notices : List Notice) : Desk ρ :=
  { d with notices := d.notices ++ notices }

/-! ### The worker -/

/-- The worker has come to its end; whoever waits for that goes on. -/
def leave (d : Desk ρ) : Desk ρ :=
  let gone := { d with stage := .gone, isAwaited := false }
  if d.isAwaited then gone.say [.demuxDisconnected] else gone

/-- The computation that an order stands for. -/
def taskOf (enabled : List Bool) (worker : Worker ρ) (input : RequestReader) (order : Order) :
    Pull (RequestReader × Worker ρ × List Notice × OrderAnswer) :=
  RequestReader.run (match order with
    | .pull track => do
      let (worker, result) ← worker.pull enabled track
      return (worker, DemuxBackend.pullNotices result,
        .pulled (result.mapError PullFault.toError))
    | .seek position => do
      let (worker, result) ← worker.seek position
      return (worker, [], .sought (result.mapError DemuxBackend.seekFault))) input

/-- The container is opened, or is not. -/
def opened (d : Desk ρ) (caller total : Nat) (answer : RequestReader × OpenedContainer ρ) :
    Desk ρ :=
  let (input, container) := answer
  let d := d.say container.notices
  match container.result with
  | .error e =>
    (d.tell caller (.connected (.error (DemuxBackend.openingFault e)))).leave
  | .ok (reader, tracks) =>
    ({ d with
      stage := .idle (.ofReader reader tracks) input
      tracks
      enabled := tracks.map fun _ => false
      takesOrders := true }.say [.demuxConnected total tracks.length]).tell caller
      (.connected (.ok ()))

/-- The worker turns to the next order, or leaves when none will come. -/
def turn (d : Desk ρ) (worker : Worker ρ) (input : RequestReader) : Desk ρ :=
  match d.orders, d.takesOrders with
  | (caller, order) :: orders, _ =>
    { d with orders, stage := .busy caller (taskOf d.enabled worker input order) }
  | [], true => d
  | [], false => d.leave

/-- A worker at a request posts it, or receives a chunk and goes on with what `goOn` makes of it.
Without a chunk it waits as long as one may come. -/
def exchange (d : Desk ρ) (request : ReadRequest) (goOn : Option Chunk → Stage ρ) : Desk ρ :=
  match d.isWaiting, d.chunks, d.isDisconnected with
  | false, _, _ => { d with isWaiting := true, requests := d.requests ++ [Posted.request request] }
  | true, chunk :: chunks, _ => { d with isWaiting := false, chunks, stage := goOn (some chunk) }
  | true, [], true => { d with isWaiting := false, stage := goOn none }
  | true, [], false => d

/-- One step of the worker. -/
def work (d : Desk ρ) : Desk ρ :=
  match d.stage with
  | .unborn | .gone => d
  | .opening caller total (.done answer) => d.opened caller total answer
  | .opening caller total (.ask request resume) =>
    d.exchange request fun reply => .opening caller total (resume reply)
  | .idle worker input => d.turn worker input
  | .busy caller (.done (input, worker, notices, answer)) =>
    ({ d with stage := .idle worker input }.say notices).tell caller answer.told
  | .busy caller (.ask request resume) =>
    d.exchange request fun reply => .busy caller (resume reply)

/-! ### Calls -/

/-- Starts the worker, which no earlier call may have done. -/
def connect (opener : Reading (OpenedContainer ρ)) (d : Desk ρ)
    (caller total : Nat) (thread : Except IoError Unit) : Desk ρ :=
  match d.stage, thread with
  | .unborn, .ok () =>
    { d with stage := .opening caller total (RequestReader.run opener (.ofLength total)) }
  | .unborn, .error e => { d with stage := .gone }.tell caller (.connected (.error (.io e)))
  | _, _ => d.tell caller (.connected (.error DemuxBackend.alreadyConnected))

def mark (d : Desk ρ) (caller track : Nat) (on : Bool) : Desk ρ :=
  if track < d.enabled.length then
    { d with enabled := d.enabled.set track on }.tell caller (.marked (.ok ()))
  else d.tell caller (.marked (.error (.invalidStream (UInt32.ofNat track))))

/-- The answer to an order that nobody takes. -/
def refusal : Order → OrderAnswer
  | .pull _ => .pulled (.error DemuxBackend.notConnected)
  | .seek _ => .sought (.error DemuxBackend.notConnected)

def leaveOrder (d : Desk ρ) (caller : Nat) (order : Order) : Desk ρ :=
  if d.takesOrders then { d with orders := d.orders ++ [(caller, order)] }
  else d.tell caller (refusal order).told

/-- The next request for bytes; nothing while there is none.  A disconnected desk has none, and
says so. -/
def nextRequest? (d : Desk ρ) : Option (Desk ρ × Option ReadRequest) :=
  if d.isDisconnected then some (d, none)
  else
    match d.requests with
    | [] => none
    | posted :: requests => some ({ d with requests }, posted.request?)

/-- Pushes a chunk, if anybody may still receive it. -/
def push (d : Desk ρ) (chunk : Chunk) : Desk ρ :=
  if d.isDisconnected then d else { d with chunks := d.chunks ++ [chunk] }

/-- Shuts the desk.  The first who does waits for the worker, if there is one; a worker that waits
for orders is woken. -/
def disconnect (d : Desk ρ) : Desk ρ :=
  if d.isDisconnected then d
  else
    let d := { d with
      isDisconnected := true, takesOrders := false, requests := d.requests ++ [Posted.last] }
    match d.stage with
    | .unborn | .gone => d.say [.demuxDisconnected]
    | .idle worker input => { d with isAwaited := true }.turn worker input
    | .opening .. | .busy .. => { d with isAwaited := true }

/-- One move.  A caller who finds no request goes on waiting. -/
def move (opener : Reading (OpenedContainer ρ)) (d : Desk ρ) :
    DeskMove → Desk ρ
  | .connect caller total thread => d.connect opener caller total thread
  | .enable caller track => d.mark caller track true
  | .disable caller track => d.mark caller track false
  | .order caller order => d.leaveOrder caller order
  | .nextRequest caller =>
    match d.nextRequest? with
    | none => d
    | some (d, next) => d.tell caller (.request next)
  | .push chunk => d.push chunk
  | .disconnect => d.disconnect
  | .work => d.work

def run (opener : Reading (OpenedContainer ρ)) (d : Desk ρ)
    (moves : List DeskMove) : Desk ρ :=
  moves.foldl (move opener) d

end Desk
end PullStreams
