/-
What failures leave alone.

A call that fails changes nothing at all as long as the executor works, and so does a wait
at a queue that comes to an error.  A command that fails is used up and leaves all else as
it was, with two exceptions: the first start that cannot open the backend keeps the reason,
and a stream hears of the pull that failed for it.  Only a backend that was called has gone
on, and the journal has grown.

It is otherwise when the executor breaks off at a start.  The reason is not kept, the queue
takes nothing from then on, and a start or stop that it refuses uses a number up
(`PullStreams.Proofs.Session.Breaking`).

* `isClean_act`, `not_isClean_act` — the calls that change nothing, and those that do;
* `EventQueue.Monitor.FailsCleanly` — waits;
* `Leaves`, `leaves_perform` — all that a command can leave behind that fails;
* `failures_confined` — all of it, in every session that can be reached.
-/
import PullStreams.Proofs.Session.Breaking
import PullStreams.Proofs.Session.OpenedOnce
import PullStreams.Proofs.Session.Pulling
import PullStreams.Proofs.Session.Terminal

namespace PullStreams

namespace EventQueue

variable {α : Type} {e : SourceError}

/-- Only a queue that is shut down refuses, and it stays as it is. -/
theorem push_of_error {q : EventQueue α} {event : α} (h : (q.push event).2 = .error e) :
    (q.push event).1 = q := by
  unfold push at h ⊢
  split
  · rfl
  · next hopen =>
    rw [if_neg hopen] at h
    cases h

theorem tryNext_of_error {q : EventQueue α} (h : q.tryNext.2 = .error e) : q.tryNext.1 = q := by
  unfold tryNext at h ⊢
  split
  · rfl
  · next hopen =>
    rw [if_neg hopen] at h
    split at h <;> cases h

namespace Monitor

/-- Whoever comes to an error at the queue leaves its events as they were, whether it is told so at
once, after it was woken, or when its time is up. -/
structure FailsCleanly (m : Monitor α) : Prop where
  push : ∀ {event pick e}, (m.push event pick).2 = .error e → (m.push event pick).1.queue = m.queue
  tryNext : ∀ {e}, m.tryNext.2 = .error e → m.tryNext.1.queue = m.queue
  call : ∀ {consumer e}, (m.call consumer).2 = .answered (.error e) →
    (m.call consumer).1.queue = m.queue
  resume : ∀ {consumer e}, (m.resume consumer).2 = .answered (.error e) →
    (m.resume consumer).1.queue = m.queue
  timeOut : ∀ {consumer e}, (m.timeOut consumer).2 = .error e →
    (m.timeOut consumer).1.queue = m.queue

theorem queue_look_of_error {m : Monitor α} {consumer : Nat}
    (h : (m.look consumer).2 = .answered (.error e)) : (m.look consumer).1.queue = m.queue := by
  rcases look_cases m consumer with hanswered | ⟨_, _, hsleeps⟩
  · rw [hanswered] at h ⊢
    exact EventQueue.tryNext_of_error (Turn.answered.inj h)
  · rw [hsleeps]

theorem failsCleanly (m : Monitor α) : m.FailsCleanly where
  push {event pick e} h := by
    unfold push at h ⊢
    split
    · rfl
    · next hopen =>
      rw [if_neg hopen] at h
      cases h
  tryNext h := EventQueue.tryNext_of_error h
  call h := queue_look_of_error h
  resume h := queue_look_of_error h
  timeOut h := EventQueue.tryNext_of_error h

end Monitor
end EventQueue

theorem Resources.eq_failed_of_shape {β : Type} {r : Resources β} {message : String}
    (h : r.shape = .failed message) : r = .failed message := by
  cases r with
  | failed other => exact congrArg failed (failed.inj h)
  | _ => cases h

namespace Session

variable {σ β τ : Type}

/-! ### Calls -/

/-- What a call comes to, when its failure changes nothing. -/
def IsClean (s : Session σ β τ) (r : Session σ β τ × Except SourceError Unit) : Prop :=
  ∀ e, r.2 = .error e → r.1 = s

theorem isClean_same (s : Session σ β τ) (result : Except SourceError Unit) :
    s.IsClean (s, result) := fun _ _ => rfl

theorem isClean_ok (s t : Session σ β τ) : s.IsClean (t, .ok ()) := nofun

theorem isClean_submit {s : Session σ β τ} (hopen : s.commands.isOpen = true)
    (command : Command τ) : s.IsClean (s.submit command) := by
  rw [submit_eq, if_pos hopen]
  exact isClean_ok s _

theorem isClean_start {s : Session σ β τ} {presentation : Presentation} {format : TimeFormat}
    {position : StartPosition}
    (hopen : s.phase ≠ .shutdown → format.isDefault = true → s.commands.isOpen = true) :
    s.IsClean (s.start presentation format position) := by
  unfold start
  split
  · exact isClean_same s _
  · next halive =>
    split
    · next hformat => exact isClean_submit (hopen halive hformat) _
    · exact isClean_same s _

theorem isClean_pause {s : Session σ β τ} (hopen : s.phase = .running → s.commands.isOpen = true) :
    s.IsClean s.pause := by
  unfold pause
  split
  · exact isClean_same s _
  · next hrunning => exact isClean_submit (hopen hrunning) _
  · exact isClean_same s _

theorem isClean_stop {s : Session σ β τ} (hopen : s.phase ≠ .shutdown → s.commands.isOpen = true) :
    s.IsClean s.stop := by
  unfold stop
  split
  · exact isClean_same s _
  · next halive => exact isClean_submit (hopen halive) _

theorem isClean_requestSample {s : Session σ β τ} {index : Nat} {token : Option τ}
    (hopen : s.phase ≠ .shutdown → s.serves index = true → s.commands.isOpen = true) :
    s.IsClean (s.requestSample index token) := by
  obtain ⟨e, hsame⟩ | ⟨halive, hserves, haccept⟩ := requestSample_cases s index token
  · rw [hsame]
    exact isClean_same s _
  · rw [haccept, acceptRequest_eq, if_pos (hopen halive hserves)]
    exact isClean_ok s _

theorem isClean_setRate (s : Session σ β τ) (thin : Bool) (rate : Number.Single) :
    s.IsClean (s.setRate thin rate) := by
  unfold setRate
  split
  · exact isClean_same s _
  · split
    · exact isClean_same s _
    · exact isClean_ok s _

theorem isClean_shutdown [ByteSource σ] (E : Engine σ β) (s : Session σ β τ) :
    s.IsClean (s.shutdown E) := by
  unfold shutdown
  split
  · exact isClean_same s _
  · exact isClean_ok s _

theorem isClean_forget {α : Type} {s : Session σ β τ} {r : Session σ β τ × Except SourceError α}
    (h : ∀ e, r.2 = .error e → r.1 = s) : s.IsClean (forget r) := by
  intro e herror
  obtain ⟨t, result⟩ := r
  cases result with
  | error e' => exact h e' rfl
  | ok a => cases herror

theorem isClean_nextEvent (s : Session σ β τ) : s.IsClean (forget s.nextEvent) := by
  refine isClean_forget fun e herror => ?_
  have hsame : s.events.tryNext.1 = s.events := EventQueue.tryNext_of_error herror
  calc s.nextEvent.1 = { s with events := s.events.tryNext.1 } := rfl
    _ = s := by rw [hsame]

theorem isClean_queueEvent (s : Session σ β τ) (event : SourceEvent) :
    s.IsClean (s.queueEvent event) := by
  intro e herror
  have hsame : (s.events.push event).1 = s.events := EventQueue.push_of_error herror
  calc (s.queueEvent event).1 = { s with events := (s.events.push event).1 } := rfl
    _ = s := by rw [hsame]

theorem isClean_nextStreamEvent (s : Session σ β τ) (index : Nat) :
    s.IsClean (forget (s.nextStreamEvent index)) := by
  refine isClean_forget fun e herror => ?_
  unfold nextStreamEvent at herror ⊢
  split
  · rfl
  · next stream hstream =>
    rw [hstream] at herror
    obtain ⟨hindex, rfl⟩ := List.getElem?_eq_some_iff.mp hstream
    exact updateStream_events hindex (EventQueue.tryNext_of_error herror).symm

theorem isClean_queueStreamEvent (s : Session σ β τ) (index : Nat) (event : StreamEvent τ) :
    s.IsClean (s.queueStreamEvent index event) := by
  intro e herror
  unfold queueStreamEvent at herror ⊢
  split
  · rfl
  · next stream hstream =>
    rw [hstream] at herror
    obtain ⟨hindex, rfl⟩ := List.getElem?_eq_some_iff.mp hstream
    exact updateStream_events hindex (EventQueue.push_of_error herror).symm

/-- A call that fails leaves the session as it was, unless it hands a command over that nobody
hears. -/
theorem isClean_act [ByteSource σ] {E : Engine σ β} {s : Session σ β τ} (hs : Reachable E s)
    {action : Action τ} (hheard : s.isUnheard action = false) : s.IsClean (s.act E action) := by
  have hattended := attended_of_reachable hs
  have hworks : s.phase ≠ .shutdown → s.executorBroke = false → s.commands.isOpen = true := by
    intro halive hworks
    have hopen : s.commands.isOpen = !s.executorBroke := hattended.isOpen halive
    rw [hopen, hworks]
    rfl
  cases action with
  | start presentation format position =>
    refine isClean_start fun halive hformat => hworks halive ?_
    simpa [isUnheard, halive, hformat] using hheard
  | stop =>
    refine isClean_stop fun halive => hworks halive ?_
    simpa [isUnheard, halive] using hheard
  | pause =>
    refine isClean_pause fun hrunning => hworks (by rw [hrunning]; decide) ?_
    exact (grounded_of_reachable hs (.inl hrunning)).2
  | requestSample index token =>
    refine isClean_requestSample fun halive hserves => hworks halive ?_
    -- An executor that broke off leaves no stream that is served.
    refine Bool.eq_false_iff.mpr fun hbroke => ?_
    have hnone := (hattended.unstarted halive (hattended.unopened halive hbroke)).2 index
    exact absurd hserves (Bool.eq_false_iff.mp hnone)
  | shutdown => exact isClean_shutdown E s
  | setRate thin rate => exact isClean_setRate s thin rate
  | nextEvent => exact isClean_nextEvent s
  | queueEvent event => exact isClean_queueEvent s event
  | nextStreamEvent index => exact isClean_nextStreamEvent s index
  | queueStreamEvent index event => exact isClean_queueStreamEvent s index event
  | feed _ | take | execute => exact isClean_ok s _

/-- A number that is used up shows. -/
theorem not_isClean_act [ByteSource σ] {E : Engine σ β} {s : Session σ β τ} (hs : Reachable E s)
    {action : Action τ} (h : s.isUnheard action = true) : ¬s.IsClean (s.act E action) := by
  intro hclean
  rw [act_of_unheard hs h] at hclean
  have hcount := congrArg (fun s : Session σ β τ => s.commands.submitted) (hclean _ rfl)
  exact Nat.succ_ne_self _ hcount

/-! ### Commands -/

/-- What a command that fails may leave behind, the backend apart. -/
inductive Leaves [ByteSource σ] (E : Engine σ β) (s : Session σ β τ) (e : SourceError) :
    Command τ → Session Unit Unit τ → Prop
  | nothing {command : Command τ} (hpull : s.pullOf? E command = none)
      (hlater : command.isStart = true → s.resources ≠ .unopened) : Leaves E s e command s.gist
  /-- The first start that fails keeps the reason. -/
  | reason {presentation : Presentation} {format : TimeFormat} {position : StartPosition}
      {message : String} (hfirst : s.resources = .unopened) (herror : e = .backend message) :
      Leaves E s e (.start presentation format position)
        { s.gist with resources := .failed message }
  /-- The request of a stream that is not bound is given up, and one for whose sample there is no
  room. -/
  | drop {index : Nat} {request : Request τ}
      (hpull : ∀ p, s.pullOf? E (.requestSample index request) = some p → p.result.isOk = true) :
      Leaves E s e (.requestSample index request) (s.gist.drop index request)
  /-- A pull that fails is told. -/
  | tell {p : PullRecord τ} (hpull : s.pullOf? E (.requestSample p.stream p.request) = some p)
      (hresult : p.result = .error e) :
      Leaves E s e (.requestSample p.stream p.request)
        (s.gist.answer p.stream p.request (.error e.message))

namespace Leaves

variable [ByteSource σ] {E : Engine σ β} {s : Session σ β τ} {e : SourceError} {command : Command τ}
  {t : Session Unit Unit τ}

/-- Nothing else changes than the stage of the backend, the streams and the journal. -/
theorem same (h : s.Leaves E e command t) :
    { t with resources := s.gist.resources, streams := s.streams, journal := s.gist.journal } =
      s.gist := by
  cases h <;> rfl

theorem first (h : s.Leaves E e command t) (hstart : command.isStart = true)
    (hfirst : s.resources = .unopened) :
    ∃ message, e = .backend message ∧ t.resources = .failed message := by
  cases h with
  | nothing _ hlater => exact absurd hfirst (hlater hstart)
  | reason _ herror => exact ⟨_, herror, rfl⟩
  | drop | tell => cases hstart

theorem later (h : s.Leaves E e command t)
    (hlater : command.isStart = true → s.resources ≠ .unopened) :
    t.resources = s.resources.shape := by
  cases h with
  | reason hfirst _ => exact absurd hfirst (hlater rfl)
  | nothing | drop | tell => rfl

theorem quiet (h : s.Leaves E e command t)
    (hquiet : ∀ p, s.pullOf? E command = some p → p.result.isOk = true) :
    t.streams = s.streams := by
  cases h with
  | tell hpull hresult =>
    have hok := hquiet _ hpull
    rw [hresult] at hok
    cases hok
  | nothing | reason | drop => rfl

theorem told (h : s.Leaves E e command t) {p : PullRecord τ} {error : SourceError}
    (hpull : s.pullOf? E command = some p) (hresult : p.result = .error error) :
    e = error ∧ t.streams = (s.tell p.stream (.error e.message)).streams := by
  cases h with
  | nothing hnone _ => cases hnone.symm.trans hpull
  | reason => cases hpull
  | drop hquiet =>
    have hok := hquiet p hpull
    rw [hresult] at hok
    cases hok
  | tell hpull' hresult' =>
    obtain rfl := Option.some.inj (hpull'.symm.trans hpull)
    exact ⟨Except.error.inj (hresult'.symm.trans hresult), rfl⟩

end Leaves

variable [ByteSource σ] {E : Engine σ β}

theorem leaves_runStart {s : Session σ β τ} (hheld : s.resources ≠ .released)
    {presentation : Presentation} {format : TimeFormat} (hformat : format.isDefault = true)
    {position : StartPosition} {e : SourceError}
    (h : (s.runStart E presentation format position).2 = .error e) :
    s.Leaves E e (.start presentation format position)
      (s.runStart E presentation format position).1.gist := by
  rcases resources_openResources E hheld with ⟨backend, binding, hopened⟩ | ⟨message, hfailed⟩
  · rw [runStart, if_pos hformat] at h
    dsimp only at h
    rw [hopened] at h
    cases h
  · rw [runStart_of_failed hfailed presentation hformat position] at h ⊢
    -- The reason is new, or it was kept by an earlier start.
    by_cases hfirst : s.resources = .unopened
    · rw [gist_openResources, hfailed]
      exact .reason hfirst (Except.error.inj h).symm
    · rw [openResources_of_ne hfirst]
      exact .nothing rfl fun _ => hfirst

theorem leaves_runPause {s : Session σ β τ} {e : SourceError} (h : s.runPause.2 = .error e) :
    s.Leaves E e .pause s.runPause.1.gist := by
  unfold runPause at h ⊢
  split at h
  · cases h
  · exact .nothing rfl nofun

theorem leaves_runStop {s : Session σ β τ} {e : SourceError} (h : s.runStop.2 = .error e) :
    s.Leaves E e .stop s.runStop.1.gist := by
  unfold runStop at h ⊢
  split at h
  · cases h
  · cases h
  · exact .nothing rfl nofun

/-- A request fails to be answered when no buffer can be asked for, when there is no room for the
one that came, or when the pull fails. -/
theorem leaves_deliver {s : Session σ β τ} {index : Nat} {request : Request τ} {e : SourceError}
    (hphase : s.phase = .running) (hserves : s.serves index = true)
    (h : (s.deliver E index request).2 = .error e) :
    s.Leaves E e (.requestSample index request) (s.deliver E index request).1.gist := by
  revert h
  unfold deliver
  split
  · next backend binding hopened =>
    split
    · next hunbound =>
      intro _
      rw [gist_drop]
      refine .drop fun p hpull => ?_
      simp [pullOf?, pullFor?, hphase, hserves, hopened, hunbound] at hpull
    · next b hbound =>
      intro h
      -- The pull is made, and what it gave decides.
      set called := s.callBackend binding (.pull b) (E.pull backend b) with hcalled
      have hpull : s.pullOf? E (.requestSample index request) =
          some ⟨index, request, b, called.2⟩ := by
        simp [pullOf?, pullFor?, hphase, hserves, hopened, hbound, hcalled]
      have hgist : called.1.gist = s.gist := gist_callBackend s hopened _ _
      rw [gist_answerWith, hgist]
      change (called.1.answerWith index request called.2).2 = .error e at h
      cases hresult : called.2 with
      | error cause =>
        rw [hresult] at h hpull
        obtain rfl : cause = e := Except.error.inj h
        exact .tell (p := ⟨index, request, b, .error cause⟩) hpull rfl
      | ok buffer? =>
        rw [hresult] at h hpull
        have hfine : ∀ p, s.pullOf? E (.requestSample index request) = some p →
            p.result.isOk = true := by
          rintro p hp
          obtain rfl := Option.some.inj (hpull.symm.trans hp)
          rfl
        cases buffer? with
        | none => cases h
        | some buffer =>
          -- A buffer is no failure of the pull, only one of making a sample of it.
          have hlarge : allocationLimit ≤ buffer.data.length := by
            by_contra hroom
            simp [answerWith, hroom] at h
          simp only [answerWith, if_pos hlarge]
          exact .drop hfine
  · next hclosed =>
    intro _
    rw [gist_drop]
    refine .drop fun p hpull => ?_
    simp only [pullOf?, pullFor?] at hpull
    split at hpull
    · next hopened => exact absurd hopened (hclosed _ _)
    · cases hpull

theorem leaves_runRequest {s : Session σ β τ} {index : Nat} {request : Request τ} {e : SourceError}
    (h : (s.runRequest E index request).2 = .error e) :
    s.Leaves E e (.requestSample index request) (s.runRequest E index request).1.gist := by
  revert h
  unfold runRequest
  split
  · exact nofun
  · next hphase =>
    split
    · next hserves => exact leaves_deliver hphase hserves
    · exact nofun
  · exact nofun
  · exact nofun

theorem leaves_perform {s : Session σ β τ} (hheld : s.resources ≠ .released) {command : Command τ}
    (hcommand : command.IsAcceptable) {e : SourceError} (h : (s.perform E command).2 = .error e) :
    s.Leaves E e command (s.perform E command).1.gist := by
  cases command with
  | start presentation format position => exact leaves_runStart hheld hcommand h
  | pause => exact leaves_runPause h
  | stop => exact leaves_runStop h
  | requestSample index request => exact leaves_runRequest h

/-- A command that fails is used up, and leaves all that callers can tell of the session as it was.
Only the first start to fail changes how far the backend's life has come, and only a pull that fails
is told, to the stream that it was made for. -/
structure FailsCleanly (E : Engine σ β) (s : Session σ β τ) (envelope : Envelope τ)
    (e : SourceError) : Prop where
  phase : (s.execute E).phase = s.phase
  rate : (s.execute E).rate = s.rate
  selection : (s.execute E).selection = s.selection
  presentationEnded : (s.execute E).presentationEnded = s.presentationEnded
  commands : (s.execute E).commands = { s.commands with inHand := none }
  events : (s.execute E).events = s.events
  first : envelope.command.isStart = true → s.resources = .unopened →
    ∃ message, e = .backend message ∧ (s.execute E).resources = .failed message
  later : (envelope.command.isStart = true → s.resources ≠ .unopened) →
    (s.execute E).resources.shape = s.resources.shape
  /-- Flags, deferred requests and queues are as they were. -/
  quiet : (∀ p, s.pull? E .execute = some p → p.result.isOk = true) →
    (s.execute E).streams = s.streams
  told : ∀ p error, s.pull? E .execute = some p → p.result = .error error →
    e = error ∧ (s.execute E).streams = s.streams.modify p.stream fun stream =>
      { stream with events :=
          { stream.events with pending := stream.events.pending ++ [.error e.message] } }

omit [ByteSource σ] in
/-- Where the queues are open, what is told to a stream comes behind all that is pending. -/
theorem streams_tell {s : Session σ β τ}
    (hopen : ∀ stream ∈ s.streams, stream.events.isShutDown = false) (index : Nat)
    (event : StreamEvent τ) :
    (s.tell index event).streams = s.streams.modify index fun stream =>
      { stream with events :=
          { stream.events with pending := stream.events.pending ++ [event] } } := by
  refine List.ext_getElem? fun i => ?_
  rw [tell, updateStream, List.getElem?_modify, List.getElem?_modify]
  cases hstream : s.streams[i]? with
  | none => rfl
  | some stream =>
    simp [EventQueue.post, EventQueue.push, hopen stream (List.mem_of_getElem? hstream)]

theorem Fails.failsCleanly {s : Session σ β τ} (hreachable : Reachable E s)
    {envelope : Envelope τ} {e : SourceError} (h : s.Fails E envelope e) :
    s.FailsCleanly E envelope e := by
  have hheld : s.emptyHanded.resources ≠ .released := fun hreleased =>
    h.isAlive ((coherent_of_reachable hreachable).released.mp hreleased)
  have hleaves := leaves_perform hheld (isAcceptable_of_hand hreachable h.inHand) h.fails
  have hgist : (s.execute E).gist = (s.emptyHanded.perform E envelope.command).1.gist := by
    rw [h.execute_eq, gist_say]
  have hpull : s.pull? E .execute = s.emptyHanded.pullOf? E envelope.command := by
    rw [pull?, h.inHand, h.works]
  rw [← hgist] at hleaves
  -- Every field that a failure must leave alone shows in the gist.
  have hsame := hleaves.same
  constructor
  case phase => exact (congrArg Session.phase hsame :)
  case rate => exact (congrArg Session.rate hsame :)
  case selection => exact (congrArg Session.selection hsame :)
  case presentationEnded => exact (congrArg Session.presentationEnded hsame :)
  case commands => exact (congrArg Session.commands hsame :)
  case events => exact (congrArg Session.events hsame :)
  case first =>
    intro hstart hfirst
    obtain ⟨message, herror, hshape⟩ := hleaves.first hstart hfirst
    exact ⟨message, herror, Resources.eq_failed_of_shape hshape⟩
  case later => exact hleaves.later
  case quiet =>
    intro hquiet
    exact hleaves.quiet (hpull ▸ hquiet)
  case told =>
    intro p error hp hresult
    obtain ⟨herror, hstreams⟩ := hleaves.told (hpull ▸ hp) hresult
    refine ⟨herror, hstreams.trans ?_⟩
    exact streams_tell (listening_of_reachable hreachable h.isAlive) p.stream (.error e.message)

/-- How far failures are atomic, in every session that can be reached.  Exactly those calls change
something when they fail that hand a command over to an executor that broke off, and these raise the
number of submissions by one and change nothing else.  A wait at an event queue that comes to an
error leaves the events as they were.  A command whose execution fails is used up and changes
nothing else, except that the first start to fail keeps the reason and that a stream is told of the
pull that failed for it.  Where an execution neither succeeds nor fails in this way, the executor
breaks off at a start: no reason is kept, and the queue takes nothing any more. -/
theorem failures_confined {s : Session σ β τ} (h : Reachable E s) :
    (∀ action, s.IsClean (s.act E action) ↔ s.isUnheard action = false) ∧
      (∀ action, s.isUnheard action = true → s.act E action =
        ({ s with commands := { s.commands with submitted := s.commands.submitted + 1 } },
          .error .shutdown)) ∧
      (∀ m : EventQueue.Monitor SourceEvent, m.FailsCleanly) ∧
      (∀ m : EventQueue.Monitor (StreamEvent τ), m.FailsCleanly) ∧
      (∀ envelope, s.commands.inHand = some envelope → s.phase ≠ .shutdown →
        s.executorBroke = false → s.Completes E envelope.command ∨ (∃ e, s.Fails E envelope e) ∨
          s.BreaksOff E envelope) ∧
      (∀ envelope e, s.Fails E envelope e → s.FailsCleanly E envelope e) ∧
      ∀ envelope, s.BreaksOff E envelope → s.LeavesOff E := by
  refine ⟨?calls, ?unheard, ?waits, ?streamWaits, ?ends, ?commands, ?breaks⟩
  case calls =>
    refine fun action => ⟨fun hclean => ?_, isClean_act h⟩
    exact Bool.eq_false_iff.mpr fun hunheard => not_isClean_act h hunheard hclean
  case unheard => exact fun action hunheard => act_of_unheard h hunheard
  case waits => exact EventQueue.Monitor.failsCleanly
  case streamWaits => exact EventQueue.Monitor.failsCleanly
  case ends => exact fun envelope hhand halive hworks => ends_execute E hhand halive hworks
  case commands => exact fun envelope e hfails => hfails.failsCleanly h
  case breaks => exact fun envelope hbreaks => hbreaks.leavesOff

end Session

namespace Sketch

/-- An engine whose pulls fail. -/
def dry : Engine ScriptedSource ScriptedBackend :=
  let failing := script.streams.map fun stream => { stream with buffers := [.error .wrongState] }
  { script with connected := failing }.engine ScriptedSource

/-- Both streams are started, and a request of the second is in the executor's hand. -/
def demanding : List (Action Nat) :=
  [start [true, true], .take, .execute, .requestSample 1 (some 5), .take]

/-- A session whose feeder has a name that no thread can have. -/
def nameless : Session ScriptedSource ScriptedBackend Nat :=
  (Session.ofSource engine { SourceConfig.standard with readThreadName := "\x00" }
    source).toOption.get (by decide)

/-- A start is in the executor's hand. -/
def breaking : List (Action Nat) := [start [true, true], .take]

/-- The executor has broken off at it. -/
def broken : List (Action Nat) := breaking ++ [.execute]

theorem nameless_eq :
    Session.ofSource engine { SourceConfig.standard with readThreadName := "\x00" } source =
      .ok nameless := rfl

/-- A failure that is not atomic: the start at which the executor breaks off keeps no reason and
closes the queue, and the next one is refused though the session lives, and is counted. -/
theorem start_refused_counted :
    Session.Reachable engine (nameless.run engine broken) ∧
      (nameless.run engine breaking).commands.isOpen = true ∧
      (nameless.run engine broken).commands.isOpen = false ∧
      (nameless.run engine broken).resources = .unopened ∧
      (nameless.run engine broken).phase = .stopped ∧
      ((nameless.run engine broken).act engine (start [true, true])).2 = .error .shutdown ∧
      (nameless.run engine broken).commands.submitted = 1 ∧
      ((nameless.run engine broken).act engine (start [true, true])).1.commands.submitted = 2 :=
  ⟨(Session.Reachable.opened nameless_eq).run broken, rfl, rfl, rfl, rfl, rfl, rfl, rfl⟩

/-- The stream hears of the pull that fails; the first of two starts keeps the reason for which it
fails, and the second fails for it; a pause is refused before the first start; and where the
executor breaks off, the streams stay as they were, and a stop uses the second number up. -/
theorem failures_confined_demanding :
    ((opened.run dry demanding).execute dry).streams =
      (opened.run dry demanding).streams.modify 1 (fun stream =>
        { stream with events :=
            { stream.events with
              pending := stream.events.pending ++ [.error SourceError.wrongState.message] } }) ∧
      (∃ message, ((opened.run refusing insisting).execute refusing).resources =
        .failed message) ∧
      ((opened.run refusing insistingStill).execute refusing).commands =
        { (opened.run refusing insistingStill).commands with inHand := none } ∧
      (opened.act engine .pause).1 = opened ∧
      ((nameless.run engine breaking).execute engine).streams =
        (nameless.run engine breaking).streams ∧
      (nameless.run engine broken).act engine .stop =
        ({ nameless.run engine broken with
            commands := { (nameless.run engine broken).commands with submitted := 2 } },
          .error .shutdown) := by
  have hdry : Session.ofSource dry .standard source = .ok opened := rfl
  have hrefusing : Session.ofSource refusing .standard source = .ok opened := rfl
  obtain ⟨_, _, _, _, _, hdemanding, _⟩ :=
    Session.failures_confined ((Session.Reachable.opened hdry).run demanding)
  obtain ⟨_, _, _, _, _, hinsisting, _⟩ :=
    Session.failures_confined ((Session.Reachable.opened hrefusing).run insisting)
  obtain ⟨_, _, _, _, _, hstill, _⟩ :=
    Session.failures_confined ((Session.Reachable.opened hrefusing).run insistingStill)
  obtain ⟨hcalls, _⟩ := Session.failures_confined (reachable [])
  obtain ⟨_, _, _, _, _, _, hbreaks⟩ :=
    Session.failures_confined ((Session.Reachable.opened nameless_eq).run breaking)
  obtain ⟨_, hunheard, _⟩ :=
    Session.failures_confined ((Session.Reachable.opened nameless_eq).run broken)
  have hpull := hdemanding ⟨2, .requestSample 1 ⟨2, some 5⟩⟩ .wrongState ⟨rfl, nofun, rfl, rfl, rfl⟩
  have hfirst := hinsisting ⟨1, _⟩ (.backend SourceError.endOfStream.message)
    ⟨rfl, nofun, rfl, rfl, rfl⟩
  have hsecond := hstill ⟨2, _⟩ (.backend SourceError.endOfStream.message)
    ⟨rfl, nofun, rfl, rfl, rfl⟩
  have hbreak := hbreaks ⟨1, _⟩ ⟨rfl, nofun, rfl, rfl⟩
  obtain ⟨message, _, hfailed⟩ := hfirst.first rfl rfl
  exact ⟨(hpull.told ⟨1, ⟨2, some 5⟩, 1, .error .wrongState⟩ .wrongState rfl rfl).2,
    ⟨message, hfailed⟩, hsecond.commands, (hcalls .pause).mpr rfl .wrongState rfl, hbreak.streams,
    hunheard .stop rfl⟩

end Sketch
end PullStreams
