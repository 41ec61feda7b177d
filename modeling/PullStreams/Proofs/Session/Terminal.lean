/-
The shutdown is the end.

A session that was shut down takes no call and makes none.  What is left in the command
queue is taken out and given up, one command at a time, and each such step adds at most a
line about a dropped request; nothing else ever changes.

* `Session.IsShut` — the invariant, from the shutdown on;
* `Session.Refuses` — what every call is answered then, without a change;
* `Session.Rests` — what the executor may still do: empty the queue;
* `shutdown_terminal` — all of it after every run that follows a shutdown.
-/
import PullStreams.Proofs.EventQueue.Contract
import PullStreams.Proofs.Session.Backing

namespace PullStreams

namespace Session

variable {σ β τ : Type}

/-! ### The invariant -/

/-- What holds from the shutdown on. -/
structure IsShut (s : Session σ β τ) : Prop where
  phase : s.phase = .shutdown
  resources : s.resources = .released
  commands : s.commands.isOpen = false
  events : s.events = ⟨[], true⟩
  streams : ∀ stream ∈ s.streams,
    stream.isActive = false ∧ stream.deferred = [] ∧ stream.events = ⟨[], true⟩

/-- What is asked of the gist is true of the session. -/
theorem isShut_of_gist {s : Session σ β τ} (h : s.gist.IsShut) : s.IsShut where
  phase := h.phase
  resources := by
    have hshape := h.resources
    rw [gist_resources] at hshape
    cases hresources : s.resources with
    | released => rfl
    | _ => rw [hresources] at hshape; cases hshape
  commands := h.commands
  events := h.events
  streams := h.streams

theorem isShut_close (s : Session σ β τ) : s.close.IsShut where
  phase := rfl
  resources := rfl
  commands := rfl
  events := rfl
  streams := by
    intro stream hstream
    -- Every stream was first rid of what it put off, and then shut.
    obtain ⟨cleared, hcleared, rfl⟩ := List.mem_map.mp hstream
    obtain ⟨_, _, rfl⟩ := List.mem_map.mp hcleared
    exact ⟨rfl, rfl, rfl⟩

theorem isShut_shutdown [ByteSource σ] {E : Engine σ β} {s : Session σ β τ}
    (h : (s.shutdown E).2 = .ok ()) : (s.shutdown E).1.IsShut := by
  have halive : s.phase ≠ .shutdown := by
    intro hshut
    rw [shutdown, if_pos hshut] at h
    cases h
  refine isShut_of_gist ?_
  rw [gist_shutdown E halive]
  exact isShut_close s.gist

/-! ### Calls -/

/-- Every call is refused and changes nothing, and nobody feeds a backend. -/
structure Refuses [ByteSource σ] (E : Engine σ β) (s : Session σ β τ) : Prop where
  start : ∀ presentation format position,
    s.start presentation format position = (s, .error .shutdown)
  pause : s.pause = (s, .error .shutdown)
  stop : s.stop = (s, .error .shutdown)
  shutdown : s.shutdown E = (s, .error .shutdown)
  requestSample : ∀ index token, s.requestSample index token = (s, .error .shutdown)
  /-- A rate that no session takes is refused for that reason. -/
  setRate : ∀ thin rate, s.setRate thin rate = (s, .error ((rateFault? thin rate).getD .shutdown))
  currentRate : s.currentRate = .error .shutdown
  descriptor : ∀ index, s.descriptor index = .error .shutdown
  abilities : s.abilities = .error .shutdown
  presentation : s.presentation = .error .shutdown
  nextEvent : s.nextEvent = (s, .error .shutdown)
  queueEvent : ∀ event, s.queueEvent event = (s, .error .shutdown)
  nextStreamEvent : ∀ {index}, index < s.streams.length →
    s.nextStreamEvent index = (s, .error .shutdown)
  queueStreamEvent : ∀ {index} event, index < s.streams.length →
    s.queueStreamEvent index event = (s, .error .shutdown)
  feed : ∀ request, s.feed request = (s, none)

/-- A stream that is given the queue that it has is the stream that it was. -/
theorem updateStream_events {s : Session σ β τ} {index : Nat} (hindex : index < s.streams.length)
    {events : EventQueue (StreamEvent τ)} (h : s.streams[index].events = events) :
    (s.updateStream index fun stream => { stream with events }) = s := by
  have hsame : s.streams.modify index (fun stream => { stream with events }) = s.streams := by
    refine List.ext_getElem (List.length_modify ..) fun i hi hi' => ?_
    rw [List.getElem_modify]
    split
    · next heq =>
      subst heq h
      rfl
    · rfl
  rw [updateStream, hsame]

theorem IsShut.refuses [ByteSource σ] {E : Engine σ β} {s : Session σ β τ} (h : s.IsShut) :
    s.Refuses E := by
  have hphase := h.phase
  have hwhile : ∀ {α : Type} (a : α), s.whileAlive a = .error .shutdown := fun a => if_pos hphase
  constructor
  case start => exact fun _ _ _ => if_pos hphase
  case pause => rw [pause, hphase]
  case stop => exact if_pos hphase
  case shutdown => exact if_pos hphase
  case requestSample =>
    intro index token
    rw [requestSample, hphase]
  case setRate =>
    intro thin rate
    rw [setRate]
    split
    · next e he => rw [he]; rfl
    · next hnone => rw [if_pos hphase, hnone]; rfl
  case currentRate | abilities | presentation => exact hwhile _
  case descriptor => exact fun _ => hwhile _
  case nextEvent =>
    have hevents := h.events
    obtain ⟨⟩ := s
    obtain rfl := hevents
    rfl
  case queueEvent =>
    intro event
    have hevents := h.events
    obtain ⟨⟩ := s
    obtain rfl := hevents
    rfl
  case nextStreamEvent =>
    intro index hindex
    have hevents := (h.streams _ (List.getElem_mem hindex)).2.2
    rw [nextStreamEvent, List.getElem?_eq_getElem hindex]
    dsimp only
    rw [hevents]
    exact Prod.ext (updateStream_events hindex hevents) rfl
  case queueStreamEvent =>
    intro index event hindex
    have hevents := (h.streams _ (List.getElem_mem hindex)).2.2
    rw [queueStreamEvent, List.getElem?_eq_getElem hindex]
    dsimp only
    rw [hevents]
    exact Prod.ext (updateStream_events hindex hevents) rfl
  case feed =>
    intro request
    rw [feed, h.resources]

/-! ### Steps and runs -/

/-- One session comes from another by nothing but taking commands out of the queue and giving their
requests up. -/
structure Rests (s t : Session σ β τ) : Prop where
  same : { t with commands := s.commands, journal := s.journal } = s
  isOpen : t.commands.isOpen = s.commands.isOpen
  journal : ∃ lines, t.journal = s.journal ++ lines ∧
    ∀ line ∈ lines, ∃ index request, line = .dropped index request

theorem Rests.refl (s : Session σ β τ) : s.Rests s :=
  ⟨rfl, rfl, [], (List.append_nil _).symm, fun _ h => absurd h List.not_mem_nil⟩

theorem Rests.trans {r s t : Session σ β τ} (hrs : r.Rests s) (hst : s.Rests t) : r.Rests t := by
  obtain ⟨hsame, hopen, lines, hlines, hdropped⟩ := hrs
  obtain ⟨hsame', hopen', lines', hlines', hdropped'⟩ := hst
  refine ⟨?_, hopen'.trans hopen, lines ++ lines', ?_, ?_⟩
  · rw [← hsame, ← hsame']
  · rw [hlines', hlines, List.append_assoc]
  · exact List.forall_mem_append.mpr ⟨hdropped, hdropped'⟩

/-- Nothing is called meanwhile. -/
theorem Rests.calls {s t : Session σ β τ} (h : s.Rests t) : t.calls = s.calls := by
  obtain ⟨lines, hlines, hdropped⟩ := h.journal
  have hnone : lines.filterMap Entry.call? = [] := by
    refine List.filterMap_eq_nil_iff.mpr fun line hline => ?_
    obtain ⟨index, request, rfl⟩ := hdropped line hline
    rfl
  rw [Session.calls, Session.calls, hlines, List.filterMap_append, hnone, List.append_nil]

theorem IsShut.rests {s t : Session σ β τ} (hs : s.IsShut) (h : s.Rests t) : t.IsShut := by
  have hfields := h.same
  constructor
  case phase => exact (congrArg Session.phase hfields).trans hs.phase
  case resources => exact (congrArg Session.resources hfields).trans hs.resources
  case commands => exact h.isOpen.trans hs.commands
  case events => exact (congrArg Session.events hfields).trans hs.events
  case streams =>
    have hstreams : t.streams = s.streams := (congrArg Session.streams hfields :)
    rw [hstreams]
    exact hs.streams

theorem rests_take (s : Session σ β τ) : s.Rests s.take := by
  refine ⟨rfl, ?_, [], (List.append_nil _).symm, fun _ h => absurd h List.not_mem_nil⟩
  rw [take, CommandQueue.take]
  split <;> rfl

theorem rests_discard (s : Session σ β τ) (command : Command τ) :
    s.emptyHanded.Rests (s.emptyHanded.discard command) := by
  unfold discard
  split
  · next index request _ =>
    refine ⟨rfl, rfl, [.dropped index request], rfl, fun line hline => ?_⟩
    exact ⟨index, request, List.mem_singleton.mp hline⟩
  · exact .refl _

variable [ByteSource σ] {E : Engine σ β}

theorem IsShut.execute {s : Session σ β τ} (h : s.IsShut) : s.Rests (s.execute E) := by
  cases hhand : s.commands.inHand with
  | none =>
    have hsame : s.execute E = s := by rw [Session.execute, hhand]
    rw [hsame]
    exact .refl s
  | some envelope =>
    have hempty : s.Rests s.emptyHanded :=
      ⟨rfl, rfl, [], (List.append_nil _).symm, fun _ h => absurd h List.not_mem_nil⟩
    rw [execute_of_hand E hhand, if_pos (.inl h.phase)]
    exact hempty.trans (rests_discard s envelope.command)

/-- Whatever is done after the shutdown, at most a command is taken or given up. -/
theorem IsShut.step {s : Session σ β τ} (h : s.IsShut) (action : Action τ) :
    s.Rests (s.step E action) := by
  have hrefuses : s.Refuses E := h.refuses
  -- A call that is refused leaves the session as it is.
  have hsame : ∀ {α : Type} {r : Session σ β τ × α} {a : α}, r = (s, a) → s.Rests r.1 := by
    rintro α r a rfl
    exact .refl s
  cases action with
  | start presentation format position => exact hsame (hrefuses.start presentation format position)
  | pause => exact hsame hrefuses.pause
  | stop => exact hsame hrefuses.stop
  | shutdown => exact hsame hrefuses.shutdown
  | requestSample index token => exact hsame (hrefuses.requestSample index token)
  | setRate thin rate => exact hsame (hrefuses.setRate thin rate)
  | nextEvent => exact hsame (congrArg forget hrefuses.nextEvent)
  | queueEvent event => exact hsame (hrefuses.queueEvent event)
  | nextStreamEvent index =>
    by_cases hindex : index < s.streams.length
    · exact hsame (congrArg forget (hrefuses.nextStreamEvent hindex))
    · have hnone : s.nextStreamEvent index = (s, .ok none) := by
        rw [nextStreamEvent, List.getElem?_eq_none (Nat.not_lt.mp hindex)]
      exact hsame (congrArg forget hnone)
  | queueStreamEvent index event =>
    by_cases hindex : index < s.streams.length
    · exact hsame (hrefuses.queueStreamEvent event hindex)
    · have hnone : s.queueStreamEvent index event = (s, .ok ()) := by
        rw [queueStreamEvent, List.getElem?_eq_none (Nat.not_lt.mp hindex)]
      exact hsame hnone
  | feed request => exact hsame (r := s.feed request) (hrefuses.feed request)
  | take => exact rests_take s
  | execute => exact h.execute

theorem IsShut.run {s : Session σ β τ} (h : s.IsShut) (actions : List (Action τ)) :
    s.Rests (s.run E actions) := by
  induction actions generalizing s with
  | nil => exact .refl s
  | cons action actions ih =>
    have hstep : s.Rests (s.step E action) := h.step action
    exact hstep.trans (ih (h.rests hstep))

/-- Once a shutdown has succeeded, whatever anybody does and in whatever order, the session rests:
nothing of it changes but that commands leave the queue and their requests are given up, nothing is
called, every call is refused, and every queue is empty and refuses who calls and who waits. -/
theorem shutdown_terminal {s : Session σ β τ} (h : (s.shutdown E).2 = .ok ())
    (actions : List (Action τ)) :
    (s.shutdown E).1.Rests ((s.shutdown E).1.run E actions) ∧
      ((s.shutdown E).1.run E actions).calls = (s.shutdown E).1.calls ∧
      ((s.shutdown E).1.run E actions).IsShut ∧
      ((s.shutdown E).1.run E actions).Refuses E ∧
      (∀ m : EventQueue.Monitor SourceEvent,
        m.queue = ((s.shutdown E).1.run E actions).events → m.Refuses) ∧
      ∀ stream ∈ ((s.shutdown E).1.run E actions).streams,
        ∀ m : EventQueue.Monitor (StreamEvent τ), m.queue = stream.events → m.Refuses := by
  have hshut := isShut_shutdown h
  have hrests := hshut.run (E := E) actions
  have hafter := hshut.rests hrests
  refine ⟨hrests, hrests.calls, hafter, hafter.refuses, ?_, ?_⟩
  · intro m hqueue
    exact EventQueue.Monitor.refuses (hqueue.trans hafter.events)
  · intro stream hstream m hqueue
    exact EventQueue.Monitor.refuses (hqueue.trans (hafter.streams stream hstream).2.2)

end Session

namespace Sketch

/-- Two streams are started, one request is put off in a pause, another one is in the executor's
hand, and a start waits. -/
def interrupted : List (Action Nat) :=
  paused ++ [.requestSample 1 (some 5), .take, .execute, .requestSample 1 (some 6), .take,
    start [true, true]]

/-- What is left in the queue is executed, and all of it comes too late. -/
def leftover : List (Action Nat) :=
  [.execute, .take, .execute, start [true, false], .requestSample 0 none, .take, .execute]

theorem shutdown_terminal_leftover :
    ((play interrupted).shutdown engine).2 = .ok () ∧
      ((play interrupted).shutdown engine).1.Rests
        (((play interrupted).shutdown engine).1.run engine leftover) ∧
      (((play interrupted).shutdown engine).1.run engine leftover).Refuses engine := by
  have hok : ((play interrupted).shutdown engine).2 = .ok () := rfl
  obtain ⟨hrests, _, _, hrefuses, _⟩ := Session.shutdown_terminal hok leftover
  exact ⟨hok, hrests, hrefuses⟩

end Sketch
end PullStreams
