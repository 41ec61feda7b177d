/-
What an event queue owes to the threads that share it.

However pushes, takes, waits and the shutdown interleave, events are taken in the order in
which they were pushed, each once, and what was not taken is pending until the shutdown.
No wake-up is lost: while anybody sleeps, as many consumers are woken and have not run as
there are events for them.  A consumer that looks at the queue is not among the woken any
more, which leaves one event unaccounted for until it has looked (`IsAttended`).  From the
shutdown on nobody sleeps, and every call and every wait comes to the refusal.

* `Flow`, `flow_move` — all that one move can do to the events, and what it tells its caller;
* `inOrder_run` — the order of the events after any run;
* `attended_run` — who sleeps and who is woken after any run;
* `Monitor.Refuses`, `IsShut.run` — a queue that is shut down, and what comes after;
* `contract_kept` — all of it.
-/
import Mathlib.Tactic.Common
import PullStreams.EventQueue.Run

namespace PullStreams.EventQueue

variable {α : Type}

/-- Whether a call was told that the queue is shut down. -/
def Line.IsRefusal : Line α → Prop
  | .pushed _ result => result = .error .shutdown
  | .answered _ result => result = .error .shutdown

/-! ### The events -/

/-- What one move can do to a queue, and what it tells its caller meanwhile. -/
inductive Flow : EventQueue α → List (Line α) → EventQueue α → Prop
  | still (q : EventQueue α) : Flow q [] q
  | push (pending : List α) (event : α) :
      Flow ⟨pending, false⟩ [.pushed event (.ok ())] ⟨pending ++ [event], false⟩
  | take (event : α) (rest : List α) (caller : Option Nat) :
      Flow ⟨event :: rest, false⟩ [.answered caller (.ok (some event))] ⟨rest, false⟩
  | miss (caller : Option Nat) : Flow ⟨[], false⟩ [.answered caller (.ok none)] ⟨[], false⟩
  | refuse {q : EventQueue α} {line : Line α} (hshut : q.isShutDown = true)
      (hline : line.IsRefusal) : Flow q [line] q
  | shut (q : EventQueue α) : Flow q [] ⟨[], true⟩

/-- While the queue is open no event is lost. -/
theorem Flow.kept {q q' : EventQueue α} {lines : List (Line α)} (h : Flow q lines q')
    (hopen : q'.isShutDown = false) :
    q.isShutDown = false ∧
      q.pending ++ lines.filterMap Line.pushed? = lines.filterMap Line.taken? ++ q'.pending := by
  cases h with
  | still => exact ⟨hopen, List.append_nil _⟩
  | push pending event => exact ⟨rfl, rfl⟩
  | take event rest caller => exact ⟨rfl, List.append_nil _⟩
  | miss caller => exact ⟨rfl, rfl⟩
  | refuse hshut _ => cases hopen.symm.trans hshut
  | shut => cases hopen

/-- Where the queue is shut down, nobody is told anything else. -/
theorem Flow.refused {q q' : EventQueue α} {lines : List (Line α)} (h : Flow q lines q')
    (hshut : q'.isShutDown = true) : ∀ line ∈ lines, line.IsRefusal := by
  cases h with
  | still | shut => exact List.forall_mem_nil _
  | refuse _ hline => exact List.forall_mem_singleton.mpr hline
  | push | take | miss => cases hshut

namespace Monitor

theorem flow_tryNext (m : Monitor α) (caller : Option Nat) :
    Flow m.queue [.answered caller m.tryNext.2] m.tryNext.1.queue := by
  obtain ⟨⟨pending, isShutDown⟩, asleep, woken⟩ := m
  cases isShutDown with
  | true => exact .refuse rfl rfl
  | false =>
    cases pending with
    | nil => exact .miss caller
    | cons event rest => exact .take event rest caller

theorem flow_push (m : Monitor α) (event : α) (pick : Nat) :
    Flow m.queue [.pushed event (m.push event pick).2] (m.push event pick).1.queue := by
  obtain ⟨⟨pending, isShutDown⟩, asleep, woken⟩ := m
  cases isShutDown with
  | true => exact .refuse rfl rfl
  | false => exact .push pending event

/-- A look ends as a take does, unless it finds nothing: then the consumer sleeps. -/
theorem look_cases (m : Monitor α) (consumer : Nat) :
    m.look consumer = (m.tryNext.1, .answered m.tryNext.2) ∨
      m.queue.pending = [] ∧ m.queue.isShutDown = false ∧
        m.look consumer = ({ m with asleep := m.asleep ++ [consumer] }, .sleeps) := by
  obtain ⟨⟨pending, isShutDown⟩, asleep, woken⟩ := m
  cases isShutDown with
  | true => exact .inl rfl
  | false =>
    cases pending with
    | nil => exact .inr ⟨rfl, rfl, rfl⟩
    | cons event rest => exact .inl rfl

end Monitor

namespace History

variable {h : History α}

@[simp] theorem monitor_looked (h : History α) (consumer : Nat) (look : Monitor α × Turn α) :
    (h.looked consumer look).monitor = look.1 := by
  obtain ⟨monitor, answer | _⟩ := look <;> rfl

@[simp] theorem expired_looked (h : History α) (consumer : Nat) (look : Monitor α × Turn α) :
    (h.looked consumer look).expired = h.expired := by
  obtain ⟨monitor, answer | _⟩ := look <;> rfl

theorem flow_looked (h : History α) (m : Monitor α) (consumer : Nat) :
    ∃ lines, (h.looked consumer (m.look consumer)).journal = h.journal ++ lines ∧
      Flow m.queue lines (m.look consumer).1.queue := by
  rcases m.look_cases consumer with hlook | ⟨_, _, hlook⟩
  · rw [hlook]
    exact ⟨_, rfl, m.flow_tryNext (some consumer)⟩
  · rw [hlook]
    exact ⟨[], (List.append_nil _).symm, .still _⟩

/-- What one move does to the events, and what it tells its caller. -/
theorem flow_move (h : History α) (move : Move α) :
    ∃ lines, (h.move move).journal = h.journal ++ lines ∧
      Flow h.monitor.queue lines (h.move move).monitor.queue := by
  have hrest : ∃ lines, h.journal = h.journal ++ lines ∧
      Flow h.monitor.queue lines h.monitor.queue := ⟨[], (List.append_nil _).symm, .still _⟩
  cases move with
  | push event pick => exact ⟨_, rfl, h.monitor.flow_push event pick⟩
  | tryNext => exact ⟨_, rfl, h.monitor.flow_tryNext none⟩
  | call consumer isLimited =>
    simp only [move]
    split
    · exact hrest
    · rw [monitor_looked]
      exact flow_looked _ h.monitor consumer
  | resume consumer =>
    simp only [move]
    split
    · rw [monitor_looked]
      exact flow_looked h { h.monitor with woken := h.monitor.woken.erase consumer } consumer
    · exact hrest
  | expire consumer =>
    simp only [move]
    split
    · exact hrest
    · exact hrest
  | timeOut consumer =>
    simp only [move]
    split
    · exact ⟨_, rfl, (h.monitor.expire consumer).flow_tryNext (some consumer)⟩
    · exact hrest
  | shutdown => exact ⟨[], (List.append_nil _).symm, .shut _⟩

/-- Events come out in the order in which they went in, and until the shutdown none is missing. -/
structure InOrder (h : History α) : Prop where
  all : h.monitor.queue.isShutDown = false → h.pushed = h.taken ++ h.monitor.queue.pending
  first : h.taken <+: h.pushed

theorem pushed_of_journal {h' : History α} (lines : List (Line α))
    (hjournal : h'.journal = h.journal ++ lines) :
    h'.pushed = h.pushed ++ lines.filterMap Line.pushed? := by
  rw [pushed, hjournal, List.filterMap_append]
  rfl

theorem taken_of_journal {h' : History α} (lines : List (Line α))
    (hjournal : h'.journal = h.journal ++ lines) :
    h'.taken = h.taken ++ lines.filterMap Line.taken? := by
  rw [taken, hjournal, List.filterMap_append]
  rfl

/-- Whoever is refused has neither pushed nor taken anything. -/
theorem events_of_refused {lines : List (Line α)} (h : ∀ line ∈ lines, line.IsRefusal) :
    lines.filterMap Line.pushed? = [] ∧ lines.filterMap Line.taken? = [] := by
  simp only [List.filterMap_eq_nil_iff]
  constructor <;> intro line hline <;> have hrefused := h line hline
  · cases line with
    | pushed event result => rw [show result = _ from hrefused]; rfl
    | answered consumer result => rfl
  · cases line with
    | pushed event result => rfl
    | answered consumer result => rw [show result = _ from hrefused]; rfl

theorem inOrder_move (hs : h.InOrder) (move : Move α) : (h.move move).InOrder := by
  obtain ⟨lines, hjournal, hflow⟩ := h.flow_move move
  have hpushed := pushed_of_journal lines hjournal
  have htaken := taken_of_journal lines hjournal
  have hall : (h.move move).monitor.queue.isShutDown = false →
      (h.move move).pushed = (h.move move).taken ++ (h.move move).monitor.queue.pending := by
    intro hopen
    obtain ⟨hbefore, hkept⟩ := hflow.kept hopen
    rw [hpushed, htaken, hs.all hbefore, List.append_assoc, hkept, List.append_assoc]
  refine ⟨hall, ?_⟩
  cases hshut : (h.move move).monitor.queue.isShutDown with
  | false => exact ⟨_, (hall hshut).symm⟩
  | true =>
    obtain ⟨hnoPush, hnoTake⟩ := events_of_refused (hflow.refused hshut)
    rw [hpushed, htaken, hnoPush, hnoTake, List.append_nil, List.append_nil]
    exact hs.first

theorem inOrder_run (hs : h.InOrder) (moves : List (Move α)) : (h.run moves).InOrder := by
  induction moves generalizing h with
  | nil => exact hs
  | cons move moves ih => exact ih (inOrder_move hs move)

end History

/-! ### Sleepers and wake-ups -/

namespace Monitor

variable {m : Monitor α} {expired : List Nat}

/-- Nobody sleeps in vain: a consumer waits in one way only, and as many consumers are woken as
there are events, but for `inside` that are looking at the queue. -/
structure IsAttended (inside : Nat) (m : Monitor α) (expired : List Nat) : Prop where
  apart : (m.asleep ++ m.woken ++ expired).Nodup
  awake : m.asleep ≠ [] →
    m.queue.pending.length ≤ m.woken.length + inside ∧ m.queue.isShutDown = false

theorem IsAttended.enter (hs : IsAttended 0 m expired) : IsAttended 1 m expired where
  apart := hs.apart
  awake hasleep := ⟨Nat.le_succ_of_le (hs.awake hasleep).1, (hs.awake hasleep).2⟩

/-- A look that ends the call has taken an event, or there was none. -/
theorem IsAttended.tryNext (hs : IsAttended 1 m expired) : IsAttended 0 m.tryNext.1 expired := by
  obtain ⟨⟨pending, isShutDown⟩, asleep, woken⟩ := m
  cases isShutDown with
  | true => exact ⟨hs.apart, fun hasleep => by cases (hs.awake hasleep).2⟩
  | false =>
    cases pending with
    | nil => exact ⟨hs.apart, fun _ => ⟨Nat.zero_le _, rfl⟩⟩
    | cons event rest =>
      exact ⟨hs.apart, fun hasleep => ⟨Nat.le_of_succ_le_succ (hs.awake hasleep).1, rfl⟩⟩

/-- Whoever falls asleep has found nothing. -/
theorem IsAttended.look (hs : IsAttended 1 m expired) {consumer : Nat}
    (hnew : consumer ∉ m.asleep ++ m.woken ++ expired) :
    IsAttended 0 (m.look consumer).1 expired := by
  rcases m.look_cases consumer with hlook | ⟨hnone, hopen, hlook⟩
  · rw [hlook]
    exact hs.tryNext
  · rw [hlook]
    refine ⟨?_, fun _ => ⟨by simp [hnone], hopen⟩⟩
    have hperm : (m.asleep ++ [consumer] ++ m.woken ++ expired).Perm
        (consumer :: (m.asleep ++ m.woken ++ expired)) := by
      simp only [List.append_assoc, List.singleton_append]
      exact List.perm_middle
    exact hperm.nodup_iff.mpr (List.nodup_cons.mpr ⟨hnew, hs.apart⟩)

theorem mem_of_chosen {asleep : List Nat} {pick consumer : Nat}
    (h : (asleep[pick]? <|> asleep.head?) = some consumer) : consumer ∈ asleep := by
  cases hpick : asleep[pick]? with
  | none => exact List.mem_of_head? (by simpa [hpick] using h)
  | some picked =>
    obtain rfl : picked = consumer := by simpa [hpick] using h
    exact List.mem_of_getElem? hpick

theorem eq_nil_of_not_chosen {asleep : List Nat} {pick : Nat}
    (h : (asleep[pick]? <|> asleep.head?) = none) : asleep = [] := by
  cases asleep with
  | nil => rfl
  | cons consumer rest => cases hpick : (consumer :: rest)[pick]? <;> simp [hpick] at h

/-- A push wakes somebody if anybody sleeps. -/
theorem IsAttended.push (hs : IsAttended 0 m expired) (event : α) (pick : Nat) :
    IsAttended 0 (m.push event pick).1 expired := by
  obtain ⟨⟨pending, isShutDown⟩, asleep, woken⟩ := m
  cases isShutDown with
  | true => exact hs
  | false =>
    cases hchosen : asleep[pick]? <|> asleep.head? with
    | none =>
      obtain rfl := eq_nil_of_not_chosen hchosen
      exact ⟨by simpa [Monitor.push] using hs.apart, fun hasleep => by simp [Monitor.push] at hasleep⟩
    | some consumer =>
      have hmem := mem_of_chosen hchosen
      have hpush : (Monitor.push ⟨⟨pending, false⟩, asleep, woken⟩ event pick).1 =
          ⟨⟨pending ++ [event], false⟩, asleep.erase consumer, woken ++ [consumer]⟩ := by
        simp [Monitor.push, EventQueue.post, EventQueue.push, hchosen]
      have hperm : (asleep.erase consumer ++ (woken ++ [consumer]) ++ expired).Perm
          (asleep ++ woken ++ expired) := by
        rw [← List.append_assoc]
        refine ((List.perm_append_singleton consumer _).trans ?_).append_right expired
        exact (List.perm_cons_erase hmem).symm.append_right woken
      rw [hpush]
      refine ⟨hperm.nodup_iff.mpr hs.apart, fun _ => ⟨?_, rfl⟩⟩
      have hcount := (hs.awake (List.ne_nil_of_mem hmem)).1
      simpa using hcount

/-- All who sleep are woken by a shutdown. -/
theorem IsAttended.shutdown (hs : IsAttended 0 m expired) : IsAttended 0 m.shutdown expired where
  apart := by
    have hperm : (m.woken ++ m.asleep).Perm (m.asleep ++ m.woken) := List.perm_append_comm
    exact (hperm.append_right expired).nodup_iff.mpr hs.apart
  awake hasleep := absurd rfl hasleep

/-- Whose time is up no longer sleeps. -/
theorem IsAttended.expire (hs : IsAttended 0 m expired) {consumer : Nat}
    (hasleep : consumer ∈ m.asleep) : IsAttended 0 (m.expire consumer) (expired ++ [consumer]) where
  apart := by
    have hperm : (m.asleep.erase consumer ++ m.woken ++ (expired ++ [consumer])).Perm
        (m.asleep ++ m.woken ++ expired) := by
      rw [← List.append_assoc]
      refine (List.perm_append_singleton consumer _).trans ?_
      exact ((List.perm_cons_erase hasleep).symm.append_right m.woken).append_right expired
    exact hperm.nodup_iff.mpr hs.apart
  awake hothers := hs.awake fun hnone => hothers (by rw [Monitor.expire, hnone]; rfl)

/-- A consumer that runs was woken, and looks at the queue now. -/
theorem IsAttended.resume (hs : IsAttended 0 m expired) {consumer : Nat}
    (hwoken : consumer ∈ m.woken) : IsAttended 0 (m.resume consumer).1 expired := by
  have hperm : (m.asleep ++ m.woken ++ expired).Perm
      (consumer :: (m.asleep ++ m.woken.erase consumer ++ expired)) := by
    refine (((List.perm_cons_erase hwoken).append_left m.asleep).append_right expired).trans ?_
    simp only [List.append_assoc, List.cons_append]
    exact List.perm_middle
  obtain ⟨hgone, hapart⟩ := List.nodup_cons.mp (hperm.nodup_iff.mp hs.apart)
  have hinside : IsAttended 1 { m with woken := m.woken.erase consumer } expired := by
    refine ⟨hapart, fun hasleep => ⟨?_, (hs.awake hasleep).2⟩⟩
    have hcount := (hs.awake hasleep).1
    have hlength := List.length_erase_of_mem hwoken
    have hpos := List.length_pos_of_mem hwoken
    change m.queue.pending.length ≤ (m.woken.erase consumer).length + 1
    omega
  exact hinside.look hgone

/-- A consumer that runs because its time is up takes nobody's event. -/
theorem IsAttended.timeOut (hs : IsAttended 0 m expired) (consumer : Nat) :
    IsAttended 0 (m.timeOut consumer).1 (expired.erase consumer) := by
  have hinside : IsAttended 0 (m.expire consumer) (expired.erase consumer) := by
    refine ⟨?_, fun hothers => hs.awake fun hnone => hothers (by rw [Monitor.expire, hnone]; rfl)⟩
    refine hs.apart.sublist ?_
    exact ((List.erase_sublist.append_right m.woken).append List.erase_sublist)
  exact hinside.enter.tryNext

end Monitor

namespace History

variable {h h' : History α}

/-- Who has called and has no answer yet. -/
def waiting (h : History α) : List Nat := h.monitor.asleep ++ h.monitor.woken ++ h.expired

theorem isWaiting_iff {consumer : Nat} : h.isWaiting consumer = true ↔ consumer ∈ h.waiting := by
  simp [isWaiting, waiting, or_assoc]

theorem attended_move (hs : h.monitor.IsAttended 0 h.expired) (move : Move α) :
    (h.move move).monitor.IsAttended 0 (h.move move).expired := by
  cases move with
  | push event pick => exact hs.push event pick
  | tryNext => exact hs.enter.tryNext
  | call consumer isLimited =>
    simp only [History.move]
    split
    · exact hs
    · next hnew =>
      rw [isWaiting_iff] at hnew
      rw [monitor_looked, expired_looked]
      exact hs.enter.look hnew
  | resume consumer =>
    simp only [History.move]
    split
    · next hwoken =>
      rw [monitor_looked, expired_looked]
      exact hs.resume (List.contains_iff_mem.mp hwoken)
    · exact hs
  | expire consumer =>
    simp only [History.move]
    split
    · next hlimited =>
      rw [mayExpire, Bool.and_eq_true, List.contains_iff_mem] at hlimited
      exact hs.expire hlimited.1
    · exact hs
  | timeOut consumer =>
    simp only [History.move]
    split
    · exact hs.timeOut consumer
    · exact hs
  | shutdown => exact hs.shutdown

theorem attended_run (hs : h.monitor.IsAttended 0 h.expired) (moves : List (Move α)) :
    (h.run moves).monitor.IsAttended 0 (h.run moves).expired := by
  induction moves generalizing h with
  | nil => exact hs
  | cons move moves ih => exact ih (attended_move hs move)

end History

/-! ### After the shutdown -/

/-- What a queue with its waiting consumers answers after it was shut down: nobody waits any longer,
and nothing changes but who waits. -/
structure Monitor.Refuses (m : Monitor α) : Prop where
  push : ∀ event pick, m.push event pick = (m, .error .shutdown)
  tryNext : m.tryNext = (m, .error .shutdown)
  call : ∀ consumer, m.call consumer = (m, .answered (.error .shutdown))
  resume : ∀ consumer, m.resume consumer =
    ({ m with woken := m.woken.erase consumer }, .answered (.error .shutdown))
  timeOut : ∀ consumer, m.timeOut consumer =
    ({ m with asleep := m.asleep.erase consumer }, .error .shutdown)

theorem Monitor.refuses {m : Monitor α} (h : m.queue = ⟨[], true⟩) : m.Refuses := by
  have htry : ∀ m : Monitor α, m.queue = ⟨[], true⟩ → m.tryNext = (m, .error .shutdown) := by
    rintro ⟨queue, asleep, woken⟩ rfl
    rfl
  have hlook : ∀ (m : Monitor α) (consumer : Nat), m.queue = ⟨[], true⟩ →
      m.look consumer = (m, .answered (.error .shutdown)) := by
    intro m consumer hm
    rw [look, htry m hm]
  constructor
  case push =>
    intro event pick
    rw [push, h]
    rfl
  case tryNext => exact htry m h
  case call => exact fun consumer => hlook m consumer h
  case resume => exact fun consumer => hlook _ consumer h
  case timeOut => exact fun consumer => htry _ h

namespace History

variable {h h' : History α}

/-- The queue is shut down, and nobody sleeps. -/
structure IsShut (h : History α) : Prop where
  queue : h.monitor.queue = ⟨[], true⟩
  asleep : h.monitor.asleep = []

/-- Since `h` nobody was told anything but of the shutdown, and whoever waited at `h` is about to
run or was told so. -/
def IsTold (h h' : History α) : Prop :=
  ∃ lines, h'.journal = h.journal ++ lines ∧ (∀ line ∈ lines, line.IsRefusal) ∧
    ∀ consumer ∈ h.waiting,
      consumer ∈ h'.waiting ∨ .answered (some consumer) (.error .shutdown) ∈ lines

theorem isTold_of_waiting (hjournal : h'.journal = h.journal)
    (hwaiting : ∀ consumer ∈ h.waiting, consumer ∈ h'.waiting) : h.IsTold h' :=
  ⟨[], by rw [hjournal, List.append_nil], List.forall_mem_nil _,
    fun consumer hmem => .inl (hwaiting consumer hmem)⟩

theorem IsTold.trans {h'' : History α} (hfirst : h.IsTold h') (hsecond : h'.IsTold h'') :
    h.IsTold h'' := by
  obtain ⟨lines, hjournal, hrefused, hwaiting⟩ := hfirst
  obtain ⟨more, hmore, hrefusedMore, hwaitingMore⟩ := hsecond
  refine ⟨lines ++ more, by rw [hmore, hjournal, List.append_assoc],
    List.forall_mem_append.mpr ⟨hrefused, hrefusedMore⟩, fun consumer hmem => ?_⟩
  rcases hwaiting consumer hmem with hwaits | htold
  · exact (hwaitingMore consumer hwaits).imp_right (List.mem_append_right lines)
  · exact .inr (List.mem_append_left more htold)

/-- A consumer that runs is told so, and the others are about to run as before. -/
theorem isTold_of_run (consumer : Nat)
    (hjournal : h'.journal = h.journal ++ [.answered (some consumer) (.error .shutdown)])
    (hwaiting : ∀ other ∈ h.waiting, other = consumer ∨ other ∈ h'.waiting) : h.IsTold h' := by
  refine ⟨_, hjournal, List.forall_mem_singleton.mpr rfl, fun other hmem => ?_⟩
  rcases hwaiting other hmem with rfl | hwaits
  · exact .inr (List.mem_singleton.mpr rfl)
  · exact .inl hwaits

theorem isTold_shutdown (h : History α) : h.IsTold (h.move .shutdown) := by
  refine isTold_of_waiting rfl fun consumer hmem => ?_
  simp only [waiting, History.move, Monitor.shutdown, List.mem_append] at hmem ⊢
  tauto

/-- What the queue answers who calls, and who runs after it has waited. -/
structure RefusesAll (h : History α) : Prop where
  push : ∀ event pick,
    (h.move (.push event pick)).journal = h.journal ++ [.pushed event (.error .shutdown)]
  tryNext : (h.move .tryNext).journal = h.journal ++ [.answered none (.error .shutdown)]
  call : ∀ consumer isLimited, consumer ∉ h.waiting →
    (h.move (.call consumer isLimited)).journal =
      h.journal ++ [.answered (some consumer) (.error .shutdown)]
  resume : ∀ consumer ∈ h.monitor.woken,
    (h.move (.resume consumer)).journal =
      h.journal ++ [.answered (some consumer) (.error .shutdown)]
  timeOut : ∀ consumer ∈ h.expired,
    (h.move (.timeOut consumer)).journal =
      h.journal ++ [.answered (some consumer) (.error .shutdown)]

theorem IsShut.refusesAll (hs : h.IsShut) : h.RefusesAll := by
  have hrefuses := Monitor.refuses hs.queue
  constructor
  case push => intro event pick; simp [History.move, hrefuses.push, note]
  case tryNext => simp [History.move, hrefuses.tryNext, note]
  case call =>
    intro consumer isLimited hnew
    rw [← isWaiting_iff, Bool.not_eq_true] at hnew
    simp [History.move, hnew, hrefuses.call, looked, note]
  case resume =>
    intro consumer hwoken
    simp [History.move, hwoken, hrefuses.resume, looked, note]
  case timeOut =>
    intro consumer hexpired
    simp [History.move, hexpired, hrefuses.timeOut, note]

/-- One move after the shutdown. -/
theorem IsShut.move (hs : h.IsShut) (move : Move α) :
    (h.move move).IsShut ∧ h.IsTold (h.move move) := by
  have hrefuses := Monitor.refuses hs.queue
  have hsame : h.IsTold h := isTold_of_waiting rfl fun _ hmem => hmem
  cases move with
  | push event pick =>
    simp only [History.move, hrefuses.push]
    exact ⟨⟨hs.queue, hs.asleep⟩, _, rfl, List.forall_mem_singleton.mpr rfl, fun _ => .inl⟩
  | tryNext =>
    simp only [History.move, hrefuses.tryNext]
    exact ⟨⟨hs.queue, hs.asleep⟩, _, rfl, List.forall_mem_singleton.mpr rfl, fun _ => .inl⟩
  | call consumer isLimited =>
    simp only [History.move, hrefuses.call]
    split
    · exact ⟨hs, hsame⟩
    · exact ⟨⟨hs.queue, hs.asleep⟩, _, rfl, List.forall_mem_singleton.mpr rfl, fun _ => .inl⟩
  | resume consumer =>
    simp only [History.move, hrefuses.resume]
    split
    · refine ⟨⟨hs.queue, hs.asleep⟩, isTold_of_run consumer rfl fun other hmem => ?_⟩
      by_cases hother : other = consumer
      · exact .inl hother
      · simp only [waiting, looked, note, List.mem_append, List.mem_erase_of_ne hother] at hmem ⊢
        exact .inr hmem
    · exact ⟨hs, hsame⟩
  | expire consumer =>
    have hawake : h.mayExpire consumer = false := by simp [mayExpire, hs.asleep]
    simp only [History.move, hawake, Bool.false_eq_true, if_false]
    exact ⟨hs, hsame⟩
  | timeOut consumer =>
    simp only [History.move, hrefuses.timeOut]
    split
    · have hasleep : h.monitor.asleep.erase consumer = [] := by rw [hs.asleep]; rfl
      refine ⟨⟨hs.queue, hasleep⟩, isTold_of_run consumer rfl fun other hmem => ?_⟩
      by_cases hother : other = consumer
      · exact .inl hother
      · simp only [waiting, note, List.mem_append, List.mem_erase_of_ne hother] at hmem ⊢
        exact .inr hmem
    · exact ⟨hs, hsame⟩
  | shutdown => exact ⟨⟨rfl, rfl⟩, h.isTold_shutdown⟩

theorem IsShut.run (hs : h.IsShut) (moves : List (Move α)) :
    (h.run moves).IsShut ∧ h.IsTold (h.run moves) := by
  induction moves generalizing h with
  | nil => exact ⟨hs, isTold_of_waiting rfl fun _ hmem => hmem⟩
  | cons move moves ih =>
    obtain ⟨hshut, htold⟩ := hs.move move
    obtain ⟨hlast, hrest⟩ := ih hshut
    exact ⟨hlast, htold.trans hrest⟩

/-! ### The contract -/

/-- What an event queue with this history owes to its callers. -/
structure KeepsContract (h : History α) : Prop where
  /-- Until the shutdown, what was taken and then what is pending is what was pushed, in order. -/
  delivered : h.monitor.queue.isShutDown = false →
    h.taken ++ h.monitor.queue.pending = h.pushed
  /-- What was taken is what was pushed first. -/
  first : h.taken <+: h.pushed
  /-- Whoever waits does so once: asleep, woken, or with its time up. -/
  apart : h.waiting.Nodup
  /-- While anybody sleeps, as many others are woken and have not run as there are events, and the
  queue is not shut down. -/
  awake : ∀ consumer ∈ h.monitor.asleep, consumer ∉ h.monitor.woken ∧
    h.monitor.queue.pending.length ≤ h.monitor.woken.length ∧ h.monitor.queue.isShutDown = false
  /-- From a shutdown on, whoever calls and whoever was waiting is told of it, now and whatever
  comes later. -/
  shut : ∀ later, h.IsTold (h.run (.shutdown :: later)) ∧
    (h.run (.shutdown :: later)).RefusesAll ∧ (h.run (.shutdown :: later)).monitor.asleep = []

/-- Any number of threads may push, take, wait and shut down in any order. -/
theorem contract_kept (moves : List (Move α)) : ((empty : History α).run moves).KeepsContract := by
  have horder : ((empty : History α).run moves).InOrder :=
    inOrder_run ⟨fun _ => rfl, List.prefix_rfl⟩ moves
  have hattended := attended_run (h := (empty : History α))
    ⟨List.nodup_nil, fun hasleep => absurd rfl hasleep⟩ moves
  exact {
    delivered := fun hopen => (horder.all hopen).symm
    first := horder.first
    apart := hattended.apart
    awake := fun consumer hasleep => by
      have hbeside := (List.nodup_append.mp hattended.apart).1
      have hnotWoken := fun hwoken => (List.nodup_append.mp hbeside).2.2 _ hasleep _ hwoken rfl
      exact ⟨hnotWoken, hattended.awake (List.ne_nil_of_mem hasleep)⟩
    shut := fun later => by
      have hshut : (((empty : History α).run moves).move .shutdown).IsShut := ⟨rfl, rfl⟩
      obtain ⟨hlast, htold⟩ := hshut.run later
      exact ⟨(isTold_shutdown _).trans htold, hlast.refusesAll, hlast.asleep⟩ }

/-- Another thread takes the event that a sleeper was woken for, and the sleeper sleeps again. -/
example : ((empty : History Nat).run
    [.call 1, .call 2, .push 7 0, .tryNext, .resume 1]).monitor.asleep = [2, 1] := by decide

end History
end PullStreams.EventQueue
