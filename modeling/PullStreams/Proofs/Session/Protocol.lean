/-
In which order events come on a stream's queue.

A stream is started before anything else; it plays until it is paused or stopped, it
can be stopped from a pause, and after its end nothing answers a request until it is
started or moved again.  What the session itself posts keeps to this, however the
calls, the executor and the shutdown take turns.

* `StreamEvent.MayFollow`, `FollowsProtocol` — the protocol, as what may come after
  what;
* `Standing.IsOrderly` — the invariant: the marks of a stream and the phase of its
  session agree with the last of its events;
* `stream_follows_protocol` — every stream of a session follows the protocol.
-/
import PullStreams.Proofs.Session.Standing

namespace PullStreams

variable {τ : Type}

/-! ### The protocol -/

/-- The last event of a list that answers no request: the stream was started or moved, paused or
stopped. -/
def lastControl? (told : List (StreamEvent τ)) : Option (StreamEvent τ) :=
  told.reverse.find? fun event => !event.isAnswer

/-- Whether the stream began again after every end that it was told. -/
def BeginsAfterEnds (told : List (StreamEvent τ)) : Prop :=
  ∀ earlier since, told = earlier ++ .endOfStream :: since → ∃ event ∈ since, event.opens = true

/-- Whether an event may come after those that a stream was told before. -/
structure StreamEvent.MayFollow (event : StreamEvent τ) (before : List (StreamEvent τ)) : Prop where
  /-- The first event lets the stream begin. -/
  beginning : before = [] → event.opens = true
  /-- Requests are answered, and the stream is paused, only while it plays. -/
  playing : event.isAnswer = true ∨ event = .paused →
    ∃ control, lastControl? before = some control ∧ control.opens = true
  /-- The stream is stopped while it plays or is paused. -/
  stopping : event = .stopped →
    ∃ control, lastControl? before = some control ∧ (control.opens = true ∨ control = .paused)
  /-- No request is answered between an end and the next beginning. -/
  ending : event.isAnswer = true → BeginsAfterEnds before

/-- Whether every event may come after those before it. -/
def FollowsProtocol (told : List (StreamEvent τ)) : Prop :=
  ∀ before event after, told = before ++ event :: after → event.MayFollow before

theorem followsProtocol_nil : FollowsProtocol ([] : List (StreamEvent τ)) := by
  intro before event after h
  simp at h

theorem followsProtocol_concat {told : List (StreamEvent τ)} {event : StreamEvent τ}
    (h : FollowsProtocol told) (hevent : event.MayFollow told) :
    FollowsProtocol (told ++ [event]) := by
  intro before next after hsplit
  rcases concat_eq_append_cons hsplit with ⟨rfl, rfl, _⟩ | ⟨rest, htold, _⟩
  · exact hevent
  · exact h before next rest htold

theorem lastControl?_concat (told : List (StreamEvent τ)) (event : StreamEvent τ) :
    lastControl? (told ++ [event]) = if event.isAnswer then lastControl? told else some event := by
  rw [lastControl?, List.reverse_append]
  cases h : event.isAnswer with
  | false => exact List.find?_cons_of_pos (by simp [h])
  | true => exact List.find?_cons_of_neg (by simp [h])

/-- Where a stream begins again, all its ends are past; other events than an end add none. -/
theorem beginsAfterEnds_concat {told : List (StreamEvent τ)} {event : StreamEvent τ}
    (h : event.opens = true ∨ BeginsAfterEnds told) (hevent : event ≠ .endOfStream) :
    BeginsAfterEnds (told ++ [event]) := by
  intro earlier since hsplit
  rcases concat_eq_append_cons hsplit with ⟨_, hlast, _⟩ | ⟨rest, htold, hsince⟩
  · exact absurd hlast hevent
  · rw [hsince]
    rcases h with hopens | htold'
    · exact ⟨event, List.mem_append_right _ List.mem_cons_self, hopens⟩
    · obtain ⟨next, hnext, hopens⟩ := htold' earlier rest htold
      exact ⟨next, List.mem_append_left _ hnext, hopens⟩

theorem ne_nil_of_lastControl? {told : List (StreamEvent τ)} {p : StreamEvent τ → Prop}
    (h : ∃ control, lastControl? told = some control ∧ p control) : told ≠ [] := by
  rintro rfl
  obtain ⟨_, hlast, _⟩ := h
  cases hlast

namespace StreamEvent

theorem isAnswer_of_opens {event : StreamEvent τ} (h : event.opens = true) :
    event.isAnswer = false := by
  cases event with
  | started | seeked => rfl
  | _ => cases h

theorem ne_of_opens {event other : StreamEvent τ} (h : event.opens = true)
    (hother : other.opens = false) : event ≠ other := by
  rintro rfl
  rw [h] at hother
  cases hother

/-- A stream may begin, or begin again, at any time. -/
theorem mayFollow_of_opens {event : StreamEvent τ} (h : event.opens = true)
    (before : List (StreamEvent τ)) : event.MayFollow before where
  beginning _ := h
  playing hevent := by
    rcases hevent with hanswer | hpaused
    · rw [isAnswer_of_opens h] at hanswer
      cases hanswer
    · exact absurd hpaused (ne_of_opens h rfl)
  stopping hstopped := absurd hstopped (ne_of_opens h rfl)
  ending hanswer := by
    rw [isAnswer_of_opens h] at hanswer
    cases hanswer

theorem mayFollow_answer {event : StreamEvent τ} (h : event.isAnswer = true)
    {before : List (StreamEvent τ)}
    (hlast : ∃ control, lastControl? before = some control ∧ control.opens = true)
    (hends : BeginsAfterEnds before) : event.MayFollow before where
  beginning hnil := absurd hnil (ne_nil_of_lastControl? hlast)
  playing _ := hlast
  stopping hstopped := by
    rw [hstopped] at h
    cases h
  ending _ := hends

theorem mayFollow_paused {before : List (StreamEvent τ)}
    (hlast : ∃ control, lastControl? before = some control ∧ control.opens = true) :
    MayFollow .paused before where
  beginning hnil := absurd hnil (ne_nil_of_lastControl? hlast)
  playing _ := hlast
  stopping := nofun
  ending := nofun

theorem mayFollow_stopped {before : List (StreamEvent τ)}
    (hlast : ∃ control, lastControl? before = some control ∧
      (control.opens = true ∨ control = .paused)) : MayFollow .stopped before where
  beginning hnil := absurd hnil (ne_nil_of_lastControl? hlast)
  playing hevent := by
    rcases hevent with hanswer | hpaused
    · cases hanswer
    · cases hpaused
  stopping _ := hlast
  ending := nofun

end StreamEvent

theorem opens_streamEvent (plan : StartPlan) : (plan.streamEvent : StreamEvent τ).opens = true := by
  unfold StartPlan.streamEvent
  split <;> rfl

/-! ### The invariant -/

/-- The marks of a stream and the phase of its session agree with what the stream was told. -/
structure Standing.IsOrderly (a : Standing τ) : Prop where
  follows : FollowsProtocol a.told
  playing : a.phase = .running → a.isActive = true →
    ∃ control, lastControl? a.told = some control ∧ control.opens = true
  paused : a.phase = .paused → a.isActive = true → lastControl? a.told = some .paused
  goesOn : a.isActive = true → a.hasEnded = false → BeginsAfterEnds a.told

namespace Standing

theorem isOrderly_fresh : (fresh : Standing τ).IsOrderly where
  follows := followsProtocol_nil
  playing hphase := by cases hphase
  paused hphase := by cases hphase
  goesOn hactive := by cases hactive

/-- A stream that is told nothing, as it is not active, stays orderly in any phase. -/
theorem orderly_inactive {a b : Standing τ} (ha : a.IsOrderly) (htold : b.told = a.told)
    (hactive : b.isActive = false) : b.IsOrderly := by
  have hnot : b.isActive ≠ true := by simp [hactive]
  exact ⟨htold ▸ ha.follows, fun _ hb => absurd hb hnot, fun _ hb => absurd hb hnot,
    fun hb => absurd hb hnot⟩

theorem orderly_start {a : Standing τ} (ha : a.IsOrderly) (plan : StartPlan) (on : Bool) :
    ({ a.start plan on with phase := .running } : Standing τ).IsOrderly := by
  cases on with
  | false => exact orderly_inactive ha (List.append_nil a.told) rfl
  | true =>
    have hopens := opens_streamEvent (τ := τ) plan
    have hlast : lastControl? (a.told ++ [plan.streamEvent]) = some plan.streamEvent := by
      rw [lastControl?_concat, StreamEvent.isAnswer_of_opens hopens]
      rfl
    constructor
    case follows =>
      exact followsProtocol_concat ha.follows (StreamEvent.mayFollow_of_opens hopens _)
    case playing => exact fun _ _ => ⟨_, hlast, hopens⟩
    case paused => exact nofun
    case goesOn =>
      exact fun _ _ => beginsAfterEnds_concat (.inl hopens) (StreamEvent.ne_of_opens hopens rfl)

theorem orderly_answer {a : Standing τ} (ha : a.IsOrderly) {event : StreamEvent τ}
    (hphase : a.phase = .running) (hactive : a.isActive = true) (hgoes : a.hasEnded = false)
    (hevent : event.isAnswer = true) :
    ({ a.tell event with hasEnded := event.isEnd } : Standing τ).IsOrderly := by
  have hplaying := ha.playing hphase hactive
  have hlast : lastControl? (a.told ++ [event]) = lastControl? a.told := by
    rw [lastControl?_concat, if_pos hevent]
  have hfollows := StreamEvent.mayFollow_answer hevent hplaying (ha.goesOn hactive hgoes)
  constructor
  case follows => exact followsProtocol_concat ha.follows hfollows
  case playing => exact fun _ _ => hlast ▸ hplaying
  case paused =>
    intro hpaused
    rw [show a.phase = .paused from hpaused] at hphase
    cases hphase
  case goesOn =>
    intro _ hended
    refine beginsAfterEnds_concat (.inr (ha.goesOn hactive hgoes)) ?_
    rintro rfl
    cases hended

theorem orderly_pause {a : Standing τ} (ha : a.IsOrderly) (hphase : a.phase = .running)
    (hactive : a.isActive = true) :
    ({ a.tell .paused with phase := .paused } : Standing τ).IsOrderly := by
  have hplaying := ha.playing hphase hactive
  constructor
  case follows =>
    exact followsProtocol_concat ha.follows (StreamEvent.mayFollow_paused hplaying)
  case playing => exact nofun
  case paused => exact fun _ _ => lastControl?_concat a.told .paused
  case goesOn => exact fun _ hended => beginsAfterEnds_concat (.inr (ha.goesOn hactive hended)) nofun

theorem orderly_stop {a : Standing τ} (ha : a.IsOrderly)
    (hphase : a.phase = .running ∨ a.phase = .paused) (hactive : a.isActive = true) :
    ({ a.tell .stopped with phase := .stopped } : Standing τ).IsOrderly := by
  have hlast : ∃ control, lastControl? a.told = some control ∧
      (control.opens = true ∨ control = .paused) := by
    rcases hphase with hrunning | hpaused
    · obtain ⟨control, hlast, hopens⟩ := ha.playing hrunning hactive
      exact ⟨control, hlast, .inl hopens⟩
    · exact ⟨.paused, ha.paused hpaused hactive, .inr rfl⟩
  constructor
  case follows => exact followsProtocol_concat ha.follows (StreamEvent.mayFollow_stopped hlast)
  case playing | paused => exact nofun
  case goesOn => exact fun _ hended => beginsAfterEnds_concat (.inr (ha.goesOn hactive hended)) nofun

theorem orderly_turn {a b : Standing τ} {starting : Prop} (ha : a.IsOrderly)
    (h : a.Turn starting b) : b.IsOrderly := by
  cases h with
  | rest => exact ha
  | start _ _ plan on => exact orderly_start ha plan on
  | pause hphase =>
    rw [tellActive]
    split
    · next hactive => exact orderly_pause ha hphase hactive
    · next hidle => exact orderly_inactive ha rfl (Bool.eq_false_iff.mpr hidle)
  | stop hphase =>
    rw [tellActive]
    split
    · next hactive => exact orderly_stop ha hphase hactive
    · next hidle => exact orderly_inactive ha rfl (Bool.eq_false_iff.mpr hidle)
  | answer hphase hactive hgoes hevent => exact orderly_answer ha hphase hactive hgoes hevent
  | shutdown => exact orderly_inactive ha rfl rfl

end Standing

namespace Session

variable {σ β : Type}

/-- What a session tells a stream follows the protocol.  It is what the session itself posts on the
stream's queue: an action posts what it tells, unless it is about the queue itself; then it tells
nothing. -/
theorem stream_follows_protocol [ByteSource σ] {E : Engine σ β} {s : Session σ β τ}
    (h : Reachable E s) (index : Nat) :
    FollowsProtocol (s.toldTo index) ∧ ∀ action : Action τ, ∃ told,
      (s.step E action).toldTo index = s.toldTo index ++ told ∧
      if action.touchesQueues then told = []
      else (s.step E action).streams[index]?.map (·.events) =
        s.streams[index]?.map fun stream => told.foldl EventQueue.post stream.events := by
  have horderly : (s.standing index).IsOrderly :=
    standing_induction Standing.isOrderly_fresh Standing.orderly_turn h index
  exact ⟨horderly.follows, fun action => step_tells E s action index⟩

end Session

namespace Sketch

/-- The second stream gives a sample, is paused and resumed, gives another one and ends; then the
session is to be stopped. -/
def exhaustingSecond : List (Action Nat) :=
  [start [false, true], .take, .execute, .requestSample 1 (some 5), .take, .execute, .pause, .take,
    .execute, start [false, true], .take, .execute, .requestSample 1 none, .requestSample 1 none,
    .take, .execute, .take, .execute, .stop, .take]

theorem stream_follows_protocol_exhausting :
    (play exhaustingSecond).toldTo 1 =
        [.started (some .zero), .sample ⟨[1, 10, 11], ⟨40000000⟩, ⟨20000000⟩, some 5⟩, .paused,
          .started none, .sample ⟨[2, 20], ⟨60000000⟩, ⟨15000000⟩, none⟩, .endOfStream] ∧
      FollowsProtocol ((play exhaustingSecond).toldTo 1) ∧
      ∃ told, ((play exhaustingSecond).step engine .execute).toldTo 1 =
        (play exhaustingSecond).toldTo 1 ++ told := by
  have h := Session.stream_follows_protocol (reachable exhaustingSecond) 1
  obtain ⟨told, htold, _⟩ := h.2 .execute
  exact ⟨rfl, h.1, told, htold⟩

end Sketch
end PullStreams
