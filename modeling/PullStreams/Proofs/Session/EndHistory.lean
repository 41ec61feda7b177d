/-
Why the end of a presentation was announced, as the history of the session tells.

The session announces the end while it answers a request, and that answer ends the last
of the streams that went on.  Of every active stream the history has an end that no
start has undone, and between two announcements a start has brought streams back.

* `Announces`, `AnnouncesTo` — the session itself, and not a consumer, puts an event on
  a queue;
* `endStands_of_hasEnded` — the mark of a stream that has ended stands for an end in
  the history, with nothing after it that would undo it;
* `restart_between` — where no stream went on and then some stream goes on, a start was
  carried out in between;
* `presentation_end_earned` — what an announced end says of the history.
-/
import Mathlib.Data.List.Induction
import PullStreams.Proofs.Session.Starting

namespace PullStreams

namespace Session

variable {σ β τ : Type} [ByteSource σ] {E : Engine σ β} {s : Session σ β τ} {action : Action τ}
  {index : Nat}

theorem run_concat (actions : List (Action τ)) (action : Action τ) :
    s.run E (actions ++ [action]) = (s.run E actions).step E action :=
  run_append E s actions [action]

/-! ### What the session itself says -/

/-- An action that is no consumer's own event puts an event on the source's queue. -/
def Announces (E : Engine σ β) (s : Session σ β τ) (action : Action τ) (event : SourceEvent) :
    Prop :=
  (∀ own, action ≠ .queueEvent own) ∧
    ∃ events, (s.step E action).events.pending = s.events.pending ++ events ∧ event ∈ events

/-- An action that is no consumer's own event puts an event, and nothing else, on a stream's
queue. -/
def AnnouncesTo (E : Engine σ β) (s : Session σ β τ) (action : Action τ) (index : Nat)
    (event : StreamEvent τ) : Prop :=
  (∀ place own, action ≠ .queueStreamEvent place own) ∧
    ∃ stream, s.streams[index]? = some stream ∧
      (s.step E action).streams[index]?.map (·.events.pending) =
        some (stream.events.pending ++ [event])

/-- What a living session tells a stream comes on the stream's queue. -/
theorem announcesTo_of_told (h : Reachable E s) (halive : s.phase ≠ .shutdown)
    (hstream : (s.step E action).streams[index]? ≠ none) {event : StreamEvent τ}
    (htold : (s.step E action).toldTo index = s.toldTo index ++ [event]) :
    s.AnnouncesTo E action index event := by
  obtain ⟨told, htold', hqueue⟩ := step_tells E s action index
  obtain rfl : told = [event] := List.append_cancel_left (htold'.symm.trans htold)
  have haction : action.touchesQueues = false := by
    by_contra htouches
    rw [if_pos (Bool.not_eq_false _ ▸ htouches)] at hqueue
    cases hqueue
  rw [if_neg (by simp [haction])] at hqueue
  refine ⟨fun place own heq => ?_, ?_⟩
  · rw [heq] at haction
    cases haction
  obtain ⟨after, hafter⟩ := Option.ne_none_iff_exists'.mp hstream
  rw [hafter, Option.map_some] at hqueue
  obtain ⟨stream, hbefore, hevents⟩ := Option.map_eq_some_iff.mp hqueue.symm
  have hlive : stream.events.isShutDown = false :=
    listening_of_reachable h halive stream (List.mem_of_getElem? hbefore)
  refine ⟨stream, hbefore, ?_⟩
  rw [hafter, Option.map_some, ← hevents, EventQueue.pending_foldl_post hlive]

/-- A stream that is marked as ended was so before, or hears of its end now. -/
theorem hasEnded_step (h : Reachable E s) (hended : (s.step E action).hasEnded index = true) :
    s.hasEnded index = true ∨ s.AnnouncesTo E action index .endOfStream := by
  rcases (standing_step E s action index).hasEnded hended with hbefore | ⟨hphase, htold⟩
  · exact .inl hbefore
  · have halive : s.phase ≠ .shutdown := by
      rw [show s.phase = .running from hphase]
      decide
    refine .inr (announcesTo_of_told h halive (fun hnone => ?_) htold)
    rw [hasEnded, hnone] at hended
    cases hended

/-! ### Ends that stand -/

/-- Whether an action lets a stream go on past its end: it carries out a start that moves the
session, or that takes the stream up anew. -/
def Renews (E : Engine σ β) (s : Session σ β τ) (action : Action τ) (index : Nat) : Prop :=
  action = .execute ∧ ∃ presentation format position,
    s.Completes E (.start presentation format position) ∧
      ((s.startTarget position).isSome = true ∨
        s.isActive index = false ∧ (s.execute E).isActive index = true)

/-- Whether a stream hears of its end in a run, and nothing renews it afterwards. -/
def EndStands (E : Engine σ β) (s : Session σ β τ) (actions : List (Action τ)) (index : Nat) :
    Prop :=
  ∃ before action after, actions = before ++ action :: after ∧
    (s.run E before).AnnouncesTo E action index .endOfStream ∧
    ∀ between later rest, after = between ++ later :: rest →
      ¬(s.run E (before ++ action :: between)).Renews E later index

theorem hasEnded_of_renews (h : s.Renews E action index) :
    (s.step E action).hasEnded index = false := by
  obtain ⟨rfl, presentation, format, position, hcompletes, hwhy⟩ := h
  set plan := s.planStart presentation.selectedIds position
  have hstanding := hcompletes.standing_start index
  have hactive : (s.execute E).isActive index = plan.selects index :=
    congrArg Standing.isActive hstanding
  have hended : (s.execute E).hasEnded index =
      (s.hasEnded index && !(plan.target.isSome || (plan.selects index && !s.isActive index))) :=
    congrArg Standing.hasEnded hstanding
  have hforgets : (plan.target.isSome || (plan.selects index && !s.isActive index)) = true := by
    rcases hwhy with hmoves | ⟨hidle, htaken⟩
    · rw [show plan.target.isSome = true from hmoves, Bool.true_or]
    · rw [← hactive, htaken, hidle]
      exact Bool.or_true _
  show (s.execute E).hasEnded index = false
  rw [hended, hforgets]
  exact Bool.and_false _

theorem EndStands.concat {actions : List (Action τ)} (h : EndStands E s actions index)
    (hlast : ¬(s.run E actions).Renews E action index) :
    EndStands E s (actions ++ [action]) index := by
  obtain ⟨before, first, after, rfl, htold, hkeeps⟩ := h
  refine ⟨before, first, after ++ [action], by simp, htold, fun between later rest hsplit => ?_⟩
  rcases concat_eq_append_cons hsplit with ⟨rfl, rfl, _⟩ | ⟨rest, hafter, _⟩
  · exact hlast
  · exact hkeeps between later rest hafter

/-- The mark of a stream that has ended stands for an end in the history. -/
theorem endStands_of_hasEnded {config : SourceConfig} {source : σ}
    (h : ofSource E config source = .ok s) (actions : List (Action τ))
    (hended : (s.run E actions).hasEnded index = true) : EndStands E s actions index := by
  induction actions using List.reverseRecOn with
  | nil =>
    have hfresh : (s.standing index).hasEnded = false := by
      obtain ⟨info, layout, after, heq⟩ := gist_ofSource h
      rw [← standing_gist, heq, standing_fresh]
      rfl
    have hended : (s.standing index).hasEnded = true := hended
    rw [hfresh] at hended
    cases hended
  | append_singleton actions action ih =>
    have hreachable : Reachable E (s.run E actions) := (Reachable.opened h).run actions
    rw [run_concat] at hended
    rcases hasEnded_step hreachable hended with hbefore | htold
    -- A renewal would have taken the mark away.
    · refine (ih hbefore).concat fun hrenews => ?_
      rw [hasEnded_of_renews hrenews] at hended
      cases hended
    · exact ⟨actions, action, [], rfl, htold, fun _ _ _ hnil => by simp at hnil⟩

/-! ### Starts in between -/

/-- A start in hand is carried out with success, or it changes no mark. -/
theorem flags_execute_start {envelope : Envelope τ} (hhand : s.commands.inHand = some envelope)
    (hstart : envelope.command.isStart = true) :
    (∃ presentation format position, s.Completes E (.start presentation format position)) ∨
      (s.execute E).flags = s.flags := by
  obtain ⟨number, command⟩ := envelope
  cases command with
  | start presentation format position =>
    by_cases hlate : s.phase = .shutdown ∨ s.executorBroke = true
    · right
      rw [execute_of_hand E hhand, if_pos hlate]
      rfl
    · obtain ⟨halive, hworks⟩ := not_or.mp hlate
      cases hstumble : s.emptyHanded.stumble? E (.start presentation format position) with
      | some backend =>
        right
        have hforgo := gist_forgoBackend E (s.emptyHanded.noteCall .create) backend
        rw [execute_of_hand E hhand, if_neg hlate]
        simp only [hstumble]
        show ((s.emptyHanded.noteCall .create).forgoBackend E backend).gist.flags = s.flags
        rw [hforgo]
        rfl
      | none =>
        rcases runStart_cases E s.emptyHanded presentation format position with
          ⟨_, hsucceeds, _⟩ | ⟨r, e, hfailed, _, _, _, hgist⟩
        · exact .inl ⟨presentation, format, position, ⟨number, hhand⟩, halive,
            Bool.eq_false_iff.mpr hworks, hstumble, hsucceeds⟩
        · right
          have hperform : s.emptyHanded.perform E (.start presentation format position) =
              ((s.emptyHanded.runStart E presentation format position).1, .error e) :=
            Prod.ext rfl hfailed
          rw [execute_of_hand E hhand, if_neg hlate]
          simp only [hstumble, hperform]
          show (s.emptyHanded.runStart E presentation format position).1.gist.flags = s.flags
          rw [hgist]
          rfl
  | _ => cases hstart

/-- Where a stream comes to go on, a start was carried out. -/
theorem serves_step (hserves : (s.step E action).serves index = true) :
    s.serves index = true ∨ action = .execute ∧
      ∃ presentation format position, s.Completes E (.start presentation format position) := by
  obtain ⟨hactive, hgoes⟩ := serves_iff.mp hserves
  rcases (standing_step E s action index).goesOn hactive hgoes with
    ⟨rfl, envelope, hhand, hstart⟩ | hbefore
  · rcases flags_execute_start (E := E) hhand hstart with hcompletes | hflags
    · exact .inr ⟨rfl, hcompletes⟩
    · left
      rw [← hserves, serves_eq, serves_eq, isActive_eq, isActive_eq, hasEnded_eq, hasEnded_eq]
      rw [show (s.step E .execute).flags = s.flags from hflags]
  · exact .inl (serves_iff.mpr hbefore)

/-- Where no stream went on and then some stream goes on, a start was carried out in between that
brought streams back. -/
theorem restart_between (hnone : ∀ index, s.serves index = false) (actions : List (Action τ))
    (hserves : (s.run E actions).serves index = true) :
    ∃ before rest, actions = before ++ .execute :: rest ∧
      (∃ presentation format position,
        (s.run E before).Completes E (.start presentation format position)) ∧
      ∃ other, (s.run E (before ++ [.execute])).serves other = true := by
  -- The first action after which some stream goes on is the start.
  induction actions generalizing s with
  | nil =>
    rw [run_nil, hnone index] at hserves
    cases hserves
  | cons action actions ih =>
    by_cases hnext : ∃ other, (s.step E action).serves other = true
    · obtain ⟨other, hother⟩ := hnext
      rcases serves_step hother with hbefore | ⟨rfl, hcompletes⟩
      · rw [hnone other] at hbefore
        cases hbefore
      · exact ⟨[], actions, rfl, hcompletes, other, hother⟩
    · have hstill : ∀ other, (s.step E action).serves other = false := fun other =>
        Bool.eq_false_iff.mpr fun hother => hnext ⟨other, hother⟩
      obtain ⟨before, rest, rfl, hcompletes, hbrought⟩ := ih hstill hserves
      exact ⟨action :: before, rest, rfl, hcompletes, hbrought⟩

/-! ### The announcement -/

/-- The session announces the end of the presentation when it answers a request with the end of a
stream, after which none goes on. -/
theorem announces_end (hend : s.Announces E action .endOfPresentation) :
    action = .execute ∧
      (s.execute E).events.pending = s.events.pending ++ [.endOfPresentation] ∧
      (∀ other, (s.execute E).serves other = false) ∧
      ∃ index, s.serves index = true ∧ ∀ other, (s.execute E).standing other =
        if index = other then { (s.standing other).tell .endOfStream with hasEnded := true }
        else s.standing other := by
  obtain ⟨hown, events, hpending, hmem⟩ := hend
  have hmoves := moves_step E s action
  have hgrown : s.events.pending.length < (s.step E action).events.pending.length := by
    rw [hpending, List.length_append]
    have hpos := List.length_pos_of_mem hmem
    omega
  have haction : action.touchesSource = false := by
    by_contra htouches
    have hle := pending_moves hmoves (Bool.not_eq_false _ ▸ htouches) hown
    exact absurd hgrown (Nat.not_lt.mpr hle)
  obtain ⟨posted, hposts, hends⟩ := posts_moves hmoves haction
  have hqueue : (s.step E action).events = posted.foldl EventQueue.post s.events := hposts.queue
  have hlive : s.events.isShutDown = false := by
    by_contra hshut
    rw [hqueue, EventQueue.foldl_post_of_shut (Bool.not_eq_false _ ▸ hshut)] at hgrown
    omega
  have hposted : events = posted := by
    rw [hqueue, EventQueue.pending_foldl_post hlive] at hpending
    exact (List.append_cancel_left hpending).symm
  obtain ⟨rfl, hevents, envelope, hhand, index, request, _, hserves, hgist, hended⟩ :=
    hends (hposted ▸ hmem)
  refine ⟨rfl, ?_, allEnded_iff.mp hended, index, hserves, fun other => ?_⟩
  · rw [← hevents, ← hposted]
    exact hpending
  · have hindex : index < s.gist.emptyHanded.streams.length :=
      lt_of_isActive (serves_iff.mp hserves).1
    have hstanding := standing_endStream s.gist.emptyHanded hindex request other
    have hempty : s.gist.emptyHanded.standing other = s.standing other := standing_gist s other
    have hexecuted : (s.execute E).gist = s.gist.emptyHanded.endStream index request := hgist
    rw [← standing_gist, hexecuted, hstanding, hempty]

/-- The stream that ends with the presentation was the last that went on, and hears of it now. -/
theorem last_of_announces (h : Reachable E s)
    (hend : s.Announces E .execute .endOfPresentation) :
    ∃ index, s.serves index = true ∧ (∀ other, s.serves other = true → other = index) ∧
      s.AnnouncesTo E .execute index .endOfStream ∧ (s.execute E).isActive index = true := by
  obtain ⟨_, _, hnone, index, hserves, hstanding⟩ := announces_end hend
  obtain ⟨hactive, hgoes⟩ := serves_iff.mp hserves
  have hended := (hstanding index).trans (if_pos rfl)
  refine ⟨index, hserves, fun other hother => ?_, ?_, ?_⟩
  · by_contra hne
    have hsame := (hstanding other).trans (if_neg (Ne.symm hne))
    have hstill : (s.execute E).serves other = s.serves other := by
      rw [serves_eq, serves_eq]
      exact congrArg (fun standing => standing.isActive && !standing.hasEnded) hsame
    rw [hnone other, hother] at hstill
    cases hstill
  · have hmark : (s.step E .execute).hasEnded index = true := congrArg Standing.hasEnded hended
    rcases hasEnded_step h hmark with hbefore | htold
    · rw [hgoes] at hbefore
      cases hbefore
    · exact htold
  · exact (congrArg Standing.isActive hended).trans hactive

/-- When the session announces the end of the presentation, the same execution ends the last of the
streams that went on; every active stream has an end that stands; and since the last such
announcement a start has brought streams back. -/
theorem presentation_end_earned {config : SourceConfig} {source : σ}
    (h : ofSource E config source = .ok s) (before : List (Action τ)) {action : Action τ}
    (hend : (s.run E before).Announces E action .endOfPresentation) :
    action = .execute ∧
      (s.run E (before ++ [.execute])).events.pending =
        (s.run E before).events.pending ++ [.endOfPresentation] ∧
      (∃ index, (s.run E before).serves index = true ∧
        (∀ other, (s.run E before).serves other = true → other = index) ∧
        (s.run E before).AnnouncesTo E .execute index .endOfStream ∧
        (s.run E (before ++ [.execute])).isActive index = true) ∧
      (∀ index, (s.run E (before ++ [.execute])).isActive index = true →
        EndStands E s (before ++ [.execute]) index) ∧
      ∀ earlier first between, before = earlier ++ first :: between →
        (s.run E earlier).Announces E first .endOfPresentation →
          ∃ since rest, between = since ++ .execute :: rest ∧
            (∃ presentation format position, (s.run E (earlier ++ first :: since)).Completes E
              (.start presentation format position)) ∧
            ∃ index, (s.run E (earlier ++ first :: since ++ [.execute])).serves index = true := by
  obtain ⟨rfl, hpending, hnone, index, hserves, _⟩ := announces_end hend
  have hafter : s.run E (before ++ [.execute]) = (s.run E before).execute E := run_concat before _
  refine ⟨rfl, hafter ▸ hpending, ?_, fun index hactive => ?_, ?_⟩
  · rw [hafter]
    exact last_of_announces ((Reachable.opened h).run before) hend
  · refine endStands_of_hasEnded h _ ?_
    have hstill := hnone index
    rw [hafter] at hactive ⊢
    rw [serves_eq, hactive, Bool.true_and, Bool.not_eq_false'] at hstill
    exact hstill
  · rintro earlier first between rfl hfirst
    -- After the first announcement no stream went on; at the second one a stream did.
    obtain ⟨rfl, _, hover, _⟩ := announces_end hfirst
    have hrun : s.run E (earlier ++ .execute :: between) =
        ((s.run E earlier).step E .execute).run E between := run_append E s earlier _
    rw [hrun] at hserves
    obtain ⟨since, rest, hsplit, hcompletes, other, hother⟩ :=
      restart_between hover between hserves
    refine ⟨since, rest, hsplit, ?_, other, ?_⟩
    · rw [run_append]
      exact hcompletes
    · rw [List.append_assoc, run_append]
      exact hother

end Session

namespace Sketch

/-- After its end the session is stopped, and the empty stream is started and exhausted anew. -/
def exhaustingAgain : List (Action Nat) := [.stop, .take, .execute] ++ exhausting

theorem presentation_end_earned_again :
    (play (exhausting ++ .execute :: exhaustingAgain)).Announces engine .execute
        .endOfPresentation ∧
      Session.EndStands engine opened (exhausting ++ .execute :: exhaustingAgain ++ [.execute]) 0 ∧
      ∃ since rest, exhaustingAgain = since ++ .execute :: rest ∧
        (∃ presentation format position, (play (exhausting ++ .execute :: since)).Completes engine
          (.start presentation format position)) ∧
        ∃ index, (play (exhausting ++ .execute :: since ++ [.execute])).serves index = true := by
  have hfirst : (play exhausting).Announces engine .execute .endOfPresentation :=
    ⟨nofun, [.endOfPresentation], rfl, List.mem_singleton_self _⟩
  have hsecond : (play (exhausting ++ .execute :: exhaustingAgain)).Announces engine .execute
      .endOfPresentation :=
    ⟨nofun, [.endOfPresentation], rfl, List.mem_singleton_self _⟩
  obtain ⟨_, _, _, hstands, hbetween⟩ :=
    Session.presentation_end_earned opened_eq (exhausting ++ .execute :: exhaustingAgain) hsecond
  exact ⟨hsecond, hstands 0 rfl, hbetween exhausting .execute exhaustingAgain rfl hfirst⟩

end Sketch
end PullStreams
