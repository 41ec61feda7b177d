/-
When the end of a presentation is announced.

A presentation is over when streams are active and all of them have ended.  Two kinds
of commands bring that about: a request that finds the last of the streams exhausted,
and a start that leaves only streams active that have ended before.  Only the first
announces the end.

* `Session.IsTimely` — the invariant: while the session lives its queue is open, and
  the end that was announced has come;
* `endPosted_execute` — a command that ends the presentation announces it, once, unless
  the command is a start;
* `start_ends_silently` — a start that ends it, of which the queue does not hear.
-/
import PullStreams.Proofs.Session.Posting

namespace PullStreams

namespace Session

variable {σ β τ : Type}

theorem presentationEnded_endPresentation (s : Session σ β τ) :
    s.endPresentation.presentationEnded = (s.presentationEnded || s.allEnded) := by
  unfold endPresentation
  split
  · next h => rw [(Bool.and_eq_true_iff.mp h).2, Bool.or_true]; rfl
  · next h =>
    cases hended : s.presentationEnded with
    | true => rfl
    | false => simpa [hended] using h

theorem presentationEnded_endStream (s : Session σ β τ) (index : Nat) (request : Request τ) :
    (s.endStream index request).presentationEnded =
      (s.presentationEnded || (s.endStream index request).allEnded) := by
  set marked := (s.updateStream index fun stream =>
    { stream with hasEnded := true }).answer index request .endOfStream
  have hended : (s.endStream index request).allEnded = marked.allEnded := by
    rw [allEnded_eq, allEnded_eq, ← flags_endPresentation marked]
    rfl
  rw [hended]
  exact presentationEnded_endPresentation marked

/-! ### The invariant -/

/-- While a session lives its queue is open, and an end that was announced has come. -/
structure IsTimely (s : Session σ β τ) : Prop where
  isOpen : s.phase ≠ .shutdown → s.events.isShutDown = false
  isOver : s.phase ≠ .shutdown → s.presentationEnded = true → s.isOver = true

/-- Who posts no end, and stops no stream and starts none, keeps time. -/
theorem IsTimely.kept {s t : Session σ β τ} (hs : s.IsTimely)
    (hphase : s.phase = .shutdown → t.phase = .shutdown)
    (hqueue : t.events.isShutDown = s.events.isShutDown) (hflags : t.flags = s.flags)
    (hended : t.presentationEnded = s.presentationEnded) : t.IsTimely where
  isOpen h := hqueue.trans (hs.isOpen fun hs => h (hphase hs))
  isOver h ht := (isOver_of_flags hflags).trans (hs.isOver (fun hs => h (hphase hs)) (hended ▸ ht))

theorem serves_active {s : Session σ β τ} {index : Nat} (h : s.serves index = true) :
    s.flags.any (·.1) = true := by
  unfold serves at h
  cases hstream : s.streams[index]? with
  | none => simp [hstream] at h
  | some stream =>
    rw [hstream] at h
    have hactive : stream.isActive = true := (Bool.and_eq_true_iff.mp h).1
    refine List.any_eq_true.mpr ⟨(stream.isActive, stream.hasEnded), ?_, hactive⟩
    exact List.mem_map_of_mem (List.mem_of_getElem? hstream)

/-- Ending a stream stops none. -/
theorem active_endStream (s : Session σ β τ) (index : Nat) (request : Request τ) :
    (s.endStream index request).flags.any (·.1) = s.flags.any (·.1) := by
  have hactive : ∀ flags : List (Bool × Bool),
      flags.any (·.1) = (flags.map (·.1)).any id := fun flags => by rw [List.any_map]; rfl
  have hmap := map_modify (f := fun flag : Bool × Bool => (flag.1, true)) (g := (·.1)) (k := id)
    (fun _ => rfl) s.flags index
  rw [flags_endStream, hactive, hactive, hmap, List.modify_id]

theorem allEnded_endStream {s : Session σ β τ} (h : s.allEnded = true) (index : Nat)
    (request : Request τ) : (s.endStream index request).allEnded = true := by
  rw [allEnded_eq] at h ⊢
  rw [flags_endStream]
  exact all_modify (fun flag _ => by cases flag.1 <;> rfl) h index

theorem timely_performs {g t : Session Unit Unit τ} {command : Command τ} (hg : g.IsTimely)
    (halive : g.phase ≠ .shutdown) (h : Performs g command t) : t.IsTimely := by
  have hqueue : t.events.isShutDown = g.events.isShutDown := by
    obtain ⟨events, hposts, _⟩ := posts_performs h
    rw [hposts.queue, EventQueue.isShutDown_foldl_post]
  have hdead : g.phase = .shutdown → t.phase = .shutdown := fun hshut => absurd hshut halive
  cases h with
  | start _ _ =>
    refine ⟨fun _ => hqueue.trans (hg.isOpen halive), fun _ hended => ?_⟩
    cases hended
  | noStart _ _ _ | noPause _ | noStop _ | drop _ => exact hg.kept hdead hqueue rfl rfl
  | pause _ =>
    exact hg.kept hdead hqueue (flags_announceActive g .paused) (ended_announceActive g .paused)
  | stop _ =>
    exact hg.kept hdead hqueue ((flags_dropDeferred _).trans (flags_announceActive g .stopped))
      (ended_announceActive g .stopped)
  | defer _ => exact hg.kept hdead hqueue (flags_updateStream g _ fun _ => rfl) rfl
  | @answer index request _ hserves result =>
    rcases flags_answerWith g index request result with heq | ⟨hflags, _, hended, _⟩
    · -- The end of a stream: an announcement before stays true, and a new one has its reason.
      refine ⟨fun _ => hqueue.trans (hg.isOpen halive), fun _ hafter => ?_⟩
      rw [heq] at hafter ⊢
      rw [isOver_eq, active_endStream, serves_active hserves, Bool.true_and]
      rw [presentationEnded_endStream, Bool.or_eq_true] at hafter
      rcases hafter with hbefore | hafter
      · have hover := hg.isOver halive hbefore
        rw [isOver_eq] at hover
        exact allEnded_endStream (Bool.and_eq_true_iff.mp hover).2 index request
      · exact hafter
    · exact hg.kept hdead hqueue hflags hended

theorem timely_moves {g t : Session Unit Unit τ} {action : Action τ} (hg : g.IsTimely)
    (h : Moves g action t) : t.IsTimely := by
  cases h with
  | nothing _ => exact hg
  | submit _ _ _ | skip _ _ _ | accept _ _ | take => exact hg.kept id rfl rfl rfl
  | shutdown _ => exact ⟨fun h => absurd rfl h, fun h => absurd rfl h⟩
  | setRate _ => exact hg.kept id (EventQueue.isShutDown_post ..) rfl rfl
  | nextEvent => exact hg.kept id (EventQueue.isShutDown_tryNext g.events) rfl rfl
  | queueEvent => exact hg.kept id (EventQueue.isShutDown_post ..) rfl rfl
  | nextStreamEvent =>
    simp only [nextStreamEvent]
    split
    · exact hg
    · exact hg.kept id rfl (flags_updateStream g _ fun _ => rfl) rfl
  | queueStreamEvent =>
    simp only [queueStreamEvent]
    split
    · exact hg
    · exact hg.kept id rfl (flags_updateStream g _ fun _ => rfl) rfl
  | execute h =>
    cases h with
    | idle _ => exact hg
    | discard _ _ =>
      unfold discard
      split <;> exact hg.kept id rfl rfl rfl
    | breakOff _ _ _ => exact hg.kept id rfl rfl rfl
    | perform _ halive _ h =>
      have hempty : g.emptyHanded.IsTimely := hg.kept id rfl rfl rfl
      exact timely_performs hempty halive h

theorem timely_of_reachable [ByteSource σ] {E : Engine σ β} {s : Session σ β τ}
    (h : Reachable E s) : s.gist.IsTimely :=
  gist_induction (fun _ _ _ _ => ⟨fun _ => rfl, fun _ hended => by cases hended⟩) timely_moves h

/-! ### The announcement -/

/-- What a command posts that ends the presentation, the backend apart. -/
theorem endPosted_performs {g t : Session Unit Unit τ} {command : Command τ} (hg : g.IsTimely)
    (halive : g.phase ≠ .shutdown) (h : Performs g command t)
    (hplaying : t.phase = .running ∨ t.phase = .paused) (hbefore : g.isOver = false)
    (hafter : t.isOver = true) :
    ∃ posted, t.events.pending = g.events.pending ++ posted ∧
      posted.count .endOfPresentation = if command.isStart then 0 else 1 := by
  have hsame : t.flags = g.flags → False := fun hflags => by
    rw [isOver_of_flags hflags, hbefore] at hafter
    cases hafter
  obtain ⟨posted, hposts, hends⟩ := posts_performs h
  refine ⟨posted, ?_, ?_⟩
  · rw [hposts.queue, EventQueue.pending_foldl_post (hg.isOpen halive)]
  cases h with
  | start _ _ =>
    refine List.count_eq_zero.mpr fun hmem => ?_
    obtain ⟨_, _, _, hcommand, _⟩ := hends hmem
    cases hcommand
  | noStart _ _ _ | noPause _ | noStop _ | drop _ => exact (hsame rfl).elim
  | pause _ => exact (hsame (flags_announceActive g .paused)).elim
  | stop _ =>
    -- A session that was stopped neither runs nor is paused.
    rcases hplaying with hplaying | hplaying
    · cases hplaying
    · cases hplaying
  | defer _ => exact (hsame (flags_updateStream g _ fun _ => rfl)).elim
  | @answer index request _ _ result =>
    rcases flags_answerWith g index request result with heq | ⟨hflags, _⟩
    · -- The stream has ended, and no end was announced as none had come.
      have hnone : g.presentationEnded = false := by
        refine Bool.eq_false_iff.mpr fun hended => ?_
        rw [hg.isOver halive hended] at hbefore
        cases hbefore
      rw [heq] at hafter hposts
      rw [isOver_eq] at hafter
      have hended := posts_endStream g index request
      rw [hnone, (Bool.and_eq_true_iff.mp hafter).2] at hended
      rw [hended.unique hposts.journal]
      rfl
    · exact (hsame hflags).elim

/-- A command that ends the presentation announces it once, unless the command is a start; a start
announces no end. -/
theorem endPosted_execute [ByteSource σ] {E : Engine σ β} {s : Session σ β τ} (h : Reachable E s)
    {envelope : Envelope τ} (hhand : s.commands.inHand = some envelope)
    (hplaying : (s.execute E).phase = .running ∨ (s.execute E).phase = .paused)
    (hbefore : s.isOver = false) (hafter : (s.execute E).isOver = true) :
    ∃ posted, (s.execute E).events.pending = s.events.pending ++ posted ∧
      posted.count .endOfPresentation = if envelope.command.isStart then 0 else 1 := by
  have htimely := timely_of_reachable h
  have hexecutes := executes_execute E s
  have hsame : (s.execute E).gist.flags = s.gist.flags → False := fun hflags => by
    have hover : (s.execute E).isOver = s.isOver := isOver_of_flags hflags
    rw [hover, hbefore] at hafter
    cases hafter
  -- The queue, the phase and the flags are those of the gist, so its cases are enough.
  generalize ht : (s.execute E).gist = t at hexecutes hsame
  cases hexecutes with
  | idle _ => exact (hsame rfl).elim
  | discard _ _ =>
    refine (hsame ?_).elim
    unfold discard
    split <;> rfl
  | breakOff _ _ _ => exact (hsame rfl).elim
  | @perform envelope' _ hhand' halive _ hperforms =>
    obtain rfl : envelope = envelope' := Option.some.inj (hhand.symm.trans hhand')
    have hempty : s.gist.emptyHanded.IsTimely := htimely.kept id rfl rfl rfl
    rw [← ht] at hperforms
    exact endPosted_performs hempty halive hperforms hplaying hbefore hafter

end Session

namespace Sketch

/-- The empty stream is started alone, and a request for it is in hand. -/
def exhausting : List (Action Nat) :=
  [start [true, false], .take, .execute, .requestSample 0 none, .take]

theorem endPosted_exhausting :
    ∃ posted, ((play exhausting).execute engine).events.pending =
        (play exhausting).events.pending ++ posted ∧
      posted.count .endOfPresentation = 1 := by
  have hhand : (play exhausting).commands.inHand = some ⟨2, .requestSample 0 ⟨2, none⟩⟩ := rfl
  exact Session.endPosted_execute (reachable exhausting) hhand (.inl rfl) rfl rfl

/-- Both streams are started, the empty one ends, and a start that leaves it alone is in hand. -/
def narrowing : List (Action Nat) :=
  [start [true, true], .take, .execute, .requestSample 0 none, .take, .execute,
    start [true, false], .take]

/-- A start that leaves only ended streams active ends the presentation, and nobody hears of it. -/
theorem start_ends_silently :
    Session.Reachable engine (play narrowing) ∧
      ((play narrowing).execute engine).phase = .running ∧
      (play narrowing).isOver = false ∧ ((play narrowing).execute engine).isOver = true ∧
      ¬∃ posted, ((play narrowing).execute engine).events.pending =
          (play narrowing).events.pending ++ posted ∧
        posted.count .endOfPresentation = 1 := by
  refine ⟨reachable narrowing, rfl, rfl, rfl, ?_⟩
  rintro ⟨posted, hpending, hcount⟩
  have hafter : ((play narrowing).execute engine).events.pending =
      (play narrowing).events.pending ++ [.updatedStream 1, .started none] := rfl
  rw [hafter] at hpending
  rw [← List.append_cancel_left hpending] at hcount
  revert hcount
  decide

end Sketch
end PullStreams
