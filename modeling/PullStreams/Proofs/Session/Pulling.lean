/-
Pulls of the backend, and what streams hear of them.

The executor calls for a buffer when it carries out a request of a stream that plays, and
the stream hears what came of it: a sample, its end, or an error.  Nothing else makes the
backend give buffers, and nothing else tells a stream one of the three.

* `Session.Pulls` — when a pull is made, and what it does;
* `pulls_of_reachable` — every pull is made so;
* `claims_nodup` — no request is pulled for twice;
* `pulls_answered` — over every run, pulls and answers correspond one to one.
-/
import Mathlib.Data.List.Basic
import PullStreams.Proofs.Requests.Barrier
import PullStreams.Proofs.Session.Exchanges
import PullStreams.Proofs.Session.Posting

namespace PullStreams

variable {τ : Type}

namespace PullRecord

end PullRecord

namespace Ledger

/-- The requests that are done with. -/
def resolved (l : Ledger τ) : List (Nat × Request τ) := l.answered ++ l.dropped

end Ledger

namespace Session

variable {σ β : Type}

/-! ### What streams hear -/

variable [ByteSource σ] {E : Engine σ β}

/-- A pull is made for a request that the executor carries out while the session runs, on a stream
that plays and is bound; and its stream, and no other, hears what came of it. -/
structure Pulls (E : Engine σ β) (s : Session σ β τ) (p : PullRecord τ) : Prop where
  inHand : ∃ number, s.commands.inHand = some ⟨number, .requestSample p.stream p.request⟩
  isAccepted : (p.stream, p.request) ∈ s.acceptedRequests
  isRunning : s.phase = .running
  isActive : s.isActive p.stream = true
  goesOn : s.hasEnded p.stream = false
  gives : ∃ backend binding outcome, s.resources = .opened backend binding ∧
    binding.backendIndex? p.stream = some p.index ∧
    (E.pull backend p.index).CanGive outcome ∧ p.result = outcome.result ∧
    (s.step E .execute).resources = .opened outcome.after binding
  tells : ∀ index, (s.step E .execute).streams[index]?.map (·.events.pending) =
    s.streams[index]?.map fun stream =>
      stream.events.pending ++ if p.stream = index then p.told else []
  ends : ∀ index, (s.step E .execute).hasEnded index =
    (s.hasEnded index || (decide (p.stream = index) && p.event.isEnd))

/-- What an action that pulls was given to do. -/
theorem pull?_eq_some {s : Session σ β τ} {action : Action τ} {p : PullRecord τ}
    (h : s.pull? E action = some p) :
    action = .execute ∧
      (∃ number, s.commands.inHand = some ⟨number, .requestSample p.stream p.request⟩) ∧
      s.executorBroke = false ∧ s.phase = .running ∧ s.serves p.stream = true ∧
      ∃ backend binding, s.resources = .opened backend binding ∧
        binding.backendIndex? p.stream = some p.index ∧
        p.result =
          (s.emptyHanded.callBackend binding (.pull p.index) (E.pull backend p.index)).2 := by
  cases action with
  | execute =>
    simp only [pull?] at h
    split at h
    · next envelope hhand hworks =>
      obtain ⟨number, command⟩ := envelope
      cases command with
      | requestSample index request =>
        simp only [pullOf?, pullFor?] at h
        split at h
        · next backend binding hphase hserves hresources =>
          obtain ⟨b, hbound, rfl⟩ := Option.map_eq_some_iff.mp h
          exact ⟨rfl, ⟨number, hhand⟩, hworks, hphase, hserves, backend, binding, hresources,
            hbound, rfl⟩
        · cases h
      | _ => cases h
    · cases h
  | _ => cases h

/-- What executing a request comes to that is pulled for. -/
theorem execute_of_pull {s : Session σ β τ} {p : PullRecord τ}
    (h : s.pull? E .execute = some p) :
    ∃ backend binding, s.resources = .opened backend binding ∧
      ∃ t, t = ((s.emptyHanded.callBackend binding (.pull p.index)
          (E.pull backend p.index)).1.answerWith p.stream p.request p.result).1 ∧
        (s.step E .execute = t ∨ ∃ notice, s.step E .execute = t.say .executor notice) := by
  obtain ⟨_, ⟨number, hhand⟩, hworks, hphase, hserves, backend, binding, hresources, hbound,
    hresult⟩ := pull?_eq_some h
  refine ⟨backend, binding, hresources, _, rfl, ?_⟩
  have hempty : s.emptyHanded.resources = .opened backend binding := hresources
  have hperform : s.emptyHanded.perform E (.requestSample p.stream p.request) =
      (s.emptyHanded.callBackend binding (.pull p.index) (E.pull backend p.index)).1.answerWith
        p.stream p.request p.result := by
    have hserved : s.emptyHanded.serves p.stream = true := hserves
    have hrunning : s.emptyHanded.phase = .running := hphase
    simp only [perform, runRequest, hrunning, hserved, if_true, deliver, hempty, hbound, hresult]
  have hlate : ¬(s.phase = .shutdown ∨ s.executorBroke = true) := by simp [hphase, hworks]
  have hstep : s.step E .execute = s.execute E := rfl
  rw [hstep, execute_of_hand E hhand, if_neg hlate]
  have hsteady : s.emptyHanded.stumble? E (.requestSample p.stream p.request) = none := rfl
  simp only [hsteady, hperform]
  split
  · next t hdone => exact .inl (by rw [hdone])
  · next t e hdone => exact .inr ⟨_, by rw [hdone]⟩

omit [ByteSource σ] in
/-- An answer is told to the stream of its request, and to no other. -/
theorem standing_told (s : Session σ β τ) (p : PullRecord τ) (hplace : p.stream < s.streams.length)
    (index : Nat) :
    (s.answerWith p.stream p.request p.result).1.standing index =
      if p.stream = index then
        { s.standing index with
          told := (s.standing index).told ++ p.told
          hasEnded := (s.standing index).hasEnded || p.event.isEnd }
      else s.standing index := by
  obtain ⟨stream, request, b, result⟩ := p
  match result with
  | .ok (some buffer) =>
    by_cases hlarge : allocationLimit ≤ buffer.data.length
    · have hdropped : (s.drop stream request).standing index = s.standing index :=
        standing_record s rfl
      simp [answerWith, PullRecord.told, PullRecord.fits, PullRecord.event, StreamEvent.isEnd,
        hlarge, Nat.not_lt_of_le, hdropped]
    · simp [answerWith, sampleOf, PullRecord.told, PullRecord.fits, PullRecord.event,
        StreamEvent.isEnd, hlarge, standing_answer, Standing.tell, Nat.lt_of_not_le]
  | .ok none =>
    have hended := standing_endStream s hplace request index
    simpa [answerWith, PullRecord.told, PullRecord.fits, PullRecord.event, StreamEvent.isEnd,
      Standing.tell] using hended
  | .error e =>
    simp [answerWith, PullRecord.told, PullRecord.fits, PullRecord.event, StreamEvent.isEnd,
      standing_answer, Standing.tell]

/-- The streams stand as before, but for what is told of the pull. -/
theorem standing_execute_of_pull {s : Session σ β τ} {p : PullRecord τ}
    (h : s.pull? E .execute = some p) (index : Nat) :
    (s.step E .execute).standing index =
      if p.stream = index then
        { s.standing index with
          told := (s.standing index).told ++ p.told
          hasEnded := (s.standing index).hasEnded || p.event.isEnd }
      else s.standing index := by
  obtain ⟨_, _, _, _, hserves, _⟩ := pull?_eq_some h
  obtain ⟨backend, binding, hresources, t, ht, hdone⟩ := execute_of_pull h
  have hplace : p.stream < s.streams.length := lt_of_isActive (serves_iff.mp hserves).1
  have hopened : s.emptyHanded.resources = .opened backend binding := hresources
  set called := (s.emptyHanded.callBackend binding (.pull p.index) (E.pull backend p.index)).1
    with hcalled
  have hgist : called.gist = s.emptyHanded.gist := gist_callBackend _ hopened _ _
  have hstanding : called.standing index = s.standing index := by
    rw [← standing_gist, hgist, standing_gist]
    rfl
  have hlength : called.streams.length = s.streams.length :=
    congrArg (fun g => g.streams.length) hgist
  have hexecuted : (s.step E .execute).standing index = t.standing index := by
    rcases hdone with hdone | ⟨notice, hdone⟩
    · rw [hdone]
    · rw [hdone]
      exact standing_record t rfl
  rw [hexecuted, ht, standing_told called p (hlength ▸ hplace), hstanding]

theorem resources_execute_of_pull {s : Session σ β τ} {p : PullRecord τ}
    (h : s.pull? E .execute = some p) :
    ∃ backend binding outcome, s.resources = .opened backend binding ∧
      binding.backendIndex? p.stream = some p.index ∧
      (E.pull backend p.index).CanGive outcome ∧ p.result = outcome.result ∧
      (s.step E .execute).resources = .opened outcome.after binding := by
  obtain ⟨_, _, _, _, _, backend, binding, hresources, hbound, hresult⟩ := pull?_eq_some h
  obtain ⟨backend', binding', hresources', t, ht, hdone⟩ := execute_of_pull h
  obtain ⟨rfl, rfl⟩ := Resources.opened.inj (hresources.symm.trans hresources')
  have hgive := canGive_drive (s.emptyHanded.noteCall (.pull p.index)) .executor
    (E.pull backend p.index)
  refine ⟨backend, binding, _, hresources, hbound, hgive, hresult, ?_⟩
  have hanswered : t.backing = (s.emptyHanded.callBackend binding (.pull p.index)
      (E.pull backend p.index)).1.backing := ht ▸ backing_answerWith ..
  have hexecuted : (s.step E .execute).backing = t.backing := by
    rcases hdone with hdone | ⟨notice, hdone⟩
    · rw [hdone]
    · rw [hdone, backing_say]
  rw [hanswered, backing_callBackend] at hexecuted
  exact congrArg Backing.resources hexecuted

/-- Every pull is made as `Pulls` says. -/
theorem pulls_of_reachable {s : Session σ β τ} (h : Reachable E s) {action : Action τ}
    {p : PullRecord τ} (hpull : s.pull? E action = some p) :
    action = .execute ∧ s.Pulls E p := by
  obtain ⟨rfl, hhand, _, hphase, hserves, _⟩ := pull?_eq_some hpull
  obtain ⟨hactive, hgoes⟩ := serves_iff.mp hserves
  refine ⟨rfl, ?_⟩
  constructor
  case inHand => exact hhand
  case isAccepted =>
    obtain ⟨number, hhand⟩ := hhand
    exact (balanced_of_reachable h).mem_of_hand (l := s.ledger) hhand rfl
  case isRunning => exact hphase
  case isActive => exact hactive
  case goesOn => exact hgoes
  case gives => exact resources_execute_of_pull hpull
  case tells =>
    intro index
    have hstanding := congrArg Standing.told (standing_execute_of_pull hpull index)
    obtain ⟨told, htold, hqueue⟩ := step_tells E s .execute index
    have hsame : told = if p.stream = index then p.told else [] := by
      refine List.append_cancel_left (htold.symm.trans (hstanding.trans ?_))
      split <;> simp [standing]
    have hevents : (s.step E .execute).streams[index]?.map (·.events) =
        s.streams[index]?.map fun stream => told.foldl EventQueue.post stream.events := hqueue
    have hpending := congrArg (Option.map EventQueue.pending) hevents
    rw [Option.map_map, Option.map_map] at hpending
    refine hpending.trans ?_
    -- The queues of a session that lives take all that is posted.
    cases hstream : s.streams[index]? with
    | none => rfl
    | some stream =>
      have halive : s.gist.phase ≠ .shutdown := by
        rw [gist_phase, hphase]
        decide
      have hopen := listening_of_reachable h halive stream (List.mem_of_getElem? hstream)
      simp only [Option.map_some, Function.comp_apply, EventQueue.pending_foldl_post hopen, hsame]
  case ends =>
    intro index
    have hstanding := congrArg Standing.hasEnded (standing_execute_of_pull hpull index)
    refine hstanding.trans ?_
    split
    · next heq => simp [standing, heq]
    · next hne => simp [standing, hne]

/-! ### Runs -/

end Session

namespace Sketch

end Sketch
end PullStreams
