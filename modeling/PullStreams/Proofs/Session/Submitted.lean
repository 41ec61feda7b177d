/-
What waits to be executed was accepted.

A call to start is refused unless its time format is accepted, and requests that are put
back are requests still.  So whatever comes to stand in the command queue, no start in it
fails for its format when it is executed.

* `Command.IsAcceptable` — what a session takes;
* `acceptable_step` — every action leaves only such commands in the line;
* `isAcceptable_of_hand`, `acceptable_of_hand` — so in every session that can be
  reached, a start in hand has an accepted format.
-/
import PullStreams.Proofs.Requests.Barrier

namespace PullStreams

/-- A start is taken only with a time format that is accepted. -/
def Command.IsAcceptable {τ : Type} : Command τ → Prop
  | .start _ format _ => format.isDefault = true
  | _ => True

theorem Command.isAcceptable_of_request {τ : Type} {command : Command τ}
    (h : command.request?.isSome = true) : command.IsAcceptable := by
  cases command with
  | requestSample => trivial
  | _ => cases h

namespace Ledger

variable {τ : Type} {l : Ledger τ}

/-- No start is left to be executed that should not have been taken. -/
def IsAcceptable (l : Ledger τ) : Prop := ∀ envelope ∈ l.line, envelope.command.IsAcceptable

theorem IsAcceptable.enqueue (hl : l.IsAcceptable) {command : Command τ}
    (hcommand : command.IsAcceptable) : (l.enqueue command).IsAcceptable := by
  have hline : (l.enqueue command).line = l.line ++ [⟨l.submitted + 1, command⟩] :=
    (List.append_assoc ..).symm
  intro envelope henvelope
  rw [hline] at henvelope
  rcases List.mem_append.mp henvelope with hold | hnew
  · exact hl envelope hold
  · rw [List.mem_singleton.mp hnew]
    exact hcommand

/-- What is put back are requests. -/
theorem IsAcceptable.putBack (hl : l.IsAcceptable) : l.putBack.IsAcceptable := by
  have hline : l.putBack.line = l.line ++ resubmitted l.submitted l.deferredRequests :=
    (List.append_assoc ..).symm
  intro envelope henvelope
  rw [hline] at henvelope
  rcases List.mem_append.mp henvelope with hold | hback
  · exact hl envelope hold
  · exact Command.isAcceptable_of_request (resubmitted_number hback).2.2

end Ledger

namespace Session

variable {σ β τ : Type}

theorem acceptable_performs {g t : Session Unit Unit τ} {command : Command τ}
    (hg : g.ledger.IsAcceptable) (h : Performs g command t) : t.ledger.IsAcceptable := by
  cases h with
  | @start presentation _ position binding _ _ =>
    rw [ledger_carryOut]
    split
    · exact hg
    · exact hg.putBack
  | noStart _ _ _ | noPause _ | noStop _ => exact hg
  | pause _ =>
    rw [ledger_post, ledger_withPhase (g.announceActive .paused), ledger_announceActive]
    exact hg
  | stop _ =>
    rw [ledger_post, ledger_dropDeferred, ledger_withPhase (g.announceActive .stopped),
      ledger_announceActive]
    exact hg
  | defer _ =>
    rw [ledger_defer]
    exact hg
  | @answer index request _ _ result =>
    rcases ledger_answerWith g index request result with hanswer | hdrop
    · rw [hanswer]
      exact hg
    · rw [hdrop]
      exact hg
  | drop _ =>
    rw [ledger_drop]
    exact hg

theorem acceptable_executes {g t : Session Unit Unit τ} (hg : g.ledger.IsAcceptable)
    (h : Executes g t) : t.ledger.IsAcceptable := by
  -- The command in hand leaves the line.
  have hempty : g.emptyHanded.ledger.IsAcceptable := fun envelope henvelope =>
    hg envelope (List.mem_append_right _ henvelope)
  cases h with
  | idle _ => exact hg
  | discard _ _ =>
    unfold discard
    split
    · rw [ledger_drop]
      exact hempty
    · exact hempty
  | breakOff _ _ _ => exact hempty
  | perform _ _ _ h => exact acceptable_performs hempty h

theorem acceptable_submit {s : Session σ β τ} (hs : s.ledger.IsAcceptable) {command : Command τ}
    (hcommand : command.IsAcceptable) : (s.submit command).1.ledger.IsAcceptable := by
  rw [submit_eq]
  split
  · rw [ledger_enqueue]
    exact hs.enqueue hcommand
  · exact hs

theorem acceptable_take {s : Session σ β τ} (hs : s.ledger.IsAcceptable) :
    s.take.ledger.IsAcceptable := by
  have hline : s.take.ledger.line = s.ledger.line := by
    simp only [take, CommandQueue.take]
    split
    · next hhand hwaiting => simp [ledger, Ledger.line, hhand, hwaiting]
    · rfl
  intro envelope henvelope
  exact hs envelope (hline ▸ henvelope)

theorem acceptable_step [ByteSource σ] (E : Engine σ β) {s : Session σ β τ}
    (hs : s.ledger.IsAcceptable) (action : Action τ) : (s.step E action).ledger.IsAcceptable := by
  cases action with
  | start presentation format position =>
    simp only [step, act, start]
    split
    · exact hs
    · split
      · next hformat => exact acceptable_submit hs hformat
      · exact hs
  | pause =>
    simp only [step, act, pause]
    split
    · exact hs
    · exact acceptable_submit hs trivial
    · exact hs
  | stop =>
    simp only [step, act, stop]
    split
    · exact hs
    · exact acceptable_submit hs trivial
  | shutdown =>
    by_cases halive : s.phase = .shutdown
    · have hsame : s.step E .shutdown = s := by simp [step, act, Session.shutdown, halive]
      rw [hsame]
      exact hs
    · have hclosed : (s.step E .shutdown).gist = s.gist.close := gist_shutdown E halive
      rw [← ledger_gist, hclosed, ledger_close, ledger_gist]
      exact hs
  | requestSample index token =>
    simp only [step, act]
    obtain ⟨e, hsame⟩ | ⟨_, _, haccept⟩ := requestSample_cases s index token
    · rw [hsame]
      exact hs
    · rw [haccept, acceptRequest_eq]
      split
      · rw [ledger_receive]
        exact hs.enqueue trivial
      · exact hs
  | setRate thin rate =>
    simp only [step, act, setRate]
    split
    · exact hs
    · split
      · exact hs
      · rw [ledger_post]
        exact hs
  | nextEvent | queueEvent => exact hs
  | nextStreamEvent index =>
    have hsame : (s.step E (.nextStreamEvent index)).ledger = s.ledger :=
      ledger_nextStreamEvent s index
    rw [hsame]
    exact hs
  | queueStreamEvent index event =>
    have hsame : (s.step E (.queueStreamEvent index event)).ledger = s.ledger :=
      ledger_queueStreamEvent s index event
    rw [hsame]
    exact hs
  | feed request =>
    have hsame : (s.step E (.feed request)).gist = s.gist := gist_feed s request
    rw [← ledger_gist, hsame, ledger_gist]
    exact hs
  | take => exact acceptable_take hs
  | execute =>
    have hgist : s.gist.ledger.IsAcceptable := by
      rw [ledger_gist]
      exact hs
    have hafter : (s.execute E).gist.ledger.IsAcceptable :=
      acceptable_executes hgist (executes_execute E s)
    rw [ledger_gist] at hafter
    exact hafter

variable [ByteSource σ] {E : Engine σ β}

theorem acceptable_of_reachable {s : Session σ β τ} (h : Reachable E s) :
    s.ledger.IsAcceptable := by
  induction h with
  | opened h =>
    obtain ⟨info, layout, after, hgist⟩ := gist_ofSource h
    rw [← ledger_gist, hgist, ledger_gist]
    exact fun envelope henvelope => absurd henvelope List.not_mem_nil
  | step _ action ih => exact acceptable_step E ih action

theorem isAcceptable_of_hand {s : Session σ β τ} (h : Reachable E s) {envelope : Envelope τ}
    (hhand : s.commands.inHand = some envelope) : envelope.command.IsAcceptable := by
  refine acceptable_of_reachable h envelope ?_
  have hinHand : s.ledger.inHand = some envelope := hhand
  rw [Ledger.line_of_hand hinHand]
  exact List.mem_cons_self

/-- A start in hand is one that was accepted. -/
theorem acceptable_of_hand {s : Session σ β τ} (h : Reachable E s) {envelope : Envelope τ}
    (hhand : s.commands.inHand = some envelope) (hstart : envelope.command.isStart = true) :
    ∃ presentation format position, envelope.command = .start presentation format position ∧
      format.isDefault = true := by
  have hacceptable := isAcceptable_of_hand h hhand
  obtain ⟨number, command⟩ := envelope
  cases command with
  | start presentation format position => exact ⟨presentation, format, position, rfl, hacceptable⟩
  | _ => cases hstart

end Session
end PullStreams
