/-
What a stop, or a start that moves the session, leaves of the requests before it.

Such a command gives up whatever is put off when it is executed, but it does not look
at the commands that wait.  A request that was accepted before it was submitted waits
behind it only when a start that resumes has put the request back meanwhile; so a
request can pass a stop that was called after it.

* `Ledger.behind_turn` — an older request comes to wait behind a command only when it
  is put back while the command waits;
* `ledger_of_barrier` — executing a stop or a move gives up what is put off;
* `answered_past_barrier_iff` — of the older requests that are ever answered, those
  answered after the stop or move are the ones that were put back behind it;
* `request_passes_stop` — a run in which one is.
-/
import PullStreams.Proofs.Requests.Accounting

namespace PullStreams

variable {τ : Type}

namespace Ledger

/-! ### Places apart -/

theorem Balanced.nodup_places {l : Ledger τ} (hl : l.Balanced) : l.places.Nodup := by
  refine hl.balance.nodup_iff.mp (hl.tickets.imp fun hlt heq => ?_)
  rw [heq] at hlt
  exact Nat.lt_irrefl _ hlt

theorem Balanced.answered_not_dropped {l : Ledger τ} (hl : l.Balanced) {a : Nat × Request τ}
    (h : a ∈ l.answered) : a ∉ l.dropped := by
  obtain ⟨_, _, hapart⟩ := List.nodup_append.mp hl.nodup_places
  exact fun hdropped => hapart a (List.mem_append_right _ h) a hdropped rfl

theorem Balanced.queued_not_answered {l : Ledger τ} (hl : l.Balanced) {a : Nat × Request τ}
    (h : a ∈ l.queued) : a ∉ l.answered := by
  obtain ⟨hnodup, _, _⟩ := List.nodup_append.mp hl.nodup_places
  obtain ⟨_, _, hapart⟩ := List.nodup_append.mp hnodup
  exact fun hanswered => hapart a (List.mem_append_left _ h) a hanswered rfl

/-! ### What turns add -/

/-- Tickets of requests that come new are higher than what was submitted before. -/
theorem Turn.issues {l l' : Ledger τ} {action : Action τ} {resumes : Bool}
    (h : l.Turn action resumes l') :
    l.submitted ≤ l'.submitted ∧
      ∀ a ∈ l'.accepted, a ∈ l.accepted ∨ l.submitted < a.2.ticket := by
  cases h with
  | submit | skip => exact ⟨Nat.le_succ _, fun a ha => .inl ha⟩
  | receive =>
    refine ⟨Nat.le_succ _, fun a ha => ?_⟩
    rcases List.mem_append.mp ha with ha | ha
    · exact .inl ha
    · rw [List.mem_singleton.mp ha]
      exact .inr (Nat.lt_succ_self _)
  | putBack => exact ⟨Nat.le_add_right _ _, fun a ha => .inl ha⟩
  | _ => exact ⟨Nat.le_refl _, fun a ha => .inl ha⟩

theorem resubmitted_number {submitted : Nat} {requests : List (Nat × Request τ)}
    {envelope : Envelope τ} (h : envelope ∈ resubmitted submitted requests) :
    submitted < envelope.number ∧ envelope.number ≤ submitted + requests.length ∧
      envelope.command.request?.isSome = true := by
  induction requests generalizing submitted with
  | nil => cases h
  | cons a requests ih =>
    rcases List.mem_cons.mp h with rfl | h
    · exact ⟨Nat.lt_succ_self _, by simp, rfl⟩
    · obtain ⟨hlow, hhigh, hrequest⟩ := ih h
      refine ⟨Nat.lt_of_succ_lt hlow, ?_, hrequest⟩
      rw [List.length_cons]
      omega

/-- What waits was submitted. -/
def Numbered (l : Ledger τ) : Prop := ∀ envelope ∈ l.line, envelope.number ≤ l.submitted

/-- The line after a command has left its front. -/
theorem line_of_hand {l : Ledger τ} {envelope : Envelope τ} (hhand : l.inHand = some envelope) :
    l.line = envelope :: l.waiting := by
  rw [line, hhand]
  rfl

/-- How the line of commands goes on, and whether requests are put back. -/
inductive Shift (l l' : Ledger τ) : Bool → Prop
  | stays (hline : l'.line = l.line) : Shift l l' false
  | leaves {envelope : Envelope τ} (hline : l.line = envelope :: l'.line) : Shift l l' false
  | joins {command : Command τ} (hline : l'.line = l.line ++ [⟨l.submitted + 1, command⟩])
      (hcount : l'.submitted = l.submitted + 1)
      (hticket : ∀ a ∈ command.request?, l.submitted < a.2.ticket) : Shift l l' false
  | putsBack {envelope : Envelope τ} (hfront : l.line = envelope :: l.waiting)
      (hline : l'.line = l.waiting ++ resubmitted l.submitted l.deferredRequests)
      (hcount : l'.submitted = l.submitted + l.deferredRequests.length) : Shift l l' true

/-- Commands leave the line at its front and join it at its end. -/
theorem Turn.shift {l l' : Ledger τ} {action : Action τ} {resumes : Bool}
    (h : l.Turn action resumes l') : l.Shift l' resumes := by
  cases h with
  | rest | skip | close => exact .stays rfl
  | submit hrequest => exact .joins (List.append_assoc ..).symm rfl (by simp [hrequest])
  | @receive index token _ _ =>
    have hticket : ∀ a ∈ (Command.requestSample index ⟨l.submitted + 1, token⟩).request?,
        l.submitted < a.2.ticket := by
      rintro a ⟨⟩
      exact Nat.lt_succ_self _
    exact .joins (List.append_assoc ..).symm rfl hticket
  | take hhand hwaiting =>
    refine .stays ?_
    simp [line, hhand, hwaiting]
  | putBack hhand _ => exact .putsBack (line_of_hand hhand) rfl rfl
  | finish hhand | giveUp hhand | defer hhand | answer hhand | drop hhand =>
    exact .leaves (line_of_hand hhand)

theorem numbered_turn {l l' : Ledger τ} {action : Action τ} {resumes : Bool} (hl : l.Numbered)
    (h : l.Turn action resumes l') : l'.Numbered := by
  have hsubmitted := h.issues.1
  intro envelope henvelope
  cases h.shift with
  | stays hline => exact Nat.le_trans (hl _ (hline ▸ henvelope)) hsubmitted
  | leaves hline => exact Nat.le_trans (hl _ (hline ▸ List.mem_cons_of_mem _ henvelope)) hsubmitted
  | joins hline hcount _ =>
    rw [hline] at henvelope
    rcases List.mem_append.mp henvelope with henvelope | henvelope
    · exact Nat.le_trans (hl _ henvelope) hsubmitted
    · rw [List.mem_singleton.mp henvelope]
      exact Nat.le_of_eq hcount.symm
  | putsBack hfront hline hcount =>
    rw [hline] at henvelope
    rcases List.mem_append.mp henvelope with henvelope | henvelope
    · exact Nat.le_trans (hl _ (hfront ▸ List.mem_cons_of_mem _ henvelope)) hsubmitted
    · rw [hcount]
      exact (resubmitted_number henvelope).2.1

/-! ### Behind a command -/

/-- Whether a request stands behind a command that is no request is told by `isBehind`. -/
structure Behind (l : Ledger τ) (number : Nat) (a : Nat × Request τ) (isBehind : Prop) : Prop where
  unissued : l.submitted < number → ¬isBehind
  behind : ∀ front envelope back, l.line = front ++ envelope :: back → envelope.number = number →
    envelope.command.request? = none → (a ∈ requestsOf back ↔ isBehind)

/-- Whether putting requests back puts this one behind a command that waits. -/
def passes (l : Ledger τ) (number : Nat) (a : Nat × Request τ) : Prop :=
  a ∈ l.deferredRequests ∧ ∃ envelope ∈ l.waiting, envelope.number = number

/-- An older request comes to stand behind a command only when it is put back. -/
theorem behind_turn {l l' : Ledger τ} {action : Action τ} {resumes : Bool} {number : Nat}
    {a : Nat × Request τ} {isBehind : Prop} (hnumbered : l.Numbered)
    (h : l.Turn action resumes l') (hold : a.2.ticket < number)
    (hl : l.Behind number a isBehind) :
    l'.Behind number a (isBehind ∨ resumes = true ∧ l.passes number a) := by
  have hsubmitted := h.issues.1
  constructor
  case unissued =>
    rintro hlate (hbehind | ⟨_, _, envelope, henvelope, rfl⟩)
    · exact hl.unissued (Nat.lt_of_le_of_lt hsubmitted hlate) hbehind
    · have hissued := hnumbered envelope (List.mem_append_right _ henvelope)
      omega
  case behind =>
    intro front envelope back hfound hnumber hrequest
    -- The part behind the command changes with the line; each shift has its own effect on it.
    cases h.shift with
    | stays hline =>
      rw [hl.behind front envelope back (hline ▸ hfound) hnumber hrequest]
      simp
    | @leaves first hline =>
      rw [hl.behind (first :: front) envelope back (by rw [hline, hfound]; rfl) hnumber hrequest]
      simp
    | @joins command hline hcount hticket =>
      rw [hline] at hfound
      rcases concat_eq_append_cons hfound with ⟨_, rfl, rfl⟩ | ⟨rest, hrest, rfl⟩
      · -- Nothing stands behind the command that has just joined.
        have hnot : ¬isBehind := hl.unissued (by rw [← hnumber]; exact Nat.lt_succ_self _)
        simp [requestsOf, hnot]
      · -- What joins is newer than every command of the line, and the request is older than one.
        have hissued : number ≤ l.submitted := by
          rw [← hnumber]
          exact hnumbered envelope (by rw [hrest]; simp)
        have hnew : a ∉ requestsOf [(⟨l.submitted + 1, command⟩ : Envelope τ)] := by
          rw [requestsOf_cons]
          intro ha
          have hlater := hticket a (by simpa [requestsOf] using ha)
          omega
        rw [requestsOf_append, List.mem_append, or_iff_left hnew,
          hl.behind front envelope rest hrest hnumber hrequest]
        simp
    | @putsBack first hfront hline _ =>
      rw [hline] at hfound
      -- The command is none of the requests that are put back.
      have hnone : envelope ∉ resubmitted l.submitted l.deferredRequests := fun henvelope => by
        have hsome := (resubmitted_number henvelope).2.2
        rw [hrequest] at hsome
        cases hsome
      rcases List.append_eq_append_iff.mp hfound with ⟨more, _, hmore⟩ | ⟨rest, hrest, hback⟩
      · exact absurd (hmore ▸ by simp) hnone
      · cases rest with
        | nil =>
          have hback : envelope :: back = resubmitted l.submitted l.deferredRequests := hback
          exact absurd (hback ▸ List.mem_cons_self) hnone
        | cons second rest =>
          obtain ⟨rfl, hrests⟩ := List.cons.inj hback
          have hback' : back = rest ++ resubmitted l.submitted l.deferredRequests := hrests
          have hwaits : ∃ e ∈ l.waiting, e.number = number :=
            ⟨envelope, by rw [hrest]; simp, hnumber⟩
          -- The command waits already, so all that is put back comes to stand behind it.
          have hbefore := hl.behind (first :: front) envelope rest (by rw [hfront, hrest]; rfl)
            hnumber hrequest
          rw [hback', requestsOf_append, requestsOf_resubmitted, List.mem_append, hbefore]
          simp [passes, hwaits]

end Ledger

namespace Session

variable {σ β : Type}

/-! ### Runs -/

/-- Whether an action puts a request back behind a command that waits. -/
def putsBehind (s : Session σ β τ) (action : Action τ) (number : Nat) (a : Nat × Request τ) :
    Prop :=
  s.resumes action = true ∧ a ∈ s.deferredRequests ∧
    ∃ envelope ∈ s.commands.waiting, envelope.number = number

/-- Whether a run puts a request back behind a command that waits. -/
def wasPutBehind [ByteSource σ] (E : Engine σ β) (number : Nat) (a : Nat × Request τ) :
    Session σ β τ → List (Action τ) → Prop
  | _, [] => False
  | s, action :: actions =>
    s.putsBehind action number a ∨ wasPutBehind E number a (s.step E action) actions

theorem numbered_of_reachable [ByteSource σ] {E : Engine σ β} {s : Session σ β τ}
    (h : Reachable E s) : s.ledger.Numbered :=
  ledger_induction (fun _ _ _ _ _ henvelope => absurd henvelope List.not_mem_nil)
    Ledger.numbered_turn h

theorem behind_run [ByteSource σ] {E : Engine σ β} {s : Session σ β τ} (h : Reachable E s)
    {number : Nat} {a : Nat × Request τ} {isBehind : Prop} (hold : a.2.ticket < number)
    (hs : s.ledger.Behind number a isBehind) (actions : List (Action τ)) :
    (s.run E actions).ledger.Behind number a (isBehind ∨ wasPutBehind E number a s actions) := by
  induction actions generalizing s isBehind with
  | nil => simpa [wasPutBehind] using hs
  | cons action actions ih =>
    -- The step adds its own share to what is told, and the rest of the run adds the rest.
    have hstep := Ledger.behind_turn (numbered_of_reachable h) (turn_step h action) hold hs
    have hpasses : s.resumes action = true ∧ s.ledger.passes number a ↔
        s.putsBehind action number a := by
      rw [Ledger.passes, deferredRequests_ledger]
      rfl
    rw [hpasses] at hstep
    have hrun := ih (h.step action) hstep
    rwa [or_assoc] at hrun

theorem resolved_run [ByteSource σ] {E : Engine σ β} {s : Session σ β τ} (h : Reachable E s)
    (actions : List (Action τ)) :
    s.ledger.answered <+: (s.run E actions).ledger.answered ∧
      s.ledger.dropped <+: (s.run E actions).ledger.dropped := by
  induction actions generalizing s with
  | nil => exact ⟨List.prefix_rfl, List.prefix_rfl⟩
  | cons action actions ih =>
    obtain ⟨hanswered, hdropped⟩ := (turn_step h action).resolved
    obtain ⟨hanswered', hdropped'⟩ := ih (h.step action)
    exact ⟨hanswered.trans hanswered', hdropped.trans hdropped'⟩

theorem issues_run [ByteSource σ] {E : Engine σ β} {s : Session σ β τ} (h : Reachable E s)
    (actions : List (Action τ)) :
    ∀ a ∈ (s.run E actions).ledger.accepted,
      a ∈ s.ledger.accepted ∨ s.ledger.submitted < a.2.ticket := by
  induction actions generalizing s with
  | nil => exact fun a ha => .inl ha
  | cons action actions ih =>
    intro a ha
    obtain ⟨hsubmitted, hissues⟩ := (turn_step h action).issues
    rcases ih (h.step action) a ha with ha | ha
    · exact hissues a ha
    · exact .inr (Nat.lt_of_le_of_lt hsubmitted ha)

/-! ### Stops and moves -/

/-- Whether a command stops the session or moves it. -/
def clears (s : Session σ β τ) : Command τ → Bool
  | .stop => true
  | .start _ _ position => (s.startTarget position).isSome
  | _ => false

/-- A stop, or a start that moves the session, is in hand under a number, and will be carried out
with success. -/
def IsBarrier [ByteSource σ] (E : Engine σ β) (s : Session σ β τ) (number : Nat) : Prop :=
  ∃ command, s.commands.inHand = some ⟨number, command⟩ ∧ s.clears command = true ∧
    s.phase ≠ .shutdown ∧ s.executorBroke = false ∧ s.emptyHanded.stumble? E command = none ∧
    (s.emptyHanded.perform E command).2 = .ok ()

theorem ledger_runStart [ByteSource σ] (E : Engine σ β) (s : Session σ β τ)
    (presentation : Presentation) (format : TimeFormat) {position : StartPosition}
    (htarget : (s.startTarget position).isSome = true)
    (hresult : (s.runStart E presentation format position).2 = .ok ()) :
    (s.runStart E presentation format position).1.ledger =
      { s.ledger.giveUp with phase := .running } := by
  rcases runStart_cases E s presentation format position with
    ⟨binding, _, _, _, hgist⟩ | ⟨_, _, hfailed, _⟩
  · have hmoves : (s.gist.planStart presentation.selectedIds position).target.isSome = true :=
      htarget
    rw [← ledger_gist, hgist, ledger_carryOut, if_pos hmoves, ← ledger_gist s]
    rfl
  · rw [hfailed] at hresult
    cases hresult

theorem ledger_runStop {s : Session σ β τ} (hresult : s.runStop.2 = .ok ()) :
    s.runStop.1.ledger = { s.ledger.giveUp with phase := .stopped } := by
  unfold runStop at hresult ⊢
  split at hresult
  · rw [ledger_post, ledger_dropDeferred, ledger_withPhase, ledger_announceActive]
    rfl
  · rw [ledger_post, ledger_dropDeferred, ledger_withPhase, ledger_announceActive]
    rfl
  · cases hresult

/-- A stop or a move gives up what is put off. -/
theorem ledger_of_barrier [ByteSource σ] {E : Engine σ β} {s : Session σ β τ} {number : Nat}
    (h : s.IsBarrier E number) :
    (∃ command, s.ledger.inHand = some ⟨number, command⟩ ∧ command.request? = none) ∧
      ∃ phase, (s.step E .execute).ledger = (s.ledger.finish phase).giveUp := by
  obtain ⟨command, hhand, hclears, halive, hworks, hstumble, hresult⟩ := h
  have hcompletes : s.Completes E command := ⟨⟨number, hhand⟩, halive, hworks, hstumble, hresult⟩
  have hexecuted : s.step E .execute = (s.emptyHanded.perform E command).1 := hcompletes.execute_eq
  rw [hexecuted]
  cases command with
  | start presentation format position =>
    refine ⟨⟨_, hhand, rfl⟩, .running, ?_⟩
    exact ledger_runStart E s.emptyHanded presentation format hclears hresult
  | stop =>
    refine ⟨⟨_, hhand, rfl⟩, .stopped, ?_⟩
    exact ledger_runStop hresult
  | _ => cases hclears

/-- Behind no command of a session that has just been opened stands anything. -/
theorem behind_of_opened [ByteSource σ] {E : Engine σ β} {config : SourceConfig} {source : σ}
    {s : Session σ β τ} (h : ofSource E config source = .ok s) (number : Nat)
    (a : Nat × Request τ) : s.ledger.Behind number a False := by
  obtain ⟨info, layout, after, heq⟩ := gist_ofSource h
  have hline : s.ledger.line = [] := by
    rw [← ledger_gist, heq]
    rfl
  constructor
  case unissued => exact fun _ => not_false
  case behind =>
    intro front envelope back hfound
    rw [hline] at hfound
    simp at hfound

/-- What waits behind a command in hand was put there. -/
theorem waiting_iff_wasPutBehind [ByteSource σ] {E : Engine σ β} {config : SourceConfig}
    {source : σ} {s : Session σ β τ} (h : ofSource E config source = .ok s)
    (actions : List (Action τ)) {envelope : Envelope τ} {a : Nat × Request τ}
    (hhand : (s.run E actions).ledger.inHand = some envelope)
    (hrequest : envelope.command.request? = none) (hold : a.2.ticket < envelope.number) :
    a ∈ requestsOf (s.run E actions).ledger.waiting ↔
      wasPutBehind E envelope.number a s actions := by
  have hrun := behind_run (.opened h) hold (behind_of_opened h envelope.number a) actions
  rw [hrun.behind [] _ _ (Ledger.line_of_hand hhand) rfl hrequest, false_or]

/-- What is put off when a stop or a move is executed, or was given up before, is never answered. -/
theorem not_answered_past_barrier [ByteSource σ] {E : Engine σ β} {s : Session σ β τ}
    (h : Reachable E s) {number : Nat} (hbarrier : s.IsBarrier E number)
    (after : List (Action τ)) {a : Nat × Request τ}
    (ha : a ∈ s.ledger.deferredRequests ∨ a ∈ s.ledger.dropped) :
    a ∉ (s.run E (.execute :: after)).answeredRequests := by
  obtain ⟨_, phase, hexecuted⟩ := ledger_of_barrier hbarrier
  have hdropped : a ∈ (s.step E .execute).ledger.dropped := by
    rw [hexecuted]
    exact List.mem_append.mpr ha.symm
  have hlast : a ∈ (s.run E (.execute :: after)).ledger.dropped :=
    (resolved_run (h.step .execute) after).2.subset hdropped
  have hend := balanced_of_reachable (h.run (.execute :: after))
  exact fun hanswered => hend.answered_not_dropped hanswered hlast

/-- A request that is answered in the end and is older than the command in hand was accepted
before. -/
theorem accepted_of_answered [ByteSource σ] {E : Engine σ β} {s : Session σ β τ}
    (h : Reachable E s) (actions : List (Action τ)) {envelope : Envelope τ}
    {a : Nat × Request τ} (hhand : s.ledger.inHand = some envelope)
    (hold : a.2.ticket < envelope.number)
    (hanswered : a ∈ (s.run E actions).answeredRequests) : a ∈ s.ledger.accepted := by
  have hend := balanced_of_reachable (h.run actions)
  have haccepted : a ∈ (s.run E actions).ledger.accepted := by
    refine hend.balance.mem_iff.mpr ?_
    exact List.mem_append_left _ (List.mem_append_right _ hanswered)
  -- What comes later has a higher ticket than every command that was submitted.
  have hissued : envelope.number ≤ s.ledger.submitted := by
    refine numbered_of_reachable h envelope ?_
    rw [Ledger.line_of_hand hhand]
    exact List.mem_cons_self
  refine (issues_run h actions a haccepted).resolve_right fun hlate => ?_
  omega

/-- Of the requests that were accepted before a stop or a move was submitted and are ever answered,
those answered after it are the ones that were put back behind it. -/
theorem answered_past_barrier_iff [ByteSource σ] {E : Engine σ β} {config : SourceConfig}
    {source : σ} {s : Session σ β τ} (h : ofSource E config source = .ok s)
    (before after : List (Action τ)) {number : Nat} {a : Nat × Request τ}
    (hbarrier : (s.run E before).IsBarrier E number) (hold : a.2.ticket < number)
    (hanswered : a ∈ (s.run E (before ++ .execute :: after)).answeredRequests) :
    a ∉ (s.run E before).answeredRequests ↔ wasPutBehind E number a s before := by
  have hreach : Reachable E (s.run E before) := (Reachable.opened h).run before
  rw [run_append] at hanswered
  obtain ⟨⟨command, hhand, hrequest⟩, _⟩ := ledger_of_barrier hbarrier
  have hbehind := waiting_iff_wasPutBehind h before hhand hrequest hold
  have hnever : a ∈ (s.run E before).ledger.deferredRequests ∨
      a ∈ (s.run E before).ledger.dropped →
      a ∉ ((s.run E before).run E (.execute :: after)).answeredRequests :=
    not_answered_past_barrier hreach hbarrier after
  have haccepted := accepted_of_answered hreach _ hhand hold hanswered
  have hbalanced := balanced_of_reachable hreach
  have hqueued := Ledger.queued_of_hand hhand
  rw [hrequest] at hqueued
  rw [← hbehind]
  constructor
  · intro hnot
    -- Of the places of the request only the line is left.
    have hplaces := hbalanced.balance.mem_iff.mp haccepted
    simp only [Ledger.places, hqueued, Option.toList_none, List.nil_append, List.mem_append]
      at hplaces
    rcases hplaces with ((hwaiting | hdeferred) | hanswered') | hdropped
    · exact hwaiting
    · exact absurd hanswered (hnever (.inl hdeferred))
    · exact absurd hanswered' hnot
    · exact absurd hanswered (hnever (.inr hdropped))
  · intro hwaiting
    refine hbalanced.queued_not_answered ?_
    rw [hqueued]
    exact hwaiting

end Session

namespace Sketch

/-- A request is put off in a pause; a start, a stop and a start are called, the first start is
executed, and the stop is in hand. -/
def stopping : List (Action Nat) :=
  paused ++ [.requestSample 1 (some 5), .take, .execute, start [true, true], .stop,
    start [true, true], .take, .execute, .take]

/-- The stop, the second start and the request are carried out. -/
def restarting : List (Action Nat) := [.execute, .take, .execute, .take, .execute]

theorem isBarrier_stopping : (play stopping).IsBarrier engine 5 :=
  ⟨.stop, rfl, rfl, nofun, rfl, rfl, rfl⟩

/-- The request was accepted before the stop was called, and is answered after its execution. -/
theorem request_passes_stop :
    (play stopping).IsBarrier engine 5 ∧
      (play stopping).acceptedRequests = [(1, ⟨3, some 5⟩)] ∧
      (play stopping).answeredRequests = [] ∧
      (play (stopping ++ restarting)).answeredRequests = [(1, ⟨3, some 5⟩)] :=
  ⟨isBarrier_stopping, rfl, rfl, rfl⟩

theorem answered_past_barrier_iff_stopping :
    (1, ⟨3, some 5⟩) ∉ (play stopping).answeredRequests ↔
      Session.wasPutBehind engine 5 (1, ⟨3, some 5⟩) opened stopping := by
  have hanswered : (play (stopping ++ restarting)).answeredRequests = [(1, ⟨3, some 5⟩)] := rfl
  have hmem : (1, ⟨3, some 5⟩) ∈ (play (stopping ++ restarting)).answeredRequests := by
    rw [hanswered]
    exact List.mem_cons_self
  exact Session.answered_past_barrier_iff opened_eq stopping _ isBarrier_stopping (by decide) hmem

end Sketch
end PullStreams
