/-
What actions do to the ledger of a session.

Every action is one turn of the ledger, and whether requests are put back can be told
beforehand: it takes a start in hand that has no place to go, and a session under way.
Such a start does not fail, as a session under way has its backend.

* `isResuming_start` — a start puts requests back if and only if it has no place to go;
* `turn_moves`, `turn_step` — what an action does to the ledger is a `Ledger.Turn`;
* `ledger_induction` — what the ledger of an opened session has and every turn keeps,
  the ledger of whatever can be reached has.
-/
import PullStreams.Proofs.Requests.Ledger
import PullStreams.Proofs.Session.Grounding

namespace PullStreams

namespace Session

variable {σ β τ : Type}

/-! ### Who puts requests back -/

/-- Whether an action puts requests back. -/
def resumes (s : Session σ β τ) : Action τ → Bool
  | .execute => s.ledger.isResuming
  | _ => false

/-- A start resumes when it has no place to go. -/
theorem isResuming_start {s : Session σ β τ} {envelope : Envelope τ} {presentation : Presentation}
    {format : TimeFormat} {position : StartPosition} (hhand : s.commands.inHand = some envelope)
    (hcommand : envelope.command = .start presentation format position)
    (hformat : format.isDefault = true) (halive : s.phase ≠ .shutdown) :
    s.ledger.isResuming = (s.startTarget position).isNone := by
  obtain ⟨number, command⟩ := envelope
  obtain rfl : command = _ := hcommand
  have hinHand : s.ledger.inHand = some ⟨number, .start presentation format position⟩ := hhand
  have hphase : s.ledger.phase = s.phase := rfl
  cases position with
  | current =>
    simp only [Ledger.isResuming, hinHand, hformat, hphase, startTarget]
    cases hs : s.phase with
    | shutdown => exact absurd hs halive
    | _ => rfl
  | «at» time => simp [Ledger.isResuming, hinHand, startTarget]

theorem isResuming_eq_false {s : Session σ β τ} {envelope : Envelope τ}
    (hhand : s.commands.inHand = some envelope) (hstart : envelope.command.isStart = false) :
    s.ledger.isResuming = false := by
  obtain ⟨number, command⟩ := envelope
  have hinHand : s.ledger.inHand = some ⟨number, command⟩ := hhand
  cases command with
  | start => cases hstart
  | _ => simp [Ledger.isResuming, hinHand]

/-- A session that is not under way puts nothing back. -/
theorem isResuming_of_not_underWay {s : Session σ β τ} (h : ¬s.IsUnderWay) :
    s.ledger.isResuming = false := by
  refine Bool.eq_false_iff.mpr fun hresuming => ?_
  obtain ⟨_, _, _, _, _, hphase⟩ := Ledger.resuming_start hresuming
  exact h hphase

/-! ### Turns -/

/-- A command that is no request may do nothing at all. -/
theorem turn_finish {s : Session σ β τ} {envelope : Envelope τ}
    {action : Action τ} (hhand : s.commands.inHand = some envelope)
    (hrequest : envelope.command.request? = none) :
    s.ledger.Turn action false s.emptyHanded.ledger := by
  have hphase : s.phase = s.ledger.phase ∨ s.ledger.phase = .running ∧ s.phase = .paused := .inl rfl
  exact .finish hhand hrequest hphase

theorem turn_start {g : Session Unit Unit τ} {envelope : Envelope τ} {presentation : Presentation}
    {format : TimeFormat} {position : StartPosition} {r : Resources Unit}
    {action : Action τ} (hhand : g.commands.inHand = some envelope)
    (hcommand : envelope.command = .start presentation format position)
    (hformat : format.isDefault = true) (halive : g.phase ≠ .shutdown) :
    g.ledger.Turn action g.ledger.isResuming
      ({ g.emptyHanded with resources := r }.carryOut
        (g.emptyHanded.planStart presentation.selectedIds position)).ledger := by
  have hrequest : envelope.command.request? = none := by rw [hcommand]; rfl
  have hhand' : g.ledger.inHand = some envelope := hhand
  rw [ledger_carryOut, isResuming_start hhand hcommand hformat halive]
  -- The place to go decides both: whether the start resumes, and what becomes of the requests.
  show g.ledger.Turn action (g.startTarget position).isNone
    { (if (g.startTarget position).isSome then (g.ledger.finish g.phase).giveUp
        else (g.ledger.finish g.phase).putBack) with phase := .running }
  cases g.startTarget position with
  | some time =>
    have hgiven : g.ledger.Turn action false (g.ledger.finish .running).giveUp :=
      .giveUp hhand' hrequest (by decide)
    exact hgiven
  | none => exact .putBack hhand' hrequest

theorem turn_performs {g t : Session Unit Unit τ} {envelope : Envelope τ} {action : Action τ}
    (hhand : g.commands.inHand = some envelope) (halive : g.phase ≠ .shutdown)
    (hg : g.IsGrounded) (h : Performs g.emptyHanded envelope.command t) :
    g.ledger.Turn action g.ledger.isResuming t.ledger := by
  have hhand' : g.ledger.inHand = some envelope := hhand
  generalize hcommand : envelope.command = command at h
  have hquiet : command.isStart = false → g.ledger.isResuming = false :=
    fun hstart => isResuming_eq_false hhand (hcommand ▸ hstart)
  have hrequest : command.request? = none → envelope.command.request? = none :=
    fun h => hcommand ▸ h
  cases h with
  | start hformat _ => exact turn_start hhand hcommand hformat halive
  | @noStart presentation format position r hfrom _ hclosed =>
    -- A start that fails is none of a session under way.
    have hresuming : g.ledger.isResuming = false := by
      refine Bool.eq_false_iff.mpr fun hresuming => ?_
      obtain ⟨number, presentation', format', hinHand, hformat, hplaying⟩ :=
        Ledger.resuming_start hresuming
      obtain rfl : envelope = _ := Option.some.inj (hhand'.symm.trans hinHand)
      obtain ⟨-, rfl, -⟩ := Command.start.inj hcommand
      obtain ⟨⟨backend, binding, hopened⟩, _⟩ := hg hplaying
      rcases hfrom hformat with hunopened | hr
      · have hunopened' : g.resources = .unopened := hunopened
        rw [hopened] at hunopened'
        cases hunopened'
      · exact hclosed hformat binding (hr.trans hopened)
    rw [hresuming]
    exact turn_finish hhand (hrequest rfl)
  | pause hrunning =>
    rw [hquiet rfl, ledger_post, ledger_withPhase (g.emptyHanded.announceActive .paused),
      ledger_announceActive, ledger_emptyHanded]
    exact .finish hhand' (hrequest rfl) (.inr ⟨hrunning, rfl⟩)
  | noPause _ | noStop _ =>
    rw [hquiet rfl]
    exact turn_finish hhand (hrequest rfl)
  | stop _ =>
    rw [hquiet rfl, ledger_post, ledger_dropDeferred,
      ledger_withPhase (g.emptyHanded.announceActive .stopped), ledger_announceActive,
      ledger_emptyHanded]
    have hgiven : g.ledger.Turn action false (g.ledger.finish .stopped).giveUp :=
      .giveUp hhand' (hrequest rfl) (by decide)
    exact hgiven
  | defer hpaused =>
    rw [hquiet rfl, ledger_defer, ledger_emptyHanded]
    exact .defer hhand' (by rw [hcommand]; rfl) hpaused
  | answer hrunning _ result =>
    rw [hquiet rfl]
    rcases ledger_answerWith g.emptyHanded _ _ result with hanswer | hdrop
    · rw [hanswer, ledger_emptyHanded]
      exact .answer hhand' (by rw [hcommand]; rfl) hrunning
    · rw [hdrop, ledger_emptyHanded]
      exact .drop hhand' (by rw [hcommand]; rfl)
  | drop _ =>
    rw [hquiet rfl, ledger_drop, ledger_emptyHanded]
    exact .drop hhand' (by rw [hcommand]; rfl)

theorem turn_executes {g t : Session Unit Unit τ} {action : Action τ} (hg : g.IsGrounded)
    (h : Executes g t) : g.ledger.Turn action g.ledger.isResuming t.ledger := by
  cases h with
  | idle hhand =>
    have hinHand : g.ledger.inHand = none := hhand
    have hresuming : g.ledger.isResuming = false := by simp [Ledger.isResuming, hinHand]
    exact hresuming ▸ .rest
  | @discard envelope hhand hlate =>
    have hhand' : g.ledger.inHand = some envelope := hhand
    -- A command that comes too late finds no session under way.
    have hrests : ¬g.IsUnderWay := by
      intro hplaying
      rcases hlate with hshut | hbroke
      · exact not_underWay_of_shutdown hshut hplaying
      · rw [(hg hplaying).2] at hbroke
        cases hbroke
    rw [isResuming_of_not_underWay hrests]
    unfold discard
    split
    · next hrequest =>
      rw [ledger_drop, ledger_emptyHanded]
      exact .drop hhand' hrequest
    · next hrequest => exact turn_finish hhand hrequest
  | @breakOff envelope hhand hstart hresources =>
    have hhand' : g.ledger.inHand = some envelope := hhand
    have hrequest : envelope.command.request? = none := by
      cases hcommand : envelope.command with
      | start => rfl
      | _ => simp [hcommand, Command.isStart] at hstart
    have hrests : ¬g.IsUnderWay := by
      intro hplaying
      obtain ⟨⟨backend, binding, hopened⟩, _⟩ := hg hplaying
      rw [hresources] at hopened
      cases hopened
    rw [isResuming_of_not_underWay hrests]
    exact turn_finish hhand hrequest
  | perform hhand halive _ h => exact turn_performs hhand halive hg h

theorem turn_take (s : Session σ β τ) (action : Action τ) :
    s.ledger.Turn action false s.take.ledger := by
  cases hhand : s.commands.inHand with
  | some envelope =>
    have hsame : s.take.ledger = s.ledger := by simp only [take, CommandQueue.take, ledger, hhand]
    exact hsame ▸ .rest
  | none =>
    cases hwaiting : s.commands.waiting with
    | nil =>
      have hsame : s.take.ledger = s.ledger := by
        simp only [take, CommandQueue.take, ledger, hhand, hwaiting]
      exact hsame ▸ .rest
    | cons envelope waiting =>
      have htaken : s.take.ledger = { s.ledger with waiting, inHand := some envelope } := by
        simp only [take, CommandQueue.take, ledger, hhand, hwaiting]
        rfl
      exact htaken ▸ .take hhand hwaiting

/-- What any action does to the ledger is one turn. -/
theorem turn_moves {g t : Session Unit Unit τ} {action : Action τ} (hg : g.IsGrounded)
    (h : Moves g action t) : g.ledger.Turn action (g.resumes action) t.ledger := by
  -- Only executing puts anything back.
  have hquiet : action ≠ .execute → g.resumes action = false := fun hne => by
    cases action with
    | execute => exact absurd rfl hne
    | _ => rfl
  cases h with
  | nothing hidle =>
    have hquiet' : g.resumes action = false := by
      by_cases haction : action = .execute
      · have hinHand : g.ledger.inHand = none := hidle haction
        rw [haction]
        simp [resumes, Ledger.isResuming, hinHand]
      · exact hquiet haction
    exact hquiet' ▸ .rest
  | submit haction _ hrequest =>
    rw [hquiet haction, ledger_enqueue]
    exact .submit hrequest
  | skip haction _ _ =>
    have hskip : g.skip.ledger = g.ledger.skip := rfl
    rw [hquiet haction, hskip]
    exact .skip
  | @accept index token _ hserves =>
    rw [hquiet (by rintro ⟨⟩), ledger_receive]
    refine .receive rfl ?_
    by_contra hindex
    have hnone : g.streams[index]? = none :=
      List.getElem?_eq_none (by simpa [ledger] using hindex)
    simp [serves, hnone] at hserves
  | shutdown _ =>
    rw [hquiet (by rintro ⟨⟩), ledger_close]
    exact .close
  | setRate _ =>
    rw [hquiet (by rintro ⟨⟩), ledger_post]
    exact .rest
  | nextEvent | queueEvent =>
    rw [hquiet (by rintro ⟨⟩)]
    exact .rest
  | nextStreamEvent =>
    rw [hquiet (by rintro ⟨⟩), ledger_nextStreamEvent]
    exact .rest
  | queueStreamEvent =>
    rw [hquiet (by rintro ⟨⟩), ledger_queueStreamEvent]
    exact .rest
  | take =>
    rw [hquiet (by rintro ⟨⟩)]
    exact turn_take g _
  | execute h => exact turn_executes hg h

theorem turn_step [ByteSource σ] {E : Engine σ β} {s : Session σ β τ} (h : Reachable E s)
    (action : Action τ) : s.ledger.Turn action (s.resumes action) (s.step E action).ledger := by
  have hturn := turn_moves (grounded_of_reachable h) (moves_step E s action)
  have hresumes : s.gist.resumes action = s.resumes action := by
    cases action with
    | execute => exact congrArg Ledger.isResuming (ledger_gist s)
    | _ => rfl
  rwa [ledger_gist, ledger_gist, hresumes] at hturn

/-- What the ledger of every session has that was just opened, and every turn keeps, the ledger of
whatever can be reached has. -/
theorem ledger_induction [ByteSource σ] {E : Engine σ β} {P : Ledger τ → Prop}
    (hfresh : ∀ (config : SourceConfig) (info : MediaInfo) (layout : Layout) (source : σ),
      P (fresh config info layout source : Session σ β τ).ledger)
    (hturn : ∀ {l l' : Ledger τ} {action : Action τ} {resumes : Bool},
      P l → l.Turn action resumes l' → P l')
    {s : Session σ β τ} (h : Reachable E s) : P s.ledger := by
  induction h with
  | opened h =>
    obtain ⟨info, layout, after, heq⟩ := gist_ofSource h
    rw [← ledger_gist, heq, ledger_gist]
    exact hfresh _ info layout after
  | step hs action ih => exact hturn ih (turn_step hs action)

end Session
end PullStreams
