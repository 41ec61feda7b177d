/-
The rules of the calls at a demultiplexing backend's desk.

Disconnecting does not end an attempt to connect that is under way, or one that begins
later: bytes that were pushed before it are still received, and when they suffice to open
the container the desk takes orders again, and whoever disconnected waits for ever.
Without such bytes, and after an attempt that was over, all orders are refused.

* `NeedsBytes` — what is known of a container: it does not open when every read fails;
* `IsStarving.run` — without bytes nobody connects;
* `rules_kept` — the rules of the calls, after any row of moves.
-/
import PullStreams.Proofs.Demux.Life

namespace PullStreams

/-- What a computation may come to when no chunk that it gets holds bytes. -/
inductive Pull.Starves {α : Type} : Pull α → α → Prop
  | done {a : α} : Starves (.done a) a
  | ask {request : ReadRequest} {resume : Option Chunk → Pull α} {a : α} (reply : Option Chunk)
      (hreply : ∀ bytes, reply ≠ some (.data bytes)) (h : Starves (resume reply) a) :
      Starves (.ask request resume) a

/-- A container does not open if every read fails. -/
def NeedsBytes {ρ : Type} (opener : Reading (OpenedContainer ρ)) : Prop :=
  ∀ (total : Nat) (answer : RequestReader × OpenedContainer ρ),
    (RequestReader.run opener (.ofLength total)).Starves answer → ∃ e, answer.2.result = .error e

namespace Desk

variable {ρ : Type} {d : Desk ρ} [FormatReader ρ Reading] {opener : Reading (OpenedContainer ρ)}

/-! ### Without bytes -/

/-- No chunk at hand holds bytes, and a container that is being opened cannot do without. -/
structure IsStarving (d : Desk ρ) : Prop where
  chunks : ∀ bytes, .data bytes ∉ d.chunks
  opening : ∀ {caller total task}, d.stage = .opening caller total task →
    ∀ {answer}, task.Starves answer → ∃ e, answer.2.result = .error e

omit [FormatReader ρ Reading] in
theorem IsStarving.of_same {d' : Desk ρ} (h : d.IsStarving) (hchunks : d'.chunks = d.chunks)
    (hstage : d'.stage = d.stage) : d'.IsStarving where
  chunks bytes := hchunks ▸ h.chunks bytes
  opening hopening := h.opening (hstage ▸ hopening)

omit [FormatReader ρ Reading] in
theorem IsStarving.of_over {d' : Desk ρ} (h : d.IsStarving) (hchunks : d'.chunks = d.chunks)
    (hera : d'.stage.era = .over) : d'.IsStarving where
  chunks bytes := hchunks ▸ h.chunks bytes
  opening hopening := by rw [hopening] at hera; cases hera

omit [FormatReader ρ Reading] in
theorem IsStarving.exchange (h : d.IsStarving) (request : ReadRequest)
    {goOn : Option Chunk → Stage ρ}
    (hgoOn : ∀ reply, (∀ bytes, reply ≠ some (.data bytes)) → ∀ {caller total task},
      goOn reply = .opening caller total task →
      ∀ {answer}, task.Starves answer → ∃ e, answer.2.result = .error e) :
    (d.exchange request goOn).IsStarving := by
  unfold Desk.exchange
  split
  · exact h.of_same rfl rfl
  · next chunk chunks _ hchunks =>
    have hrest := h.chunks
    rw [hchunks] at hrest
    refine ⟨fun bytes hmem => hrest bytes (List.mem_cons_of_mem _ hmem), fun hopening => ?_⟩
    refine hgoOn (some chunk) (fun bytes hdata => ?_) hopening
    exact hrest bytes (List.mem_cons.mpr (.inl (Option.some.inj hdata).symm))
  · next hchunks _ =>
    exact ⟨h.chunks, hgoOn none nofun⟩
  · exact h

omit [FormatReader ρ Reading] in
theorem IsStarving.leave (h : d.IsStarving) : d.leave.IsStarving := by
  unfold Desk.leave
  split
  · exact h.of_over rfl rfl
  · exact h.of_over rfl rfl

theorem IsStarving.turn (h : d.IsStarving) (worker : Worker ρ) (input : RequestReader) :
    (d.turn worker input).IsStarving := by
  unfold Desk.turn
  split
  · exact h.of_over rfl rfl
  · exact h
  · exact h.leave

omit [FormatReader ρ Reading] in
theorem opened_of_error {answer : RequestReader × OpenedContainer ρ} {e : DemuxError}
    (h : answer.2.result = .error e) (d : Desk ρ) (caller total : Nat) :
    d.opened caller total answer =
      ((d.say answer.2.notices).tell caller
        (.connected (.error (DemuxBackend.openingFault e)))).leave := by
  obtain ⟨input, container⟩ := answer
  simp only at h
  simp only [opened, h]

/-- A worker without bytes connects nobody. -/
theorem IsStarving.work (h : d.IsStarving) :
    d.work.IsStarving ∧ d.work.life.connections = d.life.connections := by
  unfold Desk.work
  split
  · exact ⟨h, rfl⟩
  · exact ⟨h, rfl⟩
  · next caller total answer hstage =>
    obtain ⟨e, hfails⟩ := h.opening hstage .done
    rw [opened_of_error hfails]
    have hsame : IsStarving ((d.say answer.2.notices).tell caller
        (.connected (.error (DemuxBackend.openingFault e)))) := h.of_same rfl rfl
    refine ⟨hsame.leave, ?_⟩
    rw [life_leave, life_tell _ _ rfl rfl, life_say]
  · next caller total request resume hstage =>
    refine ⟨h.exchange request fun reply hreply _ _ _ htask answer hstarves => ?_, ?_⟩
    · cases htask
      exact h.opening hstage (.ask reply hreply hstarves)
    · rw [life_exchange _ _ _ fun _ => by rw [hstage]; rfl]
  · next worker input hstage =>
    exact ⟨h.turn worker input, by rw [life_turn d _ _ (by rw [hstage]; rfl)]⟩
  · next caller input worker notices answer hstage =>
    exact ⟨h.of_over rfl rfl, by rw [life_tell_order]; rfl⟩
  · next caller request resume hstage =>
    refine ⟨h.exchange request fun reply _ _ _ _ htask => ?_, ?_⟩
    · cases htask
    · rw [life_exchange _ _ _ fun _ => by rw [hstage]; rfl]

omit [FormatReader ρ Reading] in
theorem IsStarving.connect (h : d.IsStarving) (hopener : NeedsBytes opener) (caller total : Nat)
    (thread : Except IoError Unit) : (d.connect opener caller total thread).IsStarving := by
  by_cases hera : d.stage.era = .untried
  · have hstage := era_eq_untried.mp hera
    cases thread with
    | ok =>
      simp only [Desk.connect, hstage]
      refine ⟨h.chunks, fun hopening answer hstarves => ?_⟩
      cases hopening
      exact hopener total answer hstarves
    | error e =>
      simp only [Desk.connect, hstage]
      exact h.of_over rfl rfl
  · rw [connect_of_tried hera]
    exact h.of_same rfl rfl

theorem IsStarving.disconnect (h : d.IsStarving) : d.disconnect.IsStarving := by
  unfold Desk.disconnect
  split
  · exact h
  · dsimp only
    split
    · exact h.of_same rfl rfl
    · exact h.of_same rfl rfl
    · next worker input _ =>
      refine IsStarving.turn ?_ worker input
      exact h.of_same rfl rfl
    · exact h.of_same rfl rfl
    · exact h.of_same rfl rfl

/-- Without bytes nobody is connected, whoever makes a move, unless it brings bytes. -/
theorem IsStarving.move (h : d.IsStarving) (hopener : NeedsBytes opener) {move : DeskMove}
    (hmove : ∀ bytes, move = .push (.data bytes) → d.isDisconnected = true) :
    (d.move opener move).IsStarving ∧
      (d.move opener move).life.connections = d.life.connections := by
  have hquiet : move ≠ .work → (d.move opener move).IsStarving →
      (d.move opener move).IsStarving ∧
        (d.move opener move).life.connections = d.life.connections := fun hne hstarving =>
    ⟨hstarving, (turn_move opener d move).connections_eq hne⟩
  cases move with
  | work => exact h.work
  | connect caller total thread => exact hquiet (by simp) (h.connect hopener caller total thread)
  | enable caller track | disable caller track =>
    refine hquiet (by simp) ?_
    rw [Desk.move, mark]
    split <;> exact h.of_same rfl rfl
  | order caller order =>
    refine hquiet (by simp) ?_
    rw [Desk.move, leaveOrder]
    split <;> exact h.of_same rfl rfl
  | nextRequest caller =>
    refine hquiet (by simp) ?_
    simp only [Desk.move, nextRequest?]
    by_cases hdisconnected : d.isDisconnected = true
    · rw [if_pos hdisconnected]
      exact h.of_same rfl rfl
    · rw [if_neg hdisconnected]
      cases d.requests with
      | nil => exact h
      | cons => exact h.of_same rfl rfl
  | push chunk =>
    refine hquiet (by simp) ?_
    rw [Desk.move, Desk.push]
    split
    · exact h
    · next hopen =>
      refine ⟨fun bytes hmem => ?_, fun hopening => h.opening hopening⟩
      rcases List.mem_append.mp hmem with hmem | hmem
      · exact h.chunks bytes hmem
      · obtain rfl := List.mem_singleton.mp hmem
        exact hopen (hmove bytes rfl)
  | disconnect => exact hquiet (by simp) h.disconnect

/-- A run that brings no bytes before somebody disconnects connects nobody. -/
theorem IsStarving.run (h : d.IsStarving) (hopener : NeedsBytes opener) {moves : List DeskMove}
    (hmoves : ∀ bytes, .push (.data bytes) ∈ moves → d.isDisconnected = true) :
    (d.run opener moves).IsStarving ∧
      (d.run opener moves).life.connections = d.life.connections := by
  induction moves generalizing d with
  | nil => exact ⟨h, rfl⟩
  | cons move moves ih =>
    -- A desk that is shut stays so, and receives no bytes that come later.
    obtain ⟨hstarving, hsame⟩ := h.move hopener fun bytes hmove =>
      hmoves bytes (hmove ▸ List.mem_cons_self)
    have hstill : ∀ bytes, .push (.data bytes) ∈ moves →
        (d.move opener move).isDisconnected = true := fun bytes hmem => by
      have hturn := (turn_move opener d move).isDisconnected_eq
      exact hturn.trans (by simp [life, hmoves bytes (List.mem_cons_of_mem _ hmem)])
    obtain ⟨hrest, hconnections⟩ := ih hstarving hstill
    exact ⟨hrest, hconnections.trans hsame⟩

/-- No success comes from what is pushed after the disconnecting. -/
theorem IsStarving.run_disconnect (h : d.IsStarving) (hopener : NeedsBytes opener)
    (after : List DeskMove) :
    (d.run opener (.disconnect :: after)).connections = d.connections := by
  have hturn := turn_move opener d .disconnect
  have hshut : (d.move opener .disconnect).isDisconnected = true :=
    hturn.isDisconnected_eq.trans (Bool.or_true _)
  obtain ⟨hstarving, hsame⟩ : (d.move opener .disconnect).IsStarving ∧
      (d.move opener .disconnect).life.connections = d.life.connections :=
    h.move hopener (by simp)
  exact ((hstarving.run hopener fun _ _ => hshut).2).trans hsame

/-! ### The rules of the calls -/

/-- The desk marks a track. -/
def setMark (caller track : Nat) (on : Bool) : DeskMove :=
  if on then .enable caller track else .disable caller track

/-- What holds of the calls at a desk after a list of moves. -/
structure KeepsRules (opener : Reading (OpenedContainer ρ)) (moves : List DeskMove) (d : Desk ρ) :
    Prop where
  /-- Nobody is told of a success twice. -/
  connects_once : d.connections ≤ 1
  /-- Whoever connects after somebody else is refused. -/
  connects_first : (∃ move ∈ moves, move.isConnect = true) → ∀ caller total thread,
    d.move opener (.connect caller total thread) =
      d.tell caller (.connected (.error DemuxBackend.alreadyConnected))
  /-- Before a success every order is refused, and that is all that happens. -/
  refuses_before : d.connections = 0 → ∀ caller order,
    d.move opener (.order caller order) = d.tell caller (refusal order).told
  /-- So it is after the first disconnecting, unless there was a success since. -/
  refuses_after : ∀ before after, moves = before ++ .disconnect :: after →
    (∀ move ∈ before, move.isDisconnect = false) →
    d.connections = ((new : Desk ρ).run opener before).connections → ∀ caller order,
    d.move opener (.order caller order) = d.tell caller (refusal order).told
  /-- For a success since, the attempt must not have been over at the disconnecting, and somebody
  must have pushed bytes before. -/
  connects_late : ∀ before after, moves = before ++ .disconnect :: after →
    ((new : Desk ρ).run opener before).connections < d.connections →
    ((new : Desk ρ).run opener before).stage.era ≠ .over ∧
      ∃ bytes, .push (.data bytes) ∈ before
  /-- A mark is set or removed if and only if there is such a track, and no other mark changes. -/
  marks : ∀ caller track on, if track < d.tracks.length then
      ∃ enabled, d.move opener (setMark caller track on) =
        { d with enabled }.tell caller (.marked (.ok ())) ∧
        enabled[track]? = some on ∧ ∀ other ≠ track, enabled[other]? = d.enabled[other]?
    else d.move opener (setMark caller track on) =
      d.tell caller (.marked (.error (.invalidStream (UInt32.ofNat track))))
  /-- There are no tracks before a success. -/
  tracks : d.connections = 0 → d.tracks = []
  /-- Once somebody has disconnected, or was told that there are no more requests, there are none,
  whatever is left of them. -/
  requests : (∃ move ∈ moves, move.isDisconnect = true) ∨
      (∃ answer ∈ d.told, answer.2.isLast = true) → ∀ caller,
    d.move opener (.nextRequest caller) = d.tell caller (.request none)
  /-- Nobody receives what is pushed after the disconnecting. -/
  pushes : (∃ move ∈ moves, move.isDisconnect = true) → ∀ chunk, d.move opener (.push chunk) = d
  /-- Nobody disconnects twice. -/
  disconnects : (∃ move ∈ moves, move.isDisconnect = true) → d.move opener .disconnect = d

theorem refuse_of_not_takesOrders (h : d.takesOrders = false) (caller : Nat) (order : Order) :
    d.move opener (.order caller order) = d.tell caller (refusal order).told := by
  rw [Desk.move, leaveOrder, h]
  rfl

omit [FormatReader ρ Reading] in
theorem sound_new : (new : Desk ρ).life.IsSound :=
  ⟨fun _ => rfl, Nat.zero_le 1, nofun, fun _ => rfl, rfl, nofun, nofun⟩

omit [FormatReader ρ Reading] in
theorem starving_new : (new : Desk ρ).IsStarving := ⟨nofun, nofun⟩

theorem run_append (opener : Reading (OpenedContainer ρ)) (d : Desk ρ)
    (first second : List DeskMove) :
    d.run opener (first ++ second) = (d.run opener first).run opener second :=
  List.foldl_append

theorem marks_kept (hmarks : d.life.marks = d.life.tracks) (caller track : Nat) (on : Bool) :
    if track < d.tracks.length then
      ∃ enabled, d.move opener (setMark caller track on) =
        { d with enabled }.tell caller (.marked (.ok ())) ∧
        enabled[track]? = some on ∧ ∀ other ≠ track, enabled[other]? = d.enabled[other]?
    else d.move opener (setMark caller track on) =
      d.tell caller (.marked (.error (.invalidStream (UInt32.ofNat track)))) := by
  have hlength : d.enabled.length = d.tracks.length := hmarks
  have hmove : d.move opener (setMark caller track on) = d.mark caller track on := by
    cases on <;> rfl
  rw [hmove, mark, hlength]
  split
  · next htrack =>
    refine ⟨_, rfl, ?_, fun other hother => ?_⟩
    · rw [List.getElem?_set_self (hlength ▸ htrack)]
    · rw [List.getElem?_set_ne hother.symm]
  · rfl

/-- The rules that a desk keeps to after any calls of any callers, however they take turns with the
worker, over a container that needs bytes to be opened. -/
theorem rules_kept (hopener : NeedsBytes opener) (moves : List DeskMove) :
    ((new : Desk ρ).run opener moves).KeepsRules opener moves := by
  set d := (new : Desk ρ).run opener moves with hd
  have hsound : d.life.IsSound := sound_run opener sound_new moves
  have hdisconnected : (∃ move ∈ moves, move.isDisconnect = true) → d.isDisconnected = true := by
    intro h
    rw [hd, isDisconnected_run, List.any_eq_true.mpr h]
    rfl
  constructor
  case connects_once => exact hsound.once
  case connects_first =>
    rintro ⟨move, hmem, hconnect⟩ caller total thread
    refine connect_of_tried (fun hera => ?_) caller total thread
    have huntried := ((era_run opener new moves).mp hera).2 move hmem
    rw [hconnect] at huntried
    cases huntried
  case refuses_before =>
    intro hnone
    refine refuse_of_not_takesOrders (Bool.eq_false_iff.mpr fun htakes => ?_)
    have hone := hsound.taking htakes
    rw [show d.life.connections = 0 from hnone] at hone
    cases hone
  case refuses_after =>
    intro before after hmoves hfirst hsame
    have hopen : ((new : Desk ρ).run opener before).isDisconnected = false := by
      rw [isDisconnected_run]
      exact List.any_eq_false.mpr fun move hmem => by simp [hfirst move hmem]
    refine refuse_of_not_takesOrders (Bool.eq_false_iff.mpr fun htakes => ?_)
    rw [hd, hmoves, run_append] at htakes hsame
    exact Nat.ne_of_gt (connections_lt_of_takesOrders hopen htakes) hsame
  case connects_late =>
    intro before after hmoves hlater
    rw [hd, hmoves, run_append] at hlater
    constructor
    · intro hera
      rw [over_run opener hera] at hlater
      exact Nat.lt_irrefl _ hlater
    · by_contra hnone
      -- Then the desk starves at the disconnecting, and from there on.
      have hstarving := (starving_new.run hopener fun bytes hmem => absurd ⟨bytes, hmem⟩ hnone).1
      rw [hstarving.run_disconnect hopener] at hlater
      exact Nat.lt_irrefl _ hlater
  case marks => exact marks_kept hsound.marks
  case tracks => exact fun hnone => List.length_eq_zero_iff.mp (hsound.tracks hnone)
  case requests =>
    intro h caller
    have hshut : d.isDisconnected = true :=
      h.elim hdisconnected fun htold => hsound.toldLast (List.any_eq_true.mpr htold)
    simp only [Desk.move, nextRequest?, if_pos hshut]
  case pushes =>
    intro h chunk
    rw [Desk.move, push, if_pos (hdisconnected h)]
  case disconnects =>
    intro h
    rw [Desk.move, disconnect, if_pos (hdisconnected h)]

end Desk

namespace Wav

/-- No file opens without bytes: the first read is one, and no marker is found when it fails. -/
theorem needsBytes_openReader : NeedsBytes openReader := by
  intro total answer h
  obtain ⟨resume, hask, hfails⟩ :
      ∃ resume : Option Chunk → Pull (RequestReader × OpenedContainer Reader),
        RequestReader.run openReader (.ofLength total) = .ask ⟨0, Blocks.shortestBlock⟩ resume ∧
          ∀ reply, (∀ bytes, reply ≠ some (.data bytes)) →
            ∃ after, resume reply = .done after ∧ after.2.result = .error notFound := by
    refine ⟨_, rfl, fun reply hreply => ?_⟩
    match reply with
    | none => exact ⟨_, rfl, rfl⟩
    | some .failed => exact ⟨_, rfl, rfl⟩
    | some (.data bytes) => exact absurd rfl (hreply bytes)
  rw [hask] at h
  cases h with
  | ask reply hreply h =>
    obtain ⟨after, hdone, hresult⟩ := hfails reply hreply
    rw [hdone] at h
    cases h
    exact ⟨_, hresult⟩

end Wav

namespace Sketch

/-- A WAV file of eight samples. -/
def eightSamples : Bytes :=
  Bytes.ofText "RIFF" ++ [44, 0, 0, 0] ++ Bytes.ofText "WAVEfmt " ++
    [16, 0, 0, 0, 1, 0, 1, 0, 0x40, 0x1f, 0, 0, 0x40, 0x1f, 0, 0, 1, 0, 8, 0] ++
    Bytes.ofText "data" ++ [8, 0, 0, 0, 1, 2, 3, 4, 5, 6, 7, 8]

/-- Somebody connects and is fed, and somebody else disconnects before the worker has received what
was pushed. -/
def overtaken : List DeskMove :=
  [.connect 1 52, .work, .nextRequest 2, .push (.data eightSamples), .disconnect]

/-- The worker opens the container all the same, and its track is enabled and pulled. -/
def pullingLate : List DeskMove := [.work, .work, .enable 1 0, .order 1 (.pull 0), .work, .work]

def lateDesk : Desk Wav.Reader := Desk.new.run Wav.openReader (overtaken ++ pullingLate)

theorem rules_kept_overtaken :
    NeedsBytes Wav.openReader ∧ lateDesk.KeepsRules Wav.openReader (overtaken ++ pullingLate) ∧
      lateDesk.connections = 1 :=
  ⟨Wav.needsBytes_openReader, Desk.rules_kept Wav.needsBytes_openReader _, by decide +kernel⟩

/-- The buffer that somebody was told of. -/
def bufferTold? : DeskAnswer → Option Buffer
  | .pulled (.ok buffer) => buffer
  | _ => none

/-- A pull succeeds long after somebody has disconnected, who waits for the worker in vain. -/
theorem disconnected_desk_pulls :
    (overtaken.any (·.isDisconnect)) = true ∧
      lateDesk.told.filterMap (fun answer => bufferTold? answer.2) =
        [⟨[1, 2, 3, 4, 5, 6, 7, 8], .zero, ⟨1000000⟩⟩] ∧
      lateDesk.isAwaited = true := by
  decide +kernel

end Sketch
end PullStreams
