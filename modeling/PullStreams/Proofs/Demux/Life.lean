/-
The life of the demultiplexing backend, with many callers at its desk.

A desk is connected in one attempt, takes orders once that has succeeded, and is
disconnected once, which posts the end of the requests among the requests.  Whoever makes
a move and whatever the worker is doing, the move is one of few turns of this life.

* `DeskLife.Turn`, `turn_move` — all that one move may do to the life of a desk;
* `DeskLife.IsSound`, `sound_run` — what holds at every moment of it;
* `connections_lt_of_takesOrders` — after the disconnecting it takes a success to take
  orders.
-/
import Mathlib.Tactic.Common
import PullStreams.Demux.Desk

namespace PullStreams

namespace DeskAnswer

/-- Whether somebody is told that the backend is connected. -/
def isConnection : DeskAnswer → Bool
  | connected (.ok ()) => true
  | _ => false

/-- Whether somebody is told that there will be no more requests. -/
def isLast : DeskAnswer → Bool
  | request none => true
  | _ => false

end DeskAnswer

namespace Posted

/-- Whether nothing comes after it. -/
def isLast : Posted → Bool
  | last => true
  | request _ => false

@[simp] theorem isNone_request? (posted : Posted) : posted.request?.isNone = posted.isLast := by
  cases posted <;> rfl

end Posted

namespace DeskMove

def isConnect : DeskMove → Bool
  | connect .. => true
  | _ => false

def isDisconnect : DeskMove → Bool
  | disconnect => true
  | _ => false

end DeskMove

/-- How far the one attempt to connect has come. -/
inductive Era where
  | untried
  | opening
  | over
  deriving DecidableEq, Repr

def Stage.era {ρ : Type} : Stage ρ → Era
  | unborn => .untried
  | opening .. => .opening
  | idle .. | busy .. | gone => .over

/-- What the rules of the backend's calls depend on. -/
structure DeskLife where
  era : Era
  takesOrders : Bool
  isDisconnected : Bool
  /-- How many tracks were found. -/
  tracks : Nat
  /-- How many tracks have a mark. -/
  marks : Nat
  /-- How often somebody was told that the backend is connected. -/
  connections : Nat
  /-- Whether the end of the requests is posted and not taken. -/
  hasLast : Bool
  /-- Whether somebody was told that there will be no more requests. -/
  hasToldLast : Bool

namespace DeskLife

variable {l l' : DeskLife} {move : DeskMove}

/-- All that one move may do to the life of a desk. -/
inductive Turn (l : DeskLife) (move : DeskMove) : DeskLife → Prop
  | rest (hconnect : move.isConnect = true → l.era ≠ .untried)
      (hdisconnect : move.isDisconnect = true → l.isDisconnected = true) : Turn l move l
  | connect (hmove : move.isConnect = true) (hera : l.era = .untried) :
      Turn l move { l with era := .opening }
  /-- There was no thread for the worker. -/
  | notBegun (hmove : move.isConnect = true) (hera : l.era = .untried) :
      Turn l move { l with era := .over }
  | opened (hmove : move = .work) (hera : l.era = .opening) (tracks : Nat) :
      Turn l move { l with
        era := .over, takesOrders := true, tracks, marks := tracks
        connections := l.connections + 1 }
  | notOpened (hmove : move = .work) (hera : l.era = .opening) :
      Turn l move { l with era := .over }
  | disconnect (hmove : move.isDisconnect = true) (hopen : l.isDisconnected = false) :
      Turn l move { l with isDisconnected := true, takesOrders := false, hasLast := true }
  /-- Somebody is told of a request, or that there will be none. -/
  | next (hmove : move.isConnect = false ∧ move.isDisconnect = false) (hasLast hasToldLast : Bool)
      (hlast : hasLast = true → l.hasLast = true)
      (htold : hasToldLast = true →
        l.hasToldLast = true ∨ l.isDisconnected = true ∨ l.hasLast = true) :
      Turn l move { l with hasLast, hasToldLast }

/-- Connecting was tried if and only if it had been before or is tried now. -/
theorem Turn.era_eq_untried (h : l.Turn move l') :
    l'.era = .untried ↔ l.era = .untried ∧ move.isConnect = false := by
  cases h with
  | rest hconnect _ =>
    refine ⟨fun hera => ⟨hera, ?_⟩, And.left⟩
    exact Bool.eq_false_iff.mpr fun hmove => hconnect hmove hera
  | connect hmove hera | notBegun hmove hera => simp [hmove]
  | opened _ hera | notOpened _ hera => simp [hera]
  | disconnect hmove _ =>
    cases move <;> simp [DeskMove.isConnect, DeskMove.isDisconnect] at hmove ⊢
  | next hmove => simp [hmove.1]

theorem Turn.isDisconnected_eq (h : l.Turn move l') :
    l'.isDisconnected = (l.isDisconnected || move.isDisconnect) := by
  cases h with
  | rest _ hdisconnect =>
    cases hmove : move.isDisconnect with
    | true => simp [hdisconnect hmove]
    | false => simp
  | connect hmove _ | notBegun hmove _ =>
    cases move <;> simp [DeskMove.isConnect, DeskMove.isDisconnect] at hmove ⊢
  | opened hmove _ | notOpened hmove _ => simp [hmove, DeskMove.isDisconnect]
  | disconnect hmove _ => simp [hmove]
  | next hmove => simp [hmove.2]

/-- What holds at every moment of the life of a desk. -/
structure IsSound (l : DeskLife) : Prop where
  /-- Nobody is told of success before the attempt is over, and nobody twice. -/
  unconnected : l.era ≠ .over → l.connections = 0
  once : l.connections ≤ 1
  taking : l.takesOrders = true → l.connections = 1
  tracks : l.connections = 0 → l.tracks = 0
  marks : l.marks = l.tracks
  last : l.hasLast = true → l.isDisconnected = true
  toldLast : l.hasToldLast = true → l.isDisconnected = true

theorem IsSound.turn (hl : l.IsSound) (h : l.Turn move l') : l'.IsSound := by
  cases h with
  | rest => exact hl
  | connect _ hera =>
    have hnone := hl.unconnected (by simp [hera])
    exact { hl with unconnected := fun _ => hnone }
  | notBegun _ _ | notOpened _ _ => exact { hl with unconnected := fun h => absurd rfl h }
  | opened _ hera tracks =>
    have hnone : l.connections = 0 := hl.unconnected (by simp [hera])
    exact { hl with
      unconnected := fun h => absurd rfl h
      once := by simp [hnone]
      taking := fun _ => by simp [hnone]
      tracks := nofun
      marks := rfl }
  | disconnect _ _ =>
    exact { hl with taking := nofun, last := fun _ => rfl, toldLast := fun _ => rfl }
  | next _ hasLast hasToldLast hlast htold =>
    refine { hl with last := fun h => hl.last (hlast h), toldLast := fun h => ?_ }
    rcases htold h with h | h | h
    · exact hl.toldLast h
    · exact h
    · exact hl.last h

/-- It takes a success to take orders again. -/
theorem Turn.takesOrders (h : l.Turn move l') (htakes : l'.takesOrders = true) :
    l.takesOrders = true ∨ l.connections < l'.connections := by
  cases h with
  | opened => exact .inr (Nat.lt_succ_self _)
  | disconnect => cases htakes
  | _ => exact .inl htakes

/-- Only the worker connects. -/
theorem Turn.connections_eq (h : l.Turn move l') (hmove : move ≠ .work) :
    l'.connections = l.connections := by
  cases h with
  | opened hwork => exact absurd hwork hmove
  | _ => rfl

/-- The first disconnecting ends the taking of orders, and connects nobody. -/
theorem Turn.takesOrders_eq_false (h : l.Turn move l') (hmove : move.isDisconnect = true)
    (hopen : l.isDisconnected = false) :
    l'.takesOrders = false ∧ l'.connections = l.connections := by
  cases h with
  | rest _ hdisconnect => rw [hdisconnect hmove] at hopen; cases hopen
  | connect hconnect _ | notBegun hconnect _ =>
    cases move <;> simp [DeskMove.isConnect, DeskMove.isDisconnect] at hmove hconnect
  | opened hwork _ _ | notOpened hwork _ => rw [hwork] at hmove; cases hmove
  | disconnect _ _ => exact ⟨rfl, rfl⟩
  | next hnext => rw [hnext.2] at hmove; cases hmove

/-- When the attempt is over, so it stays, and nobody connects any more. -/
theorem Turn.over (h : l.Turn move l') (hera : l.era = .over) :
    l'.era = .over ∧ l'.connections = l.connections := by
  cases h with
  | connect _ hera' | notBegun _ hera' | opened _ hera' _ | notOpened _ hera' =>
    rw [hera] at hera'
    cases hera'
  | _ => exact ⟨hera, rfl⟩

/-- What was told stays told. -/
theorem Turn.connections_le (h : l.Turn move l') : l.connections ≤ l'.connections := by
  cases h with
  | opened => exact Nat.le_succ _
  | _ => exact Nat.le_refl _

end DeskLife

namespace Desk

variable {ρ : Type} {d : Desk ρ}

/-- How often somebody was told that the backend is connected. -/
def connections (d : Desk ρ) : Nat := d.told.countP (·.2.isConnection)

def life (d : Desk ρ) : DeskLife :=
  { era := d.stage.era, takesOrders := d.takesOrders, isDisconnected := d.isDisconnected
    tracks := d.tracks.length, marks := d.enabled.length, connections := d.connections
    hasLast := d.requests.any (·.isLast), hasToldLast := d.told.any (·.2.isLast) }

@[simp] theorem life_say (d : Desk ρ) (notices : List Notice) :
    (d.say notices).life = d.life := rfl

/-- Most answers leave the life of a desk as it is. -/
theorem life_tell (d : Desk ρ) (caller : Nat) {answer : DeskAnswer}
    (hconnection : answer.isConnection = false) (hlast : answer.isLast = false) :
    (d.tell caller answer).life = d.life := by
  simp [life, connections, tell, List.countP_append, hconnection, hlast]

@[simp] theorem life_leave (d : Desk ρ) : d.leave.life = { d.life with era := .over } := by
  unfold leave
  split <;> rfl

theorem life_tell_order (d : Desk ρ) (caller : Nat) (answer : OrderAnswer) :
    (d.tell caller answer.told).life = d.life := by
  cases answer <;> exact life_tell _ _ rfl rfl

variable [FormatReader ρ Reading] {opener : Reading (OpenedContainer ρ)}

omit [FormatReader ρ Reading] in
theorem era_eq_untried : d.stage.era = .untried ↔ d.stage = .unborn := by
  cases d.stage <;> simp [Stage.era]

omit [FormatReader ρ Reading] in
/-- Whoever connects after somebody else is refused. -/
theorem connect_of_tried (h : d.stage.era ≠ .untried) (caller total : Nat)
    (thread : Except IoError Unit) :
    d.connect opener caller total thread =
      d.tell caller (.connected (.error DemuxBackend.alreadyConnected)) := by
  unfold connect
  split
  · next hstage => exact absurd (era_eq_untried.mpr hstage) h
  · next hstage => exact absurd (era_eq_untried.mpr hstage) h
  · rfl

omit [FormatReader ρ Reading] in
theorem turn_connect (d : Desk ρ) (caller total : Nat) (thread : Except IoError Unit) :
    d.life.Turn (.connect caller total thread) (d.connect opener caller total thread).life := by
  by_cases hera : d.stage.era = .untried
  · have hstage := era_eq_untried.mp hera
    cases thread with
    | ok =>
      simp only [connect, hstage]
      exact .connect rfl hera
    | error e =>
      simp only [connect, hstage]
      rw [life_tell _ _ rfl rfl]
      exact .notBegun rfl hera
  · rw [connect_of_tried hera, life_tell _ _ rfl rfl]
    exact .rest (fun _ => hera) nofun

omit [FormatReader ρ Reading] in
theorem life_mark (d : Desk ρ) (caller track : Nat) (on : Bool) :
    (d.mark caller track on).life = d.life := by
  unfold mark
  split
  · rw [life_tell _ _ rfl rfl]
    simp [life, connections]
  · exact life_tell _ _ rfl rfl

omit [FormatReader ρ Reading] in
theorem life_exchange (d : Desk ρ) (request : ReadRequest) (goOn : Option Chunk → Stage ρ)
    (hera : ∀ reply, (goOn reply).era = d.stage.era) :
    (d.exchange request goOn).life = d.life := by
  unfold exchange
  split
  · simp [life, connections, Posted.isLast]
  · simp [life, connections, hera]
  · simp [life, connections, hera]
  · rfl

omit [FormatReader ρ Reading] in
theorem turn_opened (d : Desk ρ) (caller total : Nat)
    (answer : RequestReader × OpenedContainer ρ) (hera : d.stage.era = .opening) :
    d.life.Turn .work (d.opened caller total answer).life := by
  obtain ⟨input, container⟩ := answer
  simp only [opened]
  split
  · rw [life_leave, life_tell _ _ rfl rfl, life_say]
    exact .notOpened rfl hera
  · next reader tracks _ =>
    have hopened : d.life.Turn .work { d.life with
        era := .over, takesOrders := true, tracks := tracks.length, marks := tracks.length
        connections := d.life.connections + 1 } := .opened rfl hera tracks.length
    simpa [life, connections, tell, say, Stage.era, List.countP_append, DeskAnswer.isConnection,
      DeskAnswer.isLast] using hopened

/-- A worker between two orders is past the attempt to connect. -/
theorem life_turn (d : Desk ρ) (worker : Worker ρ) (input : RequestReader)
    (hera : d.stage.era = .over) : (d.turn worker input).life = d.life := by
  have hover : { d.life with era := .over } = d.life := by rw [← hera]; rfl
  unfold turn
  split
  · exact hover
  · rfl
  · rw [life_leave, hover]

theorem turn_work (d : Desk ρ) : d.life.Turn .work d.work.life := by
  have hrest : ∀ {l : DeskLife}, l = d.life → d.life.Turn .work l := by
    rintro l rfl
    exact .rest nofun nofun
  unfold work
  split
  · exact hrest rfl
  · exact hrest rfl
  · next hstage => exact turn_opened d _ _ _ (by rw [hstage]; rfl)
  · next hstage => exact hrest (life_exchange d _ _ fun _ => by rw [hstage]; rfl)
  · next hstage => exact hrest (life_turn d _ _ (by rw [hstage]; rfl))
  · next hstage =>
    refine hrest ?_
    rw [life_tell_order, life_say]
    simp [life, connections, hstage, Stage.era]
  · next hstage => exact hrest (life_exchange d _ _ fun _ => by rw [hstage]; rfl)

theorem turn_disconnect (d : Desk ρ) : d.life.Turn .disconnect d.disconnect.life := by
  unfold disconnect
  split
  · next hdisconnected => exact .rest nofun fun _ => hdisconnected
  · next hopen =>
    have hturn : d.life.Turn .disconnect
        { d.life with isDisconnected := true, takesOrders := false, hasLast := true } :=
      .disconnect rfl (Bool.eq_false_iff.mpr hopen)
    have hshut : ∀ isAwaited, ({ d with
        isDisconnected := true, takesOrders := false, isAwaited
        requests := d.requests ++ [Posted.last] } : Desk ρ).life =
          { d.life with isDisconnected := true, takesOrders := false, hasLast := true } := by
      intro isAwaited
      simp [life, connections, Posted.isLast]
    dsimp only
    split
    · exact hshut d.isAwaited ▸ hturn
    · exact hshut d.isAwaited ▸ hturn
    · next hstage =>
      -- The worker is woken in the same step; its turn changes nothing that counts here.
      rw [life_turn _ _ _ (by rw [hstage]; rfl), hshut]
      exact hturn
    · exact hshut true ▸ hturn
    · exact hshut true ▸ hturn

omit [FormatReader ρ Reading] in
/-- What is told of the requests. -/
theorem life_tell_request (d : Desk ρ) (caller : Nat) (next : Option ReadRequest) :
    (d.tell caller (.request next)).life =
      { d.life with hasToldLast := d.life.hasToldLast || next.isNone } := by
  cases next <;>
    simp [life, connections, tell, List.countP_append, DeskAnswer.isConnection, DeskAnswer.isLast]

theorem turn_nextRequest (opener : Reading (OpenedContainer ρ)) (d : Desk ρ) (caller : Nat) :
    d.life.Turn (.nextRequest caller) (d.move opener (.nextRequest caller)).life := by
  simp only [Desk.move, nextRequest?]
  by_cases hdisconnected : d.isDisconnected = true
  · rw [if_pos hdisconnected]
    dsimp only
    rw [life_tell_request]
    exact .next ⟨rfl, rfl⟩ d.life.hasLast _ id fun _ => .inr (.inl hdisconnected)
  · rw [if_neg hdisconnected]
    cases hrequests : d.requests with
    | nil => exact .rest nofun nofun
    | cons posted requests =>
      have hposted : d.life.hasLast = (posted.isLast || requests.any (·.isLast)) := by
        simp [life, hrequests]
      dsimp only
      rw [life_tell_request, Posted.isNone_request?]
      -- What is taken may be the end itself.
      refine .next ⟨rfl, rfl⟩ (requests.any (·.isLast)) _ (fun h => ?_) fun h => ?_
      · rw [hposted, h, Bool.or_true]
      · rcases (Bool.or_eq_true _ _).mp h with h | h
        · exact .inl h
        · exact .inr (.inr (by rw [hposted, h, Bool.true_or]))

/-- Every move is a turn in the life of the desk. -/
theorem turn_move (opener : Reading (OpenedContainer ρ)) (d : Desk ρ) (move : DeskMove) :
    d.life.Turn move (d.move opener move).life := by
  cases move with
  | connect caller total thread => exact turn_connect d caller total thread
  | enable caller track | disable caller track =>
    rw [Desk.move, life_mark]
    exact .rest nofun nofun
  | order caller order =>
    rw [Desk.move, leaveOrder]
    split
    · exact .rest nofun nofun
    · rw [life_tell_order]
      exact .rest nofun nofun
  | nextRequest caller => exact turn_nextRequest opener d caller
  | push chunk =>
    rw [Desk.move, push]
    split
    · exact .rest nofun nofun
    · exact .rest nofun nofun
  | disconnect => exact turn_disconnect d
  | work => exact turn_work d

/-! ### Runs -/

theorem sound_run (opener : Reading (OpenedContainer ρ)) (h : d.life.IsSound)
    (moves : List DeskMove) : (d.run opener moves).life.IsSound := by
  induction moves generalizing d with
  | nil => exact h
  | cons move moves ih => exact ih (h.turn (turn_move opener d move))

theorem era_run (opener : Reading (OpenedContainer ρ)) (d : Desk ρ) (moves : List DeskMove) :
    (d.run opener moves).life.era = .untried ↔
      d.life.era = .untried ∧ ∀ move ∈ moves, move.isConnect = false := by
  induction moves generalizing d with
  | nil => simp [run]
  | cons move moves ih =>
    refine (ih (d.move opener move)).trans ?_
    rw [(turn_move opener d move).era_eq_untried, List.forall_mem_cons, and_assoc]

theorem isDisconnected_run (opener : Reading (OpenedContainer ρ)) (d : Desk ρ)
    (moves : List DeskMove) :
    (d.run opener moves).isDisconnected = (d.isDisconnected || moves.any (·.isDisconnect)) := by
  induction moves generalizing d with
  | nil => simp [run]
  | cons move moves ih =>
    have hfirst : (d.move opener move).isDisconnected = (d.isDisconnected || move.isDisconnect) :=
      (turn_move opener d move).isDisconnected_eq
    refine (ih (d.move opener move)).trans ?_
    rw [hfirst, List.any_cons, Bool.or_assoc]

theorem connections_le_run (opener : Reading (OpenedContainer ρ)) (d : Desk ρ)
    (moves : List DeskMove) : d.life.connections ≤ (d.run opener moves).life.connections := by
  induction moves generalizing d with
  | nil => exact Nat.le_refl _
  | cons move moves ih => exact Nat.le_trans (turn_move opener d move).connections_le (ih _)

theorem over_run (opener : Reading (OpenedContainer ρ)) (h : d.life.era = .over)
    (moves : List DeskMove) : (d.run opener moves).connections = d.connections := by
  induction moves generalizing d with
  | nil => rfl
  | cons move moves ih =>
    obtain ⟨hera, hconnections⟩ := (turn_move opener d move).over h
    exact (ih hera).trans hconnections

/-- A desk that takes orders at the end of a run took them before or was connected meanwhile. -/
theorem takesOrders_run {moves : List DeskMove} (h : (d.run opener moves).takesOrders = true) :
    d.takesOrders = true ∨ d.life.connections < (d.run opener moves).life.connections := by
  induction moves generalizing d with
  | nil => exact .inl h
  | cons move moves ih =>
    have hfirst := turn_move opener d move
    -- The success came with one of the later moves or with the first.
    rcases ih h with htakes | hconnected
    · rcases hfirst.takesOrders htakes with htakes | hconnected
      · exact .inl htakes
      · exact .inr (Nat.lt_of_lt_of_le hconnected (connections_le_run opener _ moves))
    · exact .inr (Nat.lt_of_le_of_lt hfirst.connections_le hconnected)

/-- A desk takes orders after the first disconnecting only if there was a success since. -/
theorem connections_lt_of_takesOrders (hopen : d.isDisconnected = false) {after : List DeskMove}
    (h : (d.run opener (.disconnect :: after)).takesOrders = true) :
    d.connections < (d.run opener (.disconnect :: after)).connections := by
  obtain ⟨hstops, hsame⟩ := (turn_move opener d .disconnect).takesOrders_eq_false rfl hopen
  have hrun : d.run opener (.disconnect :: after) =
      (d.move opener .disconnect).run opener after := rfl
  rw [hrun] at h ⊢
  rcases takesOrders_run h with htakes | hlt
  · exact absurd htakes (Bool.eq_false_iff.mp hstops)
  · exact Nat.lt_of_le_of_lt (Nat.le_of_eq hsame.symm) hlt

end Desk
end PullStreams
