/-
Letting a backend go while its feeder is anywhere in its loop.

The owner gives the byte source back only after it has waited for the feeder, and a feeder
that has left its loop does nothing more.  So whichever moves interleave in whichever way,
the journal of the two has one shape: whatever the feeder does stands before the line that
it has left, that line before the end of the wait, and that before the byte source is given
back (`Ordered`).  Between taking a request and pushing its chunk the feeder has no way
out, so what was taken was pushed, in the same order and each once (`Answers`).

* `Moves` — all that one move can do;
* `ordered_run`, `answers_run` — the two invariants of a row of moves;
* `turns_le` — after the disconnecting the feeder is at most five turns from its end;
* `source_closed_last` — what a teardown keeps to, after any row of moves.
-/
import Mathlib.Tactic.Common
import PullStreams.ByteSource.Cursor
import PullStreams.Feeder.Loop

namespace PullStreams

namespace Feeder

variable {σ : Type} [ByteSource σ]

/-- The feeder when its byte source was given back. -/
def givenBack (f : Feeder σ) : Feeder σ := { f with source := ByteSource.close f.source }

/-- Unless it is touched for a request, the byte source stays as it is. -/
theorem source_answer (f : Feeder σ) {r : ReadRequest} (h : f.touches r = false) :
    (f.answer r).1.source = f.source := by
  simp only [touches, Bool.and_eq_false_iff, decide_eq_false_iff_not, not_not,
    Bool.not_eq_false', Bool.and_eq_true, decide_eq_true_eq] at h
  unfold answer
  rcases h with hnothing | hlarge
  · rw [if_pos hnothing]
  · dsimp only
    split
    · rfl
    · rfl

/-- Requests are answered in turn. -/
theorem run_append (f : Feeder σ) (requests more : List ReadRequest) :
    f.run (requests ++ more) =
      (((f.run requests).1.run more).1, (f.run requests).2 ++ ((f.run requests).1.run more).2) := by
  induction requests generalizing f with
  | nil => rfl
  | cons r rest ih => simp only [List.cons_append, run, ih]

@[simp] theorem length_run (f : Feeder σ) (requests : List ReadRequest) :
    (f.run requests).2.length = requests.length := by
  induction requests generalizing f with
  | nil => rfl
  | cons r rest ih => exact congrArg (· + 1) (ih (f.answer r).1)

theorem run_concat (f : Feeder σ) (requests : List ReadRequest) (r : ReadRequest) :
    f.run (requests ++ [r]) =
      (((f.run requests).1.answer r).1, (f.run requests).2 ++ [((f.run requests).1.answer r).2]) :=
  run_append f requests [r]

end Feeder

namespace LoopEntry

def taken? : LoopEntry → Option ReadRequest
  | taken request => some request
  | _ => none

def pushed? : LoopEntry → Option (ReadRequest × Chunk)
  | pushed request chunk => some (request, chunk)
  | _ => none

/-- Whether the feeder did it. -/
@[simp] def isFeeders : LoopEntry → Bool
  | taken _ | touched _ | pushed .. | left => true
  | notConnected | disconnected | joined | closed => false

/-- What may come after a line. -/
def MayPrecede : LoopEntry → LoopEntry → Prop
  | closed, _ => False
  | joined, later => later = closed
  | left, later => later.isFeeders = false
  | _, _ => True

end LoopEntry

namespace LoopPlace

/-- The request that was taken and whose chunk was not pushed. -/
def inHand : LoopPlace → List ReadRequest
  | holding request | pushing request _ => [request]
  | head | asking _ | left => []

/-- The chunk that was made and not pushed, with its request. -/
def ready : LoopPlace → List (ReadRequest × Chunk)
  | pushing request chunk => [(request, chunk)]
  | head | asking _ | holding _ | left => []

/-- How many turns the feeder of a disconnected backend is at most from its end. -/
def remaining : LoopPlace → Nat
  | left => 0
  | asking true => 1
  | head => 2
  | pushing .. => 3
  | holding _ => 4
  | asking false => 5

theorem remaining_le (place : LoopPlace) : place.remaining ≤ 5 := by
  cases place with
  | asking isLate => cases isLate <;> decide
  | _ => simp [remaining]

theorem remaining_eq_zero {place : LoopPlace} : place.remaining = 0 ↔ place = left := by
  cases place with
  | asking isLate => cases isLate <;> simp [remaining]
  | _ => simp [remaining]

/-- Whether a move is the turn of a feeder at this place. -/
def isTurn : LoopPlace → LoopMove → Bool
  | head, .look | asking _, .reply _ | holding _, .serve | pushing .., .push => true
  | _, _ => false

end LoopPlace

/-- Whether the owner is about to let the backend go. -/
@[simp] def OwnerPlace.isReleasing : OwnerPlace → Bool
  | disconnecting _ | stopping _ | joining _ => true
  | connecting | working | failed | closing | closed => false

namespace FeederLoop

variable {σ : Type} {l l' : FeederLoop σ} {begun : Feeder σ}

/-- The requests that the feeder has taken, oldest first. -/
def taken (l : FeederLoop σ) : List ReadRequest := l.journal.filterMap LoopEntry.taken?

/-- The chunks that the feeder has pushed, each with its request, oldest first. -/
def pushes (l : FeederLoop σ) : List (ReadRequest × Chunk) := l.journal.filterMap LoopEntry.pushed?

/-- The chunks that the feeder has made. -/
def made (l : FeederLoop σ) : List (ReadRequest × Chunk) := l.pushes ++ l.place.ready

/-! ### What one move can do -/

variable [ByteSource σ]

/-- All that one move can do. -/
inductive Moves (l : FeederLoop σ) : FeederLoop σ → Prop
  | rest : Moves l l
  -- The feeder leaves at the head or with its question answered, never with a request in hand.
  | leave (hplace : l.place = .head ∨ ∃ isLate, l.place = .asking isLate) :
      Moves l { l with place := .left, journal := l.journal ++ [.left] }
  | ask (hplace : l.place = .head) :
      Moves l { l with place := .asking l.owner.hasDisconnected }
  | take {request : ReadRequest} (hplace : l.place = .asking false) :
      Moves l { l with place := .holding request, journal := l.journal ++ [.taken request] }
  | serve {request : ReadRequest} (hplace : l.place = .holding request) :
      Moves l { l with
        feeder := (l.feeder.answer request).1
        place := .pushing request (l.feeder.answer request).2
        journal := l.journal ++ if l.feeder.touches request then [.touched request] else [] }
  | push {request : ReadRequest} {chunk : Chunk} (hplace : l.place = .pushing request chunk) :
      Moves l { l with place := .head, journal := l.journal ++ [.pushed request chunk] }
  | connect (howner : l.owner = .connecting) : Moves l { l with owner := .working }
  | notConnect (howner : l.owner = .connecting) :
      Moves l { l with
        owner := .disconnecting .notConnected, journal := l.journal ++ [.notConnected] }
  | shutDown (howner : l.owner = .working) : Moves l { l with owner := .disconnecting .shutdown }
  | shutDownFailed (howner : l.owner = .failed) : Moves l { l with owner := .closing }
  | disconnect {cause : ReleaseCause} (howner : l.owner = .disconnecting cause) :
      Moves l { l with owner := .stopping cause, journal := l.journal ++ [.disconnected] }
  | tell {cause : ReleaseCause} (howner : l.owner = .stopping cause) :
      Moves l { l with owner := .joining cause, isToldToStop := true }
  | join {cause : ReleaseCause} (howner : l.owner = .joining cause) (hplace : l.place = .left) :
      Moves l { l with owner := cause.next, journal := l.journal ++ [.joined] }
  | close (howner : l.owner = .closing) :
      Moves l { l with
        owner := .closed, feeder := l.feeder.givenBack, journal := l.journal ++ [.closed] }

theorem serve_eq (l : FeederLoop σ) (request : ReadRequest) :
    l.serve request = { l with
      feeder := (l.feeder.answer request).1
      place := .pushing request (l.feeder.answer request).2
      journal := l.journal ++ if l.feeder.touches request then [.touched request] else [] } := by
  simp only [serve]
  split
  · rfl
  · rw [List.append_nil]

theorem moves_release (l : FeederLoop σ) : l.Moves l.release := by
  unfold release
  split
  · next howner => exact .disconnect howner
  · next howner => exact .tell howner
  · next howner =>
    split
    · next hplace => exact .join howner hplace
    · exact .rest
  · next howner => exact .close howner
  all_goals exact .rest

theorem moves_move (l : FeederLoop σ) (move : LoopMove) : l.Moves (l.move move) := by
  cases move with
  | look =>
    simp only [FeederLoop.move]
    split
    · next hplace _ => exact .leave (.inl hplace)
    · next hplace _ => exact .ask hplace
    · exact .rest
  | reply answer =>
    simp only [FeederLoop.move]
    split
    · next hplace => exact .take hplace
    · next hplace => exact .leave (.inr ⟨_, hplace⟩)
    · next hplace => exact .leave (.inr ⟨_, hplace⟩)
    · exact .rest
  | serve =>
    simp only [FeederLoop.move]
    split
    · next hplace =>
      rw [serve_eq]
      exact .serve hplace
    · exact .rest
  | push =>
    simp only [FeederLoop.move]
    split
    · next hplace => exact .push hplace
    · exact .rest
  | connect succeeds =>
    simp only [FeederLoop.move]
    split
    · next howner => exact .connect howner
    · next howner => exact .notConnect howner
    · exact .rest
  | shutDown =>
    simp only [FeederLoop.move]
    split
    · next howner => exact .shutDown howner
    · next howner => exact .shutDownFailed howner
    · exact .rest
  | release => exact moves_release l

/-- The journal misses no touch of the byte source. -/
theorem Moves.source (h : l.Moves l') :
    l'.feeder.source = l.feeder.source ∨
      ∃ entry, (entry = .closed ∨ ∃ request, entry = .touched request) ∧
        l'.journal = l.journal ++ [entry] := by
  cases h with
  | @serve request _ =>
    cases htouches : l.feeder.touches request with
    | true => exact .inr ⟨_, .inr ⟨request, rfl⟩, rfl⟩
    | false => exact .inl (l.feeder.source_answer htouches)
  | close _ => exact .inr ⟨_, .inl rfl, rfl⟩
  | _ => exact .inl rfl

/-! ### The order of the journal -/

/-- The journal tells how far the two have come, and its lines stand in order. -/
structure Ordered (l : FeederLoop σ) : Prop where
  left : .left ∈ l.journal ↔ l.place = .left
  disconnected : .disconnected ∈ l.journal ↔ l.owner.hasDisconnected = true
  joined : .joined ∈ l.journal ↔ l.owner.hasJoined = true
  closed : .closed ∈ l.journal ↔ l.owner = .closed
  notConnected : .notConnected ∈ l.journal → l.owner.isReleasing = true ∨ l.owner.hasJoined = true
  /-- Nobody goes on from the wait before the feeder has left. -/
  waited : l.owner.hasJoined = true → l.place = .left
  pairwise : l.journal.Pairwise LoopEntry.MayPrecede

omit [ByteSource σ] in
theorem ordered_start (feeder : Feeder σ) (begins : FeederStart) :
    (start feeder begins).Ordered := by
  cases begins <;> constructor <;> simp [start, OwnerPlace.hasDisconnected, OwnerPlace.hasJoined]

omit [ByteSource σ] in
/-- Lines may be added that may come after what the journal tells. -/
theorem Ordered.append (h : l.Ordered) {entries : List LoopEntry}
    (hentries : entries.Pairwise LoopEntry.MayPrecede) (hclosed : l.owner = .closed → entries = [])
    (hjoined : l.owner.hasJoined = true → ∀ entry ∈ entries, entry = .closed)
    (hleft : l.place = .left → ∀ entry ∈ entries, entry.isFeeders = false) :
    (l.journal ++ entries).Pairwise LoopEntry.MayPrecede := by
  refine List.pairwise_append.mpr ⟨h.pairwise, hentries, fun earlier hmem later hlater => ?_⟩
  cases earlier with
  | closed => exact List.not_mem_nil (hclosed (h.closed.mp hmem) ▸ hlater)
  | joined => exact hjoined (h.joined.mp hmem) later hlater
  | left => exact hleft (h.left.mp hmem) later hlater
  | _ => trivial

omit [ByteSource σ] in
/-- A feeder in its loop may do anything, for nobody has waited for it. -/
theorem Ordered.feeders (h : l.Ordered) (hin : l.place ≠ .left) (feeder : Feeder σ)
    {place : LoopPlace} (entries : List LoopEntry)
    (hentries : entries.Pairwise LoopEntry.MayPrecede)
    (hfeeders : ∀ entry ∈ entries, entry.isFeeders = true)
    (hleft : .left ∈ entries ↔ place = .left) :
    Ordered { l with feeder, place, journal := l.journal ++ entries } := by
  have hjoined : ¬l.owner.hasJoined = true := fun hjoined => hin (h.waited hjoined)
  have hclosed : l.owner ≠ .closed := fun hclosed => hjoined (hclosed ▸ rfl)
  -- None of the new lines is the owner's.
  have howners : ∀ {entry : LoopEntry}, entry.isFeeders = false →
      (entry ∈ l.journal ++ entries ↔ entry ∈ l.journal) := by
    intro entry hentry
    refine List.mem_append.trans (or_iff_left fun hmem => ?_)
    rw [hfeeders entry hmem] at hentry
    cases hentry
  exact {
    left := by simp [h.left, hin, hleft]
    disconnected := (howners rfl).trans h.disconnected
    joined := (howners rfl).trans h.joined
    closed := (howners rfl).trans h.closed
    notConnected := fun hmem => h.notConnected ((howners rfl).mp hmem)
    waited := fun h => absurd h hjoined
    pairwise := h.append hentries (fun h => absurd h hclosed) (fun h => absurd h hjoined)
      (fun h => absurd h hin) }

omit [ByteSource σ] in
/-- The owner goes on alone, by a line that comes after the wait only if it is the last one. -/
theorem Ordered.concat (h : l.Ordered) (entry : LoopEntry) (hentry : entry.isFeeders = false)
    (hclosed : l.owner ≠ .closed) (hjoined : l.owner.hasJoined = true → entry = .closed) :
    (l.journal ++ [entry]).Pairwise LoopEntry.MayPrecede :=
  h.append (List.pairwise_singleton ..) (fun h => absurd h hclosed)
    (fun h => List.forall_mem_singleton.mpr (hjoined h))
    (fun _ => List.forall_mem_singleton.mpr hentry)

theorem Ordered.moves (h : l.Ordered) (hm : l.Moves l') : l'.Ordered := by
  have ⟨hleft, hdisconnected, hjoined, hclosed, hnot, hwaited, hpairwise⟩ := h
  cases hm with
  | rest => exact h
  | leave hplace =>
    have hin : l.place ≠ .left := by rcases hplace with hplace | ⟨_, hplace⟩ <;> simp [hplace]
    exact h.feeders hin l.feeder _ (by simp) (by simp) (by simp)
  | ask hplace =>
    simpa using h.feeders (by simp [hplace]) l.feeder [] (by simp) (by simp) (by simp)
  | take hplace =>
    exact h.feeders (by simp [hplace]) l.feeder _ (by simp) (by simp) (by simp)
  | serve hplace =>
    refine h.feeders (by simp [hplace]) _ _ ?_ ?_ ?_ <;> split <;> simp
  | push hplace =>
    exact h.feeders (by simp [hplace]) l.feeder _ (by simp) (by simp) (by simp)
  | connect howner => constructor <;> simp_all
  | notConnect howner =>
    have hnew := h.concat .notConnected rfl (by simp [howner]) (by simp [howner])
    constructor <;> simp_all
  | shutDown howner => constructor <;> simp_all
  | shutDownFailed howner => constructor <;> simp_all
  | disconnect howner =>
    have hnew := h.concat .disconnected rfl (by simp [howner]) (by simp [howner])
    constructor <;> simp_all
  | tell howner => constructor <;> simp_all
  | @join cause howner hplace =>
    have hnew := h.concat .joined rfl (by simp [howner]) (by simp [howner])
    cases cause <;> constructor <;> simp_all
  | close howner =>
    have hnew := h.concat .closed rfl (by simp [howner]) (fun _ => rfl)
    constructor <;> simp_all

theorem ordered_run (h : l.Ordered) (moves : List LoopMove) : (l.run moves).Ordered := by
  induction moves generalizing l with
  | nil => exact h
  | cons move moves ih => exact ih (h.moves (moves_move l move))

/-! ### Requests and chunks -/

/-- What the feeder took it has pushed, but for one request at most; its chunks are the answers to
its requests in turn, and the byte source is what these have made of it. -/
structure Answers (begun : Feeder σ) (l : FeederLoop σ) : Prop where
  taken : l.taken = l.pushes.map Prod.fst ++ l.place.inHand
  chunks : (begun.run (l.made.map Prod.fst)).2 = l.made.map Prod.snd
  feeder : l.feeder =
    if l.owner = .closed then (begun.run (l.made.map Prod.fst)).1.givenBack
    else (begun.run (l.made.map Prod.fst)).1

theorem answers_start (feeder : Feeder σ) (begins : FeederStart) :
    (start feeder begins).Answers feeder := by
  cases begins <;> exact ⟨rfl, rfl, rfl⟩

/-- What was pushed is the answers to the requests that it was pushed for. -/
theorem Answers.pushed (h : l.Answers begun) :
    (begun.run (l.pushes.map Prod.fst)).2 = l.pushes.map Prod.snd := by
  have hchunks := h.chunks
  rw [made, List.map_append, List.map_append, Feeder.run_append] at hchunks
  exact (List.append_inj hchunks (by simp)).1

omit [ByteSource σ] in
theorem taken_of_journal (entries : List LoopEntry) (h : l'.journal = l.journal ++ entries) :
    l'.taken = l.taken ++ entries.filterMap LoopEntry.taken? := by
  rw [taken, h, List.filterMap_append]
  rfl

omit [ByteSource σ] in
theorem pushes_of_journal (entries : List LoopEntry) (h : l'.journal = l.journal ++ entries) :
    l'.pushes = l.pushes ++ entries.filterMap LoopEntry.pushed? := by
  rw [pushes, h, List.filterMap_append]
  rfl

omit [ByteSource σ] in
/-- Lines that tell of no request and no chunk leave the requests and the chunks as they are. -/
theorem requests_same (l l' : FeederLoop σ) (entries : List LoopEntry)
    (hjournal : l'.journal = l.journal ++ entries)
    (hentries : entries.filterMap LoopEntry.taken? = [] ∧
      entries.filterMap LoopEntry.pushed? = []) :
    l'.taken = l.taken ∧ l'.pushes = l.pushes := by
  rw [taken_of_journal entries hjournal, pushes_of_journal entries hjournal, hentries.1, hentries.2,
    List.append_nil, List.append_nil]
  exact ⟨rfl, rfl⟩

/-- A move that leaves what was made as it is keeps the answers, if the feeder's hand and its lines
about requests agree. -/
theorem Answers.of_made (h : l.Answers begun) (hmade : l'.made = l.made)
    (htaken : l'.taken = l'.pushes.map Prod.fst ++ l'.place.inHand) (hfeeder : l'.feeder = l.feeder)
    (howner : l'.owner = .closed ↔ l.owner = .closed) : l'.Answers begun where
  taken := htaken
  chunks := by rw [hmade, h.chunks]
  feeder := by simp only [hmade, hfeeder, howner, ← h.feeder]

/-- Where no request is taken, served or answered, the answers stay as they are. -/
theorem Answers.same (h : l.Answers begun) (entries : List LoopEntry)
    (hjournal : l'.journal = l.journal ++ entries)
    (hentries : entries.filterMap LoopEntry.taken? = [] ∧ entries.filterMap LoopEntry.pushed? = [])
    (hplace : l'.place.inHand = l.place.inHand ∧ l'.place.ready = l.place.ready)
    (hfeeder : l'.feeder = l.feeder) (howner : l'.owner = .closed ↔ l.owner = .closed) :
    l'.Answers begun := by
  obtain ⟨htaken, hpushes⟩ := requests_same l l' entries hjournal hentries
  refine h.of_made ?_ ?_ hfeeder howner
  · rw [made, hpushes, hplace.2, made]
  · rw [htaken, hpushes, hplace.1, h.taken]

theorem Answers.moves (h : l.Answers begun) (hordered : l.Ordered) (hm : l.Moves l') :
    l'.Answers begun := by
  cases hm with
  | rest => exact h
  | leave hplace =>
    refine h.same [.left] rfl ⟨rfl, rfl⟩ ?_ rfl Iff.rfl
    rcases hplace with hplace | ⟨_, hplace⟩ <;> rw [hplace] <;> exact ⟨rfl, rfl⟩
  | ask hplace =>
    refine h.same [] (List.append_nil _).symm ⟨rfl, rfl⟩ ?_ rfl Iff.rfl
    rw [hplace]
    exact ⟨rfl, rfl⟩
  | @take request hplace =>
    have hbefore : l.taken = l.pushes.map Prod.fst ++ [] := by rw [h.taken, hplace]; rfl
    refine h.of_made ?_ ?_ rfl Iff.rfl
    · rw [made, pushes_of_journal [.taken request] rfl, made, hplace]
      simp [LoopEntry.pushed?, LoopPlace.ready]
    · rw [taken_of_journal [.taken request] rfl, pushes_of_journal [.taken request] rfl, hbefore]
      simp [LoopEntry.taken?, LoopEntry.pushed?, LoopPlace.inHand]
  | @serve request hplace =>
    have hquiet : (if l.feeder.touches request then [.touched request] else []).filterMap
          LoopEntry.taken? = [] ∧
        (if l.feeder.touches request then [.touched request] else []).filterMap
          LoopEntry.pushed? = [] := by
      split <;> exact ⟨rfl, rfl⟩
    obtain ⟨htaken, hpushes⟩ := requests_same l { l with
      feeder := (l.feeder.answer request).1
      place := .pushing request (l.feeder.answer request).2
      journal := l.journal ++ if l.feeder.touches request then [.touched request] else [] }
      _ rfl hquiet
    -- While a request is in hand the byte source is not given back.
    have hopen : l.owner ≠ .closed := fun hclosed => by
      cases hplace.symm.trans (hordered.waited (hclosed ▸ rfl))
    have hbefore : l.made = l.pushes := by
      rw [made, hplace]
      exact List.append_nil _
    have hfeeder : l.feeder = (begun.run (l.pushes.map Prod.fst)).1 := by
      rw [h.feeder, if_neg hopen, hbefore]
    have hchunks := h.chunks
    rw [hbefore] at hchunks
    constructor
    · rw [htaken, hpushes, h.taken, hplace]
      rfl
    · rw [made, hpushes]
      simp [LoopPlace.ready, Feeder.run_concat, hchunks, hfeeder]
    · rw [if_neg hopen, made, hpushes]
      simp [LoopPlace.ready, Feeder.run_concat, hfeeder]
  | @push request chunk hplace =>
    refine h.of_made ?_ ?_ rfl Iff.rfl
    · rw [made, pushes_of_journal [.pushed request chunk] rfl, made, hplace]
      simp [LoopEntry.pushed?, LoopPlace.ready]
    · rw [taken_of_journal [.pushed request chunk] rfl,
        pushes_of_journal [.pushed request chunk] rfl, h.taken, hplace]
      simp [LoopEntry.taken?, LoopEntry.pushed?, LoopPlace.inHand]
  | connect howner | shutDown howner | shutDownFailed howner | tell howner =>
    exact h.same [] (List.append_nil _).symm ⟨rfl, rfl⟩ ⟨rfl, rfl⟩ rfl (by simp [howner])
  | notConnect howner =>
    exact h.same [.notConnected] rfl ⟨rfl, rfl⟩ ⟨rfl, rfl⟩ rfl (by simp [howner])
  | disconnect howner =>
    exact h.same [.disconnected] rfl ⟨rfl, rfl⟩ ⟨rfl, rfl⟩ rfl (by simp [howner])
  | @join cause howner _ =>
    refine h.same [.joined] rfl ⟨rfl, rfl⟩ ⟨rfl, rfl⟩ rfl ?_
    cases cause <;> simp [howner]
  | close howner =>
    obtain ⟨htaken, hpushes⟩ := requests_same l { l with
      owner := .closed, feeder := l.feeder.givenBack, journal := l.journal ++ [.closed] }
      [.closed] rfl ⟨rfl, rfl⟩
    have hfeeder : l.feeder = (begun.run (l.made.map Prod.fst)).1 := by
      rw [h.feeder, if_neg (by simp [howner])]
    constructor
    · rw [htaken, hpushes, h.taken]
    · rw [made, hpushes]
      exact h.chunks
    · rw [if_pos rfl, made, hpushes, hfeeder]
      rfl

theorem answers_run (h : l.Answers begun) (hordered : l.Ordered) (moves : List LoopMove) :
    (l.run moves).Answers begun := by
  induction moves generalizing l with
  | nil => exact h
  | cons move moves ih =>
    have hmoves := moves_move l move
    exact ih (h.moves hordered hmoves) (hordered.moves hmoves)

/-! ### The way out -/

/-- How many moves of a row are turns of the feeder. -/
def turns (l : FeederLoop σ) : List LoopMove → Nat
  | [] => 0
  | move :: moves => (if l.place.isTurn move then 1 else 0) + turns (l.move move) moves

theorem place_serve (l : FeederLoop σ) (request : ReadRequest) :
    (l.serve request).place = .pushing request (l.feeder.answer request).2 := by
  rw [serve_eq]

/-- Nothing but its turns moves the feeder. -/
theorem place_move {move : LoopMove} (h : l.place.isTurn move = false) :
    (l.move move).place = l.place := by
  cases move with
  | look => cases hplace : l.place <;> simp_all [FeederLoop.move, LoopPlace.isTurn]
  | reply answer => cases hplace : l.place <;> simp_all [FeederLoop.move, LoopPlace.isTurn]
  | serve => cases hplace : l.place <;> simp_all [FeederLoop.move, LoopPlace.isTurn]
  | push => cases hplace : l.place <;> simp_all [FeederLoop.move, LoopPlace.isTurn]
  | connect succeeds | shutDown =>
    simp only [FeederLoop.move]
    split <;> rfl
  | release =>
    simp only [FeederLoop.move, release]
    split
    case h_3 => split <;> rfl
    all_goals rfl

/-- Once its backend is disconnected, every turn brings the feeder nearer to its end. -/
theorem remaining_turn (h : l.owner.hasDisconnected = true) {move : LoopMove}
    (hturn : l.place.isTurn move = true) :
    (l.move move).place.remaining < l.place.remaining := by
  cases move with
  | look =>
    cases hplace : l.place with
    | head =>
      cases htold : l.isToldToStop with
      | true => simp [FeederLoop.move, hplace, htold, leave, note, LoopPlace.remaining]
      | false =>
        -- The question is late.
        simp only [FeederLoop.move, hplace, htold, h]
        decide
    | _ => simp [hplace, LoopPlace.isTurn] at hturn
  | reply answer =>
    cases hplace : l.place with
    | asking isLate =>
      cases isLate <;> cases answer <;>
        simp [FeederLoop.move, hplace, leave, note, LoopPlace.remaining]
    | _ => simp [hplace, LoopPlace.isTurn] at hturn
  | serve =>
    cases hplace : l.place with
    | holding request => simp [FeederLoop.move, hplace, place_serve, LoopPlace.remaining]
    | _ => simp [hplace, LoopPlace.isTurn] at hturn
  | push =>
    cases hplace : l.place with
    | pushing request chunk => simp [FeederLoop.move, hplace, note, LoopPlace.remaining]
    | _ => simp [hplace, LoopPlace.isTurn] at hturn
  | _ => simp [LoopPlace.isTurn] at hturn

/-- Nobody connects a backend again. -/
theorem Moves.hasDisconnected (h : l.Moves l') (hdisconnected : l.owner.hasDisconnected = true) :
    l'.owner.hasDisconnected = true := by
  cases h with
  | @join cause _ _ => cases cause <;> rfl
  | connect howner | notConnect howner | shutDown howner =>
    rw [howner] at hdisconnected
    cases hdisconnected
  | disconnect | tell | close | shutDownFailed => rfl
  | _ => exact hdisconnected

/-- Once its backend is disconnected, the feeder has left after five turns at the latest. -/
theorem remaining_run (h : l.owner.hasDisconnected = true) (moves : List LoopMove) :
    (l.run moves).place.remaining + l.turns moves ≤ l.place.remaining := by
  induction moves generalizing l with
  | nil => exact Nat.le_refl _
  | cons move moves ih =>
    have hrest : ((l.move move).run moves).place.remaining + (l.move move).turns moves ≤
        (l.move move).place.remaining := ih ((moves_move l move).hasDisconnected h)
    change ((l.move move).run moves).place.remaining +
      ((if l.place.isTurn move then 1 else 0) + (l.move move).turns moves) ≤ _
    cases hturn : l.place.isTurn move with
    | true =>
      have hturn := remaining_turn h hturn
      simp only [if_true]
      omega
    | false =>
      rw [place_move hturn] at hrest
      simpa using hrest

/-! ### What a teardown keeps to -/

/-- What the feeder and its owner keep to, with a feeder that began as `begun`. -/
structure ClosesLast (begun : Feeder σ) (l : FeederLoop σ) : Prop where
  /-- Before the byte source is given back the feeder has left and was waited for, and nothing comes
  after it. -/
  closed : ∀ before after, l.journal = before ++ .closed :: after →
    .joined ∈ before ∧ .left ∈ before ∧ after = []
  /-- Before the end of the wait the backend was disconnected and the feeder has left, and nothing
  comes after it but that the byte source is given back. -/
  joined : ∀ before after, l.journal = before ++ .joined :: after →
    .disconnected ∈ before ∧ .left ∈ before ∧ ∀ entry ∈ after, entry = .closed
  /-- Neither a shutdown nor a start that cannot connect is over before the wait. -/
  waited : l.owner.hasJoined = true ↔ .joined ∈ l.journal
  /-- A shutdown is over when the byte source was given back. -/
  shut : l.owner = .closed ↔ .closed ∈ l.journal
  /-- A backend that does not connect is let go, in the same way. -/
  notConnected : .notConnected ∈ l.journal → l.owner.isReleasing = true ∨ .joined ∈ l.journal
  /-- The byte source changes with a line of the journal only. -/
  touched : ∀ move, (l.move move).feeder.source = l.feeder.source ∨
    ∃ entry, (entry = .closed ∨ ∃ request, entry = .touched request) ∧
      (l.move move).journal = l.journal ++ [entry]
  /-- What was taken was pushed, each once and in order, but for what is in hand. -/
  taken : l.taken = l.pushes.map Prod.fst ++ l.place.inHand
  /-- What was pushed is the answers to the requests in turn. -/
  pushed : (begun.run (l.pushes.map Prod.fst)).2 = l.pushes.map Prod.snd
  /-- The feeder leaves with nothing in hand. -/
  left : .left ∈ l.journal → l.taken = l.pushes.map Prod.fst
  /-- Once the backend is disconnected, the feeder leaves within five turns. -/
  leaves : l.owner.hasDisconnected = true → ∀ moves, 5 ≤ l.turns moves → (l.run moves).place = .left

omit [ByteSource σ] in
/-- What comes after a line may come after it. -/
theorem Ordered.follows (h : l.Ordered) {line : LoopEntry} {before after : List LoopEntry}
    (hsplit : l.journal = before ++ line :: after) : ∀ later ∈ after, line.MayPrecede later := by
  have hpairwise := h.pairwise
  rw [hsplit] at hpairwise
  exact (List.pairwise_cons.mp (List.pairwise_append.mp hpairwise).2.1).1

omit [ByteSource σ] in
/-- What may not come after a line comes before it. -/
theorem Ordered.precedes (h : l.Ordered) {line earlier : LoopEntry} {before after : List LoopEntry}
    (hsplit : l.journal = before ++ line :: after) (hmem : earlier ∈ l.journal)
    (hne : earlier ≠ line) (hnot : ¬line.MayPrecede earlier) : earlier ∈ before := by
  rw [hsplit, List.mem_append, List.mem_cons] at hmem
  rcases hmem with hmem | rfl | hmem
  · exact hmem
  · exact absurd rfl hne
  · exact absurd (h.follows hsplit earlier hmem) hnot

omit [ByteSource σ] in
/-- The line of the wait stands after the disconnecting and after the feeder has left. -/
theorem Ordered.of_joined (h : l.Ordered) {before after : List LoopEntry}
    (hsplit : l.journal = before ++ .joined :: after) :
    .disconnected ∈ before ∧ .left ∈ before ∧ ∀ entry ∈ after, entry = .closed := by
  have hjoined : l.owner.hasJoined = true := h.joined.mp (by simp [hsplit])
  have hdisconnected : l.owner.hasDisconnected = true := by
    cases howner : l.owner <;> simp_all
  exact ⟨h.precedes hsplit (h.disconnected.mpr hdisconnected) nofun nofun,
    h.precedes hsplit (h.left.mpr (h.waited hjoined)) nofun nofun, h.follows hsplit⟩

omit [ByteSource σ] in
/-- The byte source is given back after the wait, and nothing comes after that. -/
theorem Ordered.of_closed (h : l.Ordered) {before after : List LoopEntry}
    (hsplit : l.journal = before ++ .closed :: after) :
    .joined ∈ before ∧ .left ∈ before ∧ after = [] := by
  have hclosed : l.owner = .closed := h.closed.mp (by simp [hsplit])
  have hjoined : l.owner.hasJoined = true := by rw [hclosed]; rfl
  exact ⟨h.precedes hsplit (h.joined.mpr hjoined) nofun nofun,
    h.precedes hsplit (h.left.mpr (h.waited hjoined)) nofun nofun,
    List.eq_nil_iff_forall_not_mem.mpr (h.follows hsplit)⟩

theorem closesLast_of (hordered : l.Ordered) (h : l.Answers begun) : l.ClosesLast begun where
  closed _ _ := hordered.of_closed
  joined _ _ := hordered.of_joined
  waited := hordered.joined.symm
  shut := hordered.closed.symm
  notConnected hmem := (hordered.notConnected hmem).imp_right hordered.joined.mpr
  touched move := (moves_move l move).source
  taken := h.taken
  pushed := h.pushed
  left hmem := by rw [h.taken, hordered.left.mp hmem]; exact List.append_nil _
  leaves hdisconnected moves hturns := by
    have hrun := remaining_run hdisconnected moves
    have hfive := l.place.remaining_le
    exact LoopPlace.remaining_eq_zero.mp (by omega)

/-- However the feeder, the backend and the owner take turns, the byte source is given back last:
after the feeder has left its loop with every request that it took answered by one push. -/
theorem source_closed_last (feeder : Feeder σ) (begins : FeederStart) (moves : List LoopMove) :
    ((start feeder begins).run moves).ClosesLast feeder :=
  have hordered := ordered_start feeder begins
  have hanswers := answers_run (answers_start feeder begins) hordered moves
  closesLast_of (ordered_run hordered moves) hanswers

end FeederLoop

namespace Sketch

/-- A feeder of four bytes. -/
def fourBytes : Feeder OpenedSource := .ofSource (.ofMemory #[10, 20, 30, 40] none) 4

/-- A shutdown comes while the feeder has a request in hand, and tries not to wait for it. -/
def overtaking : List LoopMove :=
  [.connect true, .look, .reply (some ⟨1, 2⟩), .shutDown, .release, .release, .release, .serve,
    .release, .push, .release, .look, .release, .release, .serve]

theorem source_closed_last_overtaking :
    ((FeederLoop.start fourBytes .serves).run overtaking).ClosesLast fourBytes ∧
      ((FeederLoop.start fourBytes .serves).run overtaking).owner = .closed ∧
      ((FeederLoop.start fourBytes .serves).run overtaking).journal =
        [.taken ⟨1, 2⟩, .disconnected, .touched ⟨1, 2⟩, .pushed ⟨1, 2⟩ (.data [20, 30]), .left,
          .joined, .closed] :=
  ⟨FeederLoop.source_closed_last fourBytes .serves overtaking, by decide, by decide⟩

end Sketch
end PullStreams
