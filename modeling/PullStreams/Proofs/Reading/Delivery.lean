/-
What a byte source delivers.

A reader with room for some bytes reads until its room is used up, the source has nothing
more or a read fails, and makes a read again that was interrupted.  What it gets on the way
is what the source delivers (`ByteSource.Delivers`), a matter of the source's replies
alone: no buffer occurs in it, and no bound on the number of reads.

Reading until a buffer is full comes to exactly that, for all sources that give no more than
they are asked for and interrupt no read for ever (`ByteSource.Settles`).

* `Delivers.unique` — what is delivered is determined by the source and the room;
* `Delivers.full_iff` — the room is used up unless the data ended or a read failed;
* `delivers_fill` — a buffer is filled with what is delivered;
* `ScriptedSource.settles` — a script is such a source.
-/
import Mathlib.Tactic.Common
import PullStreams.ByteSource.Scripted

namespace PullStreams

namespace ByteSource

/-- Why a reader stops reading. -/
inductive Ending where
  /-- There is no room left. -/
  | full
  /-- A read gave nothing. -/
  | ended
  | failed (e : IoError)
  deriving DecidableEq, Repr

def Ending.failure? : Ending → Option IoError
  | full | ended => none
  | failed e => some e

variable {σ : Type} [ByteSource σ] {s t u : σ} {room : Nat} {bytes : Bytes} {ending : Ending}

/-- To a reader with so much room, a source delivers these bytes, in one read after the other, and
becomes another source on the way. -/
inductive Delivers : σ → (room : Nat) → Bytes → Ending → σ → Prop
  | full {s : σ} : Delivers s 0 [] .full s
  | ended {s t : σ} {room : Nat} (hread : read s (room + 1) = (t, .ok [])) :
      Delivers s (room + 1) [] .ended t
  | given {s t u : σ} {room : Nat} {bytes rest : Bytes} {ending : Ending}
      (hread : read s (room + 1) = (t, .ok bytes)) (hsome : bytes ≠ [])
      (hrest : Delivers t (room + 1 - bytes.length) rest ending u) :
      Delivers s (room + 1) (bytes ++ rest) ending u
  | again {s t u : σ} {room : Nat} {bytes : Bytes} {ending : Ending} {e : IoError}
      (hread : read s (room + 1) = (t, .error e)) (hagain : e.isInterrupted = true)
      (hrest : Delivers t (room + 1) bytes ending u) : Delivers s (room + 1) bytes ending u
  | failed {s t : σ} {room : Nat} {e : IoError} (hread : read s (room + 1) = (t, .error e))
      (hfatal : e.isInterrupted = false) : Delivers s (room + 1) [] (.failed e) t

/-- What is delivered is determined by the source and the room. -/
theorem Delivers.unique {bytes' : Bytes} {ending' : Ending} {u' : σ}
    (h : Delivers s room bytes ending u) (h' : Delivers s room bytes' ending' u') :
    bytes = bytes' ∧ ending = ending' ∧ u = u' := by
  induction h generalizing bytes' ending' u' with
  | full =>
    cases h'
    exact ⟨rfl, rfl, rfl⟩
  | ended hread =>
    cases h' with
    | ended hread' => exact ⟨rfl, rfl, congrArg Prod.fst (hread.symm.trans hread')⟩
    | given hread' hsome' _ =>
      cases hread.symm.trans hread'
      exact absurd rfl hsome'
    | again hread' _ _ | failed hread' _ => cases hread.symm.trans hread'
  | given hread hsome _ ih =>
    cases h' with
    | ended hread' =>
      cases hread.symm.trans hread'
      exact absurd rfl hsome
    | given hread' _ hrest' =>
      cases hread.symm.trans hread'
      obtain ⟨rfl, rfl, rfl⟩ := ih hrest'
      exact ⟨rfl, rfl, rfl⟩
    | again hread' _ _ | failed hread' _ => cases hread.symm.trans hread'
  | again hread hagain _ ih =>
    cases h' with
    | ended hread' | given hread' _ _ => cases hread.symm.trans hread'
    | again hread' _ hrest' =>
      cases hread.symm.trans hread'
      exact ih hrest'
    | failed hread' hfatal' =>
      cases hread.symm.trans hread'
      cases hagain.symm.trans hfatal'
  | failed hread hfatal =>
    cases h' with
    | ended hread' | given hread' _ _ => cases hread.symm.trans hread'
    | again hread' hagain' _ =>
      cases hread.symm.trans hread'
      cases hfatal.symm.trans hagain'
    | failed hread' _ =>
      cases hread.symm.trans hread'
      exact ⟨rfl, rfl, rfl⟩

/-! ### Sources that come to an end of every read -/

/-- Sources that keep to the interface: a read gives no more than it was asked for, and it is
interrupted no more often than was said.  `allowed` says which sources it is about. -/
structure Settles (allowed : σ → Prop) : Prop where
  sought {s t : σ} {offset : Nat} {result : Except IoError Unit} : allowed s →
    seek s offset = (t, result) → allowed t
  read {s t : σ} {count : Nat} {result : Except IoError Bytes} : allowed s →
    ByteSource.read s count = (t, result) → allowed t
  fits {s t : σ} {count : Nat} {bytes : Bytes} : allowed s →
    ByteSource.read s count = (t, .ok bytes) → bytes.length ≤ count
  patient {s t : σ} {count : Nat} {e : IoError} : allowed s →
    ByteSource.read s count = (t, .error e) → e.isInterrupted = true →
      interruptions t < interruptions s

variable {allowed : σ → Prop}

/-- The reader's room is used up, unless the data ended or a read failed. -/
theorem Delivers.full_iff (h : Settles allowed) (hs : allowed s)
    (hdelivers : Delivers s room bytes ending u) :
    bytes.length ≤ room ∧ (ending = .full ↔ bytes.length = room) := by
  induction hdelivers with
  | full => exact ⟨Nat.le_refl _, iff_of_true rfl rfl⟩
  | ended _ | failed _ _ => exact ⟨Nat.zero_le _, iff_of_false nofun nofun⟩
  | @given s t _ room bytes rest ending hread hsome _ ih =>
    have hfits := h.fits hs hread
    have ht : allowed t := h.read hs hread
    obtain ⟨hle, hfull⟩ := ih ht
    rw [List.length_append, hfull]
    omega
  | @again s t _ room _ _ _ hread _ _ ih =>
    exact ih (h.read hs hread)

/-- A read that is made again while it is interrupted, is in the end one that is not. -/
theorem readPatiently_settles (h : Settles allowed) {tries : Nat} (hs : allowed s)
    (htries : interruptions s < tries) (room : Nat) :
    ∃ t, allowed t ∧ read t (room + 1) = readPatiently tries s (room + 1) ∧
      (∀ e, (readPatiently tries s (room + 1)).2 = .error e → e.isInterrupted = false) ∧
      ∀ bytes ending u, Delivers t (room + 1) bytes ending u →
        Delivers s (room + 1) bytes ending u := by
  induction tries generalizing s with
  | zero => exact absurd htries (Nat.not_lt_zero _)
  | succ tries ih =>
    rw [readPatiently]
    split
    · next t e hread =>
      split
      · next hagain =>
        have ht : allowed t := h.read hs hread
        have hfewer := h.patient hs hread hagain
        obtain ⟨last, hlast, hsame, hfatal, hdelivers⟩ := ih ht (by omega)
        exact ⟨last, hlast, hsame, hfatal, fun bytes ending u hrest =>
          .again hread hagain (hdelivers bytes ending u hrest)⟩
      · next hfatal =>
        refine ⟨s, hs, hread, fun e' he => ?_, fun _ _ _ hrest => hrest⟩
        exact Except.error.inj he ▸ Bool.eq_false_iff.mpr hfatal
    · next t bytes hread => exact ⟨s, hs, hread, nofun, fun _ _ _ hrest => hrest⟩

/-- A row of reads comes to what the source delivers. -/
theorem delivers_gather (h : Settles allowed) {reads : Nat} (hs : allowed s)
    (hreads : room ≤ reads) :
    allowed (gather reads s room).1 ∧ ∃ ending,
      Delivers s room (gather reads s room).2.1 ending (gather reads s room).1 ∧
      (gather reads s room).2.2 = ending.failure? := by
  induction reads generalizing s room with
  | zero =>
    obtain rfl := Nat.le_zero.mp hreads
    exact ⟨hs, .full, .full, rfl⟩
  | succ reads ih =>
    cases room with
    | zero => exact ⟨hs, .full, .full, rfl⟩
    | succ room =>
      obtain ⟨last, hlast, hsame, hfatal, hagain⟩ :=
        readPatiently_settles h hs (Nat.lt_succ_self (interruptions s)) room
      rw [gather]
      split
      · next t e hread =>
        rw [hread] at hsame hfatal
        have ht : allowed t := h.read hlast hsame
        exact ⟨ht, .failed e, hagain _ _ _ (.failed hsame (hfatal e rfl)), rfl⟩
      · next t bytes hread =>
        rw [hread] at hsame
        have ht : allowed t := h.read hlast hsame
        have hfits := h.fits hlast hsame
        rw [List.take_of_length_le hfits]
        split
        · exact ⟨ht, .ended, hagain _ _ _ (.ended hsame), rfl⟩
        · next first more =>
          rw [List.length_cons] at hfits
          have hfewer : room - more.length ≤ reads := by omega
          obtain ⟨hstays, ending, hrest, hfailure⟩ := ih ht hfewer
          have hroom : room + 1 - (first :: more).length = room - more.length := by
            rw [List.length_cons, Nat.add_sub_add_right]
          refine ⟨hstays, ending, hagain _ _ _ (.given hsame (List.cons_ne_nil _ _) ?_), hfailure⟩
          rwa [hroom]

/-- A buffer is filled with what the source delivers; the rest of it stays as it was. -/
theorem delivers_fill (h : Settles allowed) (hs : allowed s) (buffer : Bytes) :
    allowed (fill s buffer).1 ∧ ∃ bytes ending,
      Delivers s buffer.length bytes ending (fill s buffer).1 ∧
      (fill s buffer).2.1 = buffer.overwrite bytes ∧
      (fill s buffer).2.2 =
        match ending.failure? with
        | some e => .error e
        | none => .ok bytes.length := by
  obtain ⟨hstays, ending, hdelivers, hfailure⟩ :=
    delivers_gather h hs (Nat.le_refl buffer.length)
  refine ⟨hstays, _, ending, hdelivers, rfl, ?_⟩
  rw [← hfailure]
  rfl

end ByteSource

/-! ### Scripts -/

namespace ScriptedSource

/-- A source whose reads are not all interrupted; its script may interrupt them as often as it
likes. -/
def IsPatient (s : ScriptedSource) : Prop :=
  ∀ e, s.readFault = some e → e.isInterrupted = false

/-- A read fails as all do, fails by the script, or gives as many bytes as the script or, past its
end, the source allows. -/
theorem read_cases (s : ScriptedSource) (count : Nat) :
    (∃ e, s.faultOr s.readFault = some e ∧ s.read count = (s, .error e)) ∨
    (∃ e rest, s.script = .fails e :: rest ∧
      s.read count = ({ s with script := rest }, .error e)) ∨
    ∃ rest most, s.read count = { s with script := rest }.give most ∧
      ((∃ limit, s.script = .atMost limit :: rest ∧ most = min count limit) ∨
        rest = s.script ∧ most = s.chunk.elim count (min count)) := by
  unfold read
  split
  · next e hfault => exact .inl ⟨e, hfault, rfl⟩
  · next e rest _ hscript => exact .inr (.inl ⟨e, rest, hscript, rfl⟩)
  · next limit rest _ hscript => exact .inr (.inr ⟨rest, _, rfl, .inl ⟨limit, hscript, rfl⟩⟩)
  · exact .inr (.inr ⟨s.script, _, rfl, .inr ⟨rfl, rfl⟩⟩)

theorem elim_chunk_le (s : ScriptedSource) (count : Nat) : s.chunk.elim count (min count) ≤ count := by
  cases s.chunk with
  | none => exact Nat.le_refl _
  | some chunk => exact Nat.min_le_left ..

theorem settles : ByteSource.Settles IsPatient where
  sought {s t offset result} hs hseek := by
    have hseek' : s.seek offset = (t, result) := hseek
    rw [seek] at hseek'
    split at hseek' <;> cases hseek' <;> exact hs
  read {s t count result} hs hread := by
    have hread' : s.read count = (t, result) := hread
    rcases s.read_cases count with ⟨e, _, h⟩ | ⟨e, rest, _, h⟩ | ⟨rest, most, h, _⟩ <;>
      cases h.symm.trans hread' <;> exact hs
  fits {s t count bytes} hs hread := by
    have hread' : s.read count = (t, .ok bytes) := hread
    rcases s.read_cases count with ⟨e, _, h⟩ | ⟨e, rest, _, h⟩ | ⟨rest, most, h, hmost⟩
    · cases h.symm.trans hread'
    · cases h.symm.trans hread'
    · have hle : most ≤ count := by
        rcases hmost with ⟨limit, _, rfl⟩ | ⟨_, rfl⟩
        · exact Nat.min_le_left ..
        · exact s.elim_chunk_le count
      obtain rfl := Except.ok.inj (congrArg Prod.snd (h.symm.trans hread'))
      rw [Array.length_toList, Array.size_extract]
      omega
  patient {s t count e} hs hread hagain := by
    have hread' : s.read count = (t, .error e) := hread
    rcases s.read_cases count with ⟨e', hfault, h⟩ | ⟨e', rest, hscript, h⟩ | ⟨rest, most, h, _⟩
    · obtain rfl := Except.error.inj (congrArg Prod.snd (h.symm.trans hread'))
      -- Neither a closed source nor a patient one interrupts all its reads.
      rw [faultOr] at hfault
      split at hfault
      · obtain rfl := Option.some.inj hfault
        cases hagain
      · cases (hs _ hfault).symm.trans hagain
    · obtain rfl := congrArg Prod.fst (h.symm.trans hread')
      show rest.length < s.script.length
      rw [hscript]
      exact Nat.lt_succ_self _
    · cases h.symm.trans hread'

end ScriptedSource
end PullStreams
