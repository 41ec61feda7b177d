/-
However a source splits its data.

A buffer is filled with the bytes that come next, as many as it has room for and are there, in
however many reads they come and however often a read is interrupted.  Only another failure
prevents that, if it comes before the buffer is full and before a read has found the end of
the data.  The first one that does is a matter of the script and two numbers, the room and
what is left of the data (`ReadTurn.FirstFault`), and it is what filling fails with.

* `ReadTurn.firstFault_fails`, `ReadTurn.firstFault_atMost` — what one turn leaves to the rest;
* `ScriptedSource.delivers_moves` — a delivery uses up turns and moves the source behind its bytes;
* `ScriptedSource.firstFault_iff` — a delivery ends in the first such failure, if there is one;
* `ScriptedSource.fill_regardless` — a buffer that is filled.
-/
import PullStreams.Proofs.Reading.Holding

namespace PullStreams

/-! ### The first failure of a script -/

namespace ReadTurn

/-- How many bytes a row of reads gives, where there are so many. -/
def offer : List ReadTurn → Nat
  | [] => 0
  | atMost most :: turns => most + offer turns
  | fails _ :: turns => offer turns

/-- A reader with so much room, in data of which so much is left, reads on after these turns. -/
structure ReadsOn (room left : Nat) (turns : List ReadTurn) : Prop where
  /-- No read failed for good. -/
  harmless : ∀ e, .fails e ∈ turns → e.isInterrupted = true
  /-- What was given does not fill the room. -/
  hasRoom : min (offer turns) left < room
  /-- Each read that gave something had something left to give, so that none has found the end. -/
  notEnded : ∀ before most, before ++ [.atMost most] <+: turns → offer before < left

/-- The failure, interrupted reads apart, that such a reader comes upon first. -/
def FirstFault (room left : Nat) (script : List ReadTurn) (e : IoError) : Prop :=
  e.isInterrupted = false ∧ ∃ before, before ++ [.fails e] <+: script ∧ ReadsOn room left before

variable {room left most : Nat} {turns script : List ReadTurn} {e f : IoError}

/-- The first failure is one of the script. -/
theorem FirstFault.mem (h : FirstFault room left script e) : .fails e ∈ script := by
  obtain ⟨_, before, hbefore, _⟩ := h
  exact hbefore.subset (List.mem_append_right _ List.mem_cons_self)

theorem concat_prefix_cons {before : List ReadTurn} {last turn : ReadTurn} :
    before ++ [last] <+: turn :: turns ↔
      before = [] ∧ last = turn ∨ ∃ more, before = turn :: more ∧ more ++ [last] <+: turns := by
  cases before with
  | nil => simp
  | cons first more => simp [List.cons_prefix_cons, and_comm]

theorem readsOn_nil : ReadsOn room left [] ↔ 0 < room := by
  constructor
  · intro h
    simpa [offer] using h.hasRoom
  · intro h
    exact ⟨nofun, by simpa [offer] using h, by simp⟩

theorem readsOn_fails :
    ReadsOn room left (.fails f :: turns) ↔ f.isInterrupted = true ∧ ReadsOn room left turns := by
  constructor
  · rintro ⟨hharmless, hroom, hended⟩
    refine ⟨hharmless f List.mem_cons_self, fun e he => ?_, hroom, fun before most hbefore => ?_⟩
    · exact hharmless e (List.mem_cons_of_mem _ he)
    · exact hended (.fails f :: before) most (List.cons_prefix_cons.mpr ⟨rfl, hbefore⟩)
  · rintro ⟨hagain, hharmless, hroom, hended⟩
    refine ⟨fun e he => ?_, hroom, fun before most hbefore => ?_⟩
    · rcases List.mem_cons.mp he with heq | he
      · exact (fails.inj heq) ▸ hagain
      · exact hharmless e he
    · rcases concat_prefix_cons.mp hbefore with ⟨_, heq⟩ | ⟨more, rfl, hmore⟩
      · cases heq
      · exact hended more most hmore

/-- After a read that gave something there is less room, and less is left. -/
theorem readsOn_atMost :
    ReadsOn room left (.atMost most :: turns) ↔
      0 < left ∧ ReadsOn (room - min (min room most) left) (left - min (min room most) left)
        turns := by
  constructor
  · rintro ⟨hharmless, hroom, hended⟩
    rw [offer] at hroom
    -- The read did not fill the room, so it gave all that it could or all that was left.
    have hleft : 0 < left := hended [] most (by simp)
    refine ⟨hleft, fun e he => hharmless e (List.mem_cons_of_mem _ he), by omega,
      fun before limit hbefore => ?_⟩
    have hmore := hended (.atMost most :: before) limit (List.cons_prefix_cons.mpr ⟨rfl, hbefore⟩)
    rw [offer] at hmore
    omega
  · rintro ⟨hleft, hharmless, hroom, hended⟩
    refine ⟨fun e he => ?_, by rw [offer]; omega, fun before limit hbefore => ?_⟩
    · rcases List.mem_cons.mp he with heq | he
      · cases heq
      · exact hharmless e he
    · rcases concat_prefix_cons.mp hbefore with ⟨rfl, _⟩ | ⟨more, rfl, hmore⟩
      · exact hleft
      · have hless := hended more limit hmore
        rw [offer]
        omega

theorem not_firstFault_nil : ¬FirstFault room left [] e := fun h => List.not_mem_nil h.mem

theorem not_firstFault_full : ¬FirstFault 0 left script e :=
  fun ⟨_, _, _, h⟩ => Nat.not_lt_zero _ h.hasRoom

theorem firstFault_fails (hroom : 0 < room) :
    FirstFault room left (.fails f :: script) e ↔
      if f.isInterrupted then FirstFault room left script e else e = f := by
  constructor
  · rintro ⟨hfatal, before, hbefore, hon⟩
    rcases concat_prefix_cons.mp hbefore with ⟨rfl, heq⟩ | ⟨more, rfl, hmore⟩
    · obtain rfl := fails.inj heq
      rw [if_neg (by rw [hfatal]; exact Bool.false_ne_true)]
    · obtain ⟨hagain, hon⟩ := readsOn_fails.mp hon
      rw [if_pos hagain]
      exact ⟨hfatal, more, hmore, hon⟩
  · intro h
    split at h
    · next hagain =>
      obtain ⟨hfatal, before, hbefore, hon⟩ := h
      exact ⟨hfatal, .fails f :: before, List.cons_prefix_cons.mpr ⟨rfl, hbefore⟩,
        readsOn_fails.mpr ⟨hagain, hon⟩⟩
    · next hfatal =>
      obtain rfl := h
      exact ⟨Bool.eq_false_iff.mpr hfatal, [], by simp, readsOn_nil.mpr hroom⟩

theorem firstFault_atMost :
    FirstFault room left (.atMost most :: script) e ↔
      0 < left ∧ FirstFault (room - min (min room most) left) (left - min (min room most) left)
        script e := by
  constructor
  · rintro ⟨hfatal, before, hbefore, hon⟩
    rcases concat_prefix_cons.mp hbefore with ⟨_, heq⟩ | ⟨more, rfl, hmore⟩
    · cases heq
    · obtain ⟨hleft, hon⟩ := readsOn_atMost.mp hon
      exact ⟨hleft, hfatal, more, hmore, hon⟩
  · rintro ⟨hleft, hfatal, before, hbefore, hon⟩
    exact ⟨hfatal, .atMost most :: before, List.cons_prefix_cons.mpr ⟨rfl, hbefore⟩,
      readsOn_atMost.mpr ⟨hleft, hon⟩⟩

end ReadTurn

/-! ### Filling from a script -/

namespace ScriptedSource

open ByteSource ReadTurn

variable {s t : ScriptedSource} {room : Nat} {bytes : Bytes} {ending : Ending}

/-- The source is open, and each read of it gives something before the end of the data unless the
script has it fail. -/
structure IsPlaying (s : ScriptedSource) : Prop where
  isOpen : s.isClosed = false
  some_read : ∀ most, .atMost most ∈ s.script → 0 < most
  some_chunk : s.chunk ≠ some 0
  fault_read : s.readFault = none

/-- How many bytes come after the source's position. -/
def left (s : ScriptedSource) : Nat := s.contents.size - s.position

/-- The source so many bytes further, with so much of its script to come. -/
def after (s : ScriptedSource) (count : Nat) (script : List ReadTurn) : ScriptedSource :=
  { s with position := s.position + count, script }

theorem left_after (s : ScriptedSource) (count : Nat) (script : List ReadTurn) :
    (s.after count script).left = s.left - count := Nat.sub_add_eq ..

theorem IsPlaying.standsAt (hs : s.IsPlaying) :
    StandsAt s.contents.toList (fun _ => True) s s.position where
  contents := rfl
  position := rfl
  isOpen := hs.isOpen
  some_read := hs.some_read
  some_chunk := hs.some_chunk
  fault_seek _ _ := trivial
  fault_read e he := by
    rw [hs.fault_read] at he
    cases he
  fault_script _ _ _ := trivial

theorem IsPlaying.after (hs : s.IsPlaying) (count : Nat) {script : List ReadTurn}
    (hscript : script <:+ s.script) : (s.after count script).IsPlaying where
  isOpen := hs.isOpen
  some_read most hmost := hs.some_read most (hscript.subset hmost)
  some_chunk := hs.some_chunk
  fault_read := hs.fault_read

/-- What is given is as much as is asked for and left. -/
theorem give_after (s : ScriptedSource) (script : List ReadTurn) (most : Nat) :
    ∃ given : Bytes, given.length = min most s.left ∧
      { s with script }.give most = (s.after given.length script, .ok given) := by
  refine ⟨Bytes.slice s.contents.toList s.position most, ?_, give_eq ..⟩
  rw [Bytes.length_slice, Array.length_toList]
  rfl

/-- A read fails if the script has it fail, and else gives something if anything is left. -/
theorem IsPlaying.read_cases (hs : s.IsPlaying) (count : Nat) :
    (∃ e script, s.script = .fails e :: script ∧
      s.read (count + 1) = (s.after 0 script, .error e)) ∨
    ∃ most script given, (s.script = .atMost most :: script ∨ s.script = [] ∧ script = []) ∧
      0 < most ∧ given.length = min (min (count + 1) most) s.left ∧
      s.read (count + 1) = (s.after given.length script, .ok given) := by
  have hfault : s.faultOr s.readFault = none := (hs.standsAt.faultOr _).trans hs.fault_read
  rw [ScriptedSource.read, hfault]
  cases hscript : s.script with
  | nil =>
    -- Past the script a read gives what the source gives at a time.
    obtain ⟨most, hpos, hmost⟩ : ∃ most, 0 < most ∧
        s.chunk.elim (count + 1) (min (count + 1)) = min (count + 1) most := by
      cases hchunk : s.chunk with
      | none => exact ⟨count + 1, Nat.succ_pos _, (Nat.min_self _).symm⟩
      | some chunk =>
        have hsome := hs.some_chunk
        rw [hchunk, ne_eq, Option.some.injEq] at hsome
        exact ⟨chunk, Nat.pos_of_ne_zero hsome, rfl⟩
    obtain ⟨given, hlength, hgive⟩ := s.give_after [] (min (count + 1) most)
    have hsame : { s with script := [] } = s := by rw [← hscript]
    rw [hsame] at hgive
    exact .inr ⟨most, [], given, .inr ⟨rfl, rfl⟩, hpos, hlength,
      (congrArg s.give hmost).trans hgive⟩
  | cons turn script =>
    cases turn with
    | fails e => exact .inl ⟨e, script, rfl, rfl⟩
    | atMost most =>
      have hpos : 0 < most := hs.some_read most (hscript ▸ List.mem_cons_self)
      obtain ⟨given, hlength, hgive⟩ := s.give_after script (min (count + 1) most)
      exact .inr ⟨most, script, given, .inl rfl, hpos, hlength, hgive⟩

/-- A read that fails does so by the script, and leaves the source where it was. -/
theorem IsPlaying.read_failed (hs : s.IsPlaying) {count : Nat} {e : IoError}
    (hread : ByteSource.read s (count + 1) = (t, .error e)) :
    s.script = .fails e :: t.script ∧ t = s.after 0 t.script := by
  have hread' : s.read (count + 1) = (t, .error e) := hread
  rcases hs.read_cases count with ⟨f, script, hscript, h⟩ | ⟨_, _, _, _, _, _, h⟩ <;>
    cases h.symm.trans hread'
  exact ⟨hscript, rfl⟩

theorem IsPlaying.read_given (hs : s.IsPlaying) {count : Nat}
    (hread : ByteSource.read s (count + 1) = (t, .ok bytes)) :
    t = s.after bytes.length t.script ∧ ∃ most, 0 < most ∧
      bytes.length = min (min (count + 1) most) s.left ∧
      (s.script = .atMost most :: t.script ∨ s.script = [] ∧ t.script = []) := by
  have hread' : s.read (count + 1) = (t, .ok bytes) := hread
  rcases hs.read_cases count with ⟨_, _, _, h⟩ | ⟨most, _, _, hscript, hpos, hlength, h⟩ <;>
    cases h.symm.trans hread'
  exact ⟨rfl, most, hpos, hlength, hscript⟩

theorem IsPlaying.suffix_of_read (hs : s.IsPlaying) {count : Nat} {result : Except IoError Bytes}
    (hread : ByteSource.read s (count + 1) = (t, result)) : t.script <:+ s.script := by
  cases result with
  | error e =>
    rw [(hs.read_failed hread).1]
    exact List.suffix_cons ..
  | ok bytes =>
    obtain ⟨_, most, _, _, hscript | ⟨_, hscript⟩⟩ := hs.read_given hread
    · rw [hscript]
      exact List.suffix_cons ..
    · rw [hscript]
      exact List.nil_suffix

theorem IsPlaying.of_read (hs : s.IsPlaying) {count : Nat} {result : Except IoError Bytes}
    (hread : ByteSource.read s (count + 1) = (t, result)) : t.IsPlaying := by
  have hsuffix := hs.suffix_of_read hread
  cases result with
  | error e => exact (hs.read_failed hread).2 ▸ hs.after 0 hsuffix
  | ok bytes => exact (hs.read_given hread).1 ▸ hs.after bytes.length hsuffix

/-- A delivery uses up turns of the script, and moves the source behind what was delivered. -/
theorem delivers_moves (hs : s.IsPlaying) (h : Delivers s room bytes ending t) :
    t.script <:+ s.script ∧ t = s.after bytes.length t.script := by
  induction h with
  | full => exact ⟨List.suffix_refl _, rfl⟩
  | ended hread => exact ⟨hs.suffix_of_read hread, (hs.read_given hread).1⟩
  | given hread _ _ ih =>
    obtain ⟨hsuffix, hmoved⟩ := ih (hs.of_read hread)
    refine ⟨hsuffix.trans (hs.suffix_of_read hread), ?_⟩
    rw [hmoved, (hs.read_given hread).1, List.length_append]
    simp only [after, Nat.add_assoc]
  | again hread _ _ ih =>
    obtain ⟨hsuffix, hmoved⟩ := ih (hs.of_read hread)
    refine ⟨hsuffix.trans (hs.suffix_of_read hread), ?_⟩
    rw [hmoved, (hs.read_failed hread).2]
    rfl
  | failed hread _ => exact ⟨hs.suffix_of_read hread, (hs.read_failed hread).2⟩

/-- A delivery ends in the first failure of the script, if there is one that counts. -/
theorem firstFault_iff (hs : s.IsPlaying) (h : Delivers s room bytes ending t) (e : IoError) :
    FirstFault room s.left s.script e ↔ ending = .failed e := by
  -- Each read takes the first turn off the script, and leaves the rest to the rest of the delivery.
  induction h with
  | full => exact iff_of_false not_firstFault_full nofun
  | @ended s _ _ hread =>
    refine iff_of_false ?_ nofun
    obtain ⟨_, most, hpos, hlength, hscript | ⟨hscript, _⟩⟩ := hs.read_given hread
    · have hend : s.left = 0 := by
        rw [List.length_nil] at hlength
        omega
      rw [hscript, firstFault_atMost, hend]
      exact fun h => Nat.lt_irrefl 0 h.1
    · rw [hscript]
      exact not_firstFault_nil
  | given hread hsome _ ih =>
    rw [← ih (hs.of_read hread)]
    obtain ⟨hmoved, most, hpos, hlength, hscript | ⟨hscript, hnone⟩⟩ := hs.read_given hread
    · have hgiven := List.length_pos_iff.mpr hsome
      rw [hscript, firstFault_atMost, hmoved, left_after, hlength]
      exact and_iff_right (by omega)
    · rw [hscript, hnone]
      exact iff_of_false not_firstFault_nil not_firstFault_nil
  | @again _ _ _ room _ _ f hread hagain _ ih =>
    rw [← ih (hs.of_read hread)]
    obtain ⟨hscript, hmoved⟩ := hs.read_failed hread
    rw [hscript, firstFault_fails (Nat.succ_pos room), if_pos hagain, hmoved]
    rfl
  | @failed _ _ room f hread hfatal =>
    rw [(hs.read_failed hread).1, firstFault_fails (Nat.succ_pos room), hfatal,
      if_neg Bool.false_ne_true, Ending.failed.injEq]
    exact eq_comm

/-- A buffer was filled from a source: as many bytes as fit and were left are in its front, and the
source has moved behind these. -/
structure IsFilled (s : ScriptedSource) (buffer : Bytes)
    (filled : ScriptedSource × Bytes × Except IoError Nat) : Prop where
  count : filled.2.2 = .ok (min buffer.length s.left)
  front : filled.2.1.take (min buffer.length s.left) =
    Bytes.slice s.contents.toList s.position (min buffer.length s.left)
  /-- The rest of the buffer is as it was. -/
  rest : filled.2.1.drop (min buffer.length s.left) = buffer.drop (min buffer.length s.left)
  /-- Nothing else of the source has changed but its script, of which some turns are used up. -/
  source : filled.1 = s.after (min buffer.length s.left) filled.1.script
  script : filled.1.script <:+ s.script

theorem isFilled_of_delivers (hs : s.IsPlaying) {buffer : Bytes}
    (h : Delivers s buffer.length bytes ending t) (hended : ending.failure? = none) :
    IsFilled s buffer (t, buffer.overwrite bytes, .ok bytes.length) := by
  have hbytes : bytes = Bytes.slice s.contents.toList s.position buffer.length :=
    (h.holds (holds _ _) hs.standsAt).all hended
  have hlength : bytes.length = min buffer.length s.left := by
    rw [hbytes, Bytes.length_slice, Array.length_toList]
    rfl
  have hfits : bytes.length ≤ buffer.length := by omega
  obtain ⟨hscript, hmoved⟩ := delivers_moves hs h
  refine ⟨congrArg _ hlength, ?_, ?_, hlength ▸ hmoved, hscript⟩
  · rw [← hlength, Bytes.take_overwrite hfits, hbytes, Bytes.slice_length_slice]
  · rw [← hlength, Bytes.drop_overwrite hfits]

/-- Filling fails with the first failure that counts, and without one the buffer is filled. -/
theorem fill_cases (hs : s.IsPlaying) (buffer : Bytes) :
    (∃ bytes ending, Delivers s buffer.length bytes ending (fill s buffer).1) ∧
      (∀ e, (fill s buffer).2.2 = .error e ↔ FirstFault buffer.length s.left s.script e) ∧
      ((∀ e, ¬FirstFault buffer.length s.left s.script e) → IsFilled s buffer (fill s buffer)) := by
  have hpatient : s.IsPatient := fun e he => by
    rw [hs.fault_read] at he
    cases he
  obtain ⟨_, bytes, ending, hdelivers, hfront, hresult⟩ := delivers_fill settles hpatient buffer
  have hfault := firstFault_iff hs hdelivers
  have hfill : fill s buffer = ((fill s buffer).1, buffer.overwrite bytes, (fill s buffer).2.2) :=
    Prod.ext rfl (Prod.ext hfront rfl)
  refine ⟨⟨bytes, ending, hdelivers⟩, fun e => ?_, fun hnone => ?_⟩
  · rw [hfault, hresult]
    cases ending with
    | full | ended => exact iff_of_false nofun nofun
    | failed f => simp [Ending.failure?]
  · have hended : ending.failure? = none := by
      cases ending with
      | full | ended => rfl
      | failed f => exact absurd ((hfault f).mpr rfl) (hnone f)
    rw [hended] at hresult
    rw [hfill, hresult]
    exact isFilled_of_delivers hs hdelivers hended

/-- Whatever their scripts, sources with the same to come fill a buffer alike. -/
theorem IsFilled.alike {other : ScriptedSource} {buffer : Bytes}
    {filled filled' : ScriptedSource × Bytes × Except IoError Nat} (h : IsFilled s buffer filled)
    (h' : IsFilled other buffer filled') (hcontents : other.contents = s.contents)
    (hposition : other.position = s.position) :
    filled'.2 = filled.2 ∧ filled'.1.position = filled.1.position := by
  have hleft : other.left = s.left := by rw [left, left, hcontents, hposition]
  refine ⟨Prod.ext ?_ ?_, ?_⟩
  · rw [← List.take_append_drop (min buffer.length s.left) filled.2.1, h.front, h.rest,
      ← List.take_append_drop (min buffer.length s.left) filled'.2.1, ← hleft, h'.front, h'.rest,
      hcontents, hposition]
  · rw [h.count, h'.count, hleft]
  · rw [h.source, h'.source, after, after, hleft, hposition]

/-- However the source splits its data and however often it is interrupted, reading comes to an end.
Filling fails with the first other failure that comes before the buffer is full and before a read
has found the end of the data.  If there is none, then as much of the data as fits is in the front
of the buffer, its rest is as it was, and the source has moved by as much; which script it was makes
no difference to that. -/
theorem fill_regardless (hs : s.IsPlaying) (buffer : Bytes) :
    (∃ bytes ending, Delivers s buffer.length bytes ending (fill s buffer).1) ∧
      (∀ e, (fill s buffer).2.2 = .error e ↔ FirstFault buffer.length s.left s.script e) ∧
      ((∀ e, ¬FirstFault buffer.length s.left s.script e) →
        IsFilled s buffer (fill s buffer) ∧
          ∀ other : ScriptedSource, other.IsPlaying → other.contents = s.contents →
            other.position = s.position →
              (∀ e, ¬FirstFault buffer.length other.left other.script e) →
                (fill other buffer).2 = (fill s buffer).2 ∧
                  (fill other buffer).1.position = (fill s buffer).1.position) := by
  obtain ⟨hends, hfails, hfills⟩ := fill_cases hs buffer
  refine ⟨hends, hfails, fun hnone => ⟨hfills hnone, ?_⟩⟩
  intro other hother hcontents hposition hnone'
  obtain ⟨_, _, hfills'⟩ := fill_cases hother buffer
  exact (hfills hnone).alike (hfills' hnone') hcontents hposition

end ScriptedSource

namespace Sketch

open ByteSource ReadTurn

/-- Six bytes, read from the second on: one and two of them, one more, and then a failure. -/
def halting : ScriptedSource :=
  { ScriptedSource.ofContents #[10, 20, 30, 40, 50, 60] with
    position := 1
    script := [.fails (.custom .interrupted "again"), .atMost 1, .atMost 2,
      .fails (.custom .interrupted "again"), .atMost 1, .fails (.custom .timedOut "late")] }

theorem halting_isPlaying : halting.IsPlaying where
  isOpen := rfl
  some_read := by simp [halting]
  some_chunk := by simp [halting, ScriptedSource.ofContents]
  fault_read := rfl

/-- The same bytes in one read. -/
def flowing : ScriptedSource := { halting with script := [] }

theorem flowing_isPlaying : flowing.IsPlaying :=
  { halting_isPlaying with some_read := by simp [flowing] }

/-- Four bytes come before the failure, the same that come in one read; seven do not. -/
theorem fill_regardless_halting :
    (fill halting [1, 2, 3, 4]).2 = ([20, 30, 40, 50], .ok 4) ∧
      (fill flowing [1, 2, 3, 4]).2 = (fill halting [1, 2, 3, 4]).2 ∧
      (fill flowing [1, 2, 3, 4, 5, 6, 7]).2 = ([20, 30, 40, 50, 60, 6, 7], .ok 5) ∧
      (fill halting [1, 2, 3, 4, 5, 6, 7]).2.2 = .error (.custom .timedOut "late") := by
  have hnone : ∀ e, ¬FirstFault 4 5 halting.script e := by
    simp [halting, firstFault_fails, firstFault_atMost, not_firstFault_full, IoError.isInterrupted,
      IoError.kind]
  have hlate : FirstFault 7 5 halting.script (.custom .timedOut "late") := by
    simp [halting, firstFault_fails, firstFault_atMost, IoError.isInterrupted, IoError.kind]
  have hplain : ∀ room e, ¬FirstFault room 5 flowing.script e := fun _ _ => not_firstFault_nil
  obtain ⟨_, _, hfour⟩ := ScriptedSource.fill_regardless halting_isPlaying [1, 2, 3, 4]
  obtain ⟨_, hseven, _⟩ := ScriptedSource.fill_regardless halting_isPlaying [1, 2, 3, 4, 5, 6, 7]
  obtain ⟨_, _, hall⟩ := ScriptedSource.fill_regardless flowing_isPlaying [1, 2, 3, 4, 5, 6, 7]
  obtain ⟨hfilled, halike⟩ := hfour hnone
  have hfilled' := (hall (hplain 7)).1
  refine ⟨Prod.ext ?_ hfilled.count, (halike flowing flowing_isPlaying rfl rfl (hplain 4)).1,
    Prod.ext ?_ hfilled'.count, (hseven _).mpr hlate⟩
  · exact (List.take_append_drop 4 _).symm.trans (congrArg₂ _ hfilled.front hfilled.rest)
  · exact (List.take_append_drop 5 _).symm.trans (congrArg₂ _ hfilled'.front hfilled'.rest)

end Sketch
end PullStreams
