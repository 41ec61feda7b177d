/-
What the feeder pushes for a request.

For each request the feeder pushes one chunk, and which one is a matter of the byte source
alone (`Feeder.Serves`): an empty one if there is nothing left of the request once it is
cut, else what the source delivers from its offset on, or nothing at all if it fails.  The
buffer that all requests share occurs nowhere in that, nor does anything that was read for
another request; so what is pushed is the same whatever the buffer held before.

* `serves_answer` — one answer;
* `ServesAll.unique` — the source determines the chunks for a row of requests;
* `Serves.within`, `Serves.holds` — no chunk goes past the end, and each has what stands at the
  offset;
* `run_feeding` — a feeder that is asked for some requests answers these and leaves;
* `served_in_turn` — what a loop keeps to, after any row of moves.
-/
import PullStreams.Proofs.Feeder.Teardown
import PullStreams.Proofs.Reading.Holding

namespace PullStreams

/-! ### Requests in words -/

namespace ReadRequest

/-- A request cut to what a source holds, all in words of 64 bits. -/
def clampWord (offset size total : UInt64) : UInt64 :=
  if total ≤ offset then 0 else min size (total - offset)

/-- Nothing overflows. -/
theorem toNat_clampWord (offset size total : UInt64) :
    (clampWord offset size total).toNat =
      ReadRequest.clamp ⟨offset.toNat, size.toNat⟩ total.toNat := by
  by_cases hpast : total ≤ offset
  · rw [clampWord, if_pos hpast, clamp, if_pos (UInt64.le_iff_toNat_le.mp hpast)]
    rfl
  · have hinside : ¬total.toNat ≤ offset.toNat := UInt64.le_iff_toNat_le.not.mp hpast
    have hle : offset ≤ total := UInt64.le_iff_toNat_le.mpr (by omega)
    rw [clampWord, if_neg hpast, clamp, if_neg hinside, ← UInt64.toNat_sub_of_le _ _ hle]
    have hmin : min size (total - offset) =
        if size ≤ total - offset then size else total - offset := rfl
    rw [hmin]
    split
    · next hsize => rw [Nat.min_eq_left (UInt64.le_iff_toNat_le.mp hsize)]
    · next hsize =>
      have hless : ¬size.toNat ≤ (total - offset).toNat := UInt64.le_iff_toNat_le.not.mp hsize
      rw [Nat.min_eq_right (Nat.le_of_lt (Nat.lt_of_not_le hless))]

end ReadRequest

/-- What is pushed when the reading has ended so: what was read before a failure is not. -/
def ByteSource.Ending.chunk (bytes : Bytes) : ByteSource.Ending → Chunk
  | full | ended => .data bytes
  | failed _ => .failed

namespace Feeder

variable {σ : Type} [ByteSource σ] {s t u : σ} {total : Nat} {r : ReadRequest} {chunk : Chunk}
  {bytes : Bytes}

/-! ### One request -/

/-- A source of `total` bytes serves a request by a chunk, and becomes another source then.  If
nothing is left of the request it is not touched. -/
inductive Serves (total : Nat) (r : ReadRequest) : σ → Chunk → σ → Prop
  | nothing {s : σ} (hcut : r.clamp total = 0) : Serves total r s (.data []) s
  | notSought {s t : σ} {e : IoError} (hcut : r.clamp total ≠ 0)
      (hseek : ByteSource.seek s r.offset = (t, .error e)) : Serves total r s .failed t
  /-- It is read from the offset on until there are as many bytes as are left of the request, unless
  its data ends before or a read fails. -/
  | sought {s t u : σ} {bytes : Bytes} {ending : ByteSource.Ending} (hcut : r.clamp total ≠ 0)
      (hseek : ByteSource.seek s r.offset = (t, .ok ()))
      (hdelivers : ByteSource.Delivers t (r.clamp total) bytes ending u)
      (hfits : bytes.length ≤ r.clamp total)
      (hfull : ending = .full ↔ bytes.length = r.clamp total) :
      Serves total r s (ending.chunk bytes) u

/-- The chunk is determined by the source. -/
theorem Serves.unique {chunk' : Chunk} {t' : σ} (h : Serves total r s chunk t)
    (h' : Serves total r s chunk' t') : chunk = chunk' ∧ t = t' := by
  cases h with
  | nothing hcut =>
    cases h' with
    | nothing _ => exact ⟨rfl, rfl⟩
    | notSought hcut' _ => exact absurd hcut hcut'
    | sought hcut' _ _ _ _ => exact absurd hcut hcut'
  | notSought hcut hseek =>
    cases h' with
    | nothing hcut' => exact absurd hcut' hcut
    | notSought _ hseek' => exact ⟨rfl, congrArg Prod.fst (hseek.symm.trans hseek')⟩
    | sought _ hseek' _ _ _ => cases hseek.symm.trans hseek'
  | sought hcut hseek hdelivers _ _ =>
    cases h' with
    | nothing hcut' => exact absurd hcut' hcut
    | notSought _ hseek' => cases hseek.symm.trans hseek'
    | sought _ hseek' hdelivers' _ _ =>
      cases hseek.symm.trans hseek'
      obtain ⟨rfl, rfl, rfl⟩ := hdelivers.unique hdelivers'
      exact ⟨rfl, rfl⟩

/-- No chunk has more bytes than are left of the request, or any past the end. -/
theorem Serves.within (h : Serves total r s (.data bytes) t) :
    bytes.length ≤ r.clamp total ∧ (bytes ≠ [] → r.offset + bytes.length ≤ total) := by
  have hfits : bytes.length ≤ r.clamp total := by
    generalize hchunk : Chunk.data bytes = chunk at h
    cases h with
    | nothing _ =>
      cases hchunk
      exact Nat.zero_le _
    | notSought _ _ => cases hchunk
    | @sought t _ read ending _ _ _ hfits _ =>
      cases ending with
      | full | ended =>
        cases hchunk
        exact hfits
      | failed e => cases hchunk
  refine ⟨hfits, fun hsome => ?_⟩
  have hpos := List.length_pos_iff.mpr hsome
  have hend : r.offset + r.clamp total ≤ total := r.offset_add_clamp_le (by omega)
  omega

/-- A source that holds its contents serves what stands at the offset. -/
theorem Serves.holds {contents : Bytes} {stands : σ → Nat → Prop} {fault : IoError → Prop}
    (h : ByteSource.Holds contents stands fault) (hs : ∃ place, stands s place)
    (hserves : Serves total r s chunk t) :
    (∃ place, stands t place) ∧
      ∀ bytes, chunk = .data bytes → bytes = contents.slice r.offset (r.clamp total) := by
  obtain ⟨place, hplace⟩ := hs
  cases hserves with
  | nothing hcut =>
    refine ⟨⟨place, hplace⟩, fun bytes hbytes => ?_⟩
    obtain rfl := Chunk.data.inj hbytes
    rw [hcut]
    rfl
  | notSought _ hseek => exact ⟨(h.notSought hplace hseek).2, nofun⟩
  | @sought _ _ read ending _ hseek hdelivers _ _ =>
    have hgathers := hdelivers.holds h (h.sought hplace hseek)
    refine ⟨hgathers.stays, fun bytes hbytes => ?_⟩
    cases ending with
    | full | ended =>
      obtain rfl := Chunk.data.inj hbytes
      exact hgathers.all rfl
    | failed e => cases hbytes

variable {allowed : σ → Prop} {f : Feeder σ}

/-- What is read for a request stands in the front of the buffer, whatever stood there before. -/
theorem delivers_load (h : ByteSource.Settles allowed) (hs : allowed f.source) (offset size : Nat) :
    allowed (f.load offset size).1.source ∧ (f.load offset size).1.total = f.total ∧
      ((∃ e, ByteSource.seek f.source offset = ((f.load offset size).1.source, .error e) ∧
          (f.load offset size).2 = .error e) ∨
        ∃ t bytes ending, ByteSource.seek f.source offset = (t, .ok ()) ∧ allowed t ∧
          ByteSource.Delivers t size bytes ending (f.load offset size).1.source ∧
          match (f.load offset size).2 with
          | .ok got => ending.failure? = none ∧ (f.load offset size).1.buffer.take got = bytes
          | .error e => ending.failure? = some e) := by
  simp only [load]
  split
  · next t e hseek => exact ⟨h.sought hs hseek, rfl, .inl ⟨e, hseek, rfl⟩⟩
  · next t hseek =>
    have ht := h.sought hs hseek
    have hroom := length_take_grown f.buffer size
    obtain ⟨hstays, bytes, ending, hdelivers, hfront, hresult⟩ :=
      ByteSource.delivers_fill h ht ((grown f.buffer size).take size)
    rw [hroom] at hdelivers
    have hfits := (hdelivers.full_iff h ht).1
    refine ⟨hstays, rfl, .inr ⟨t, bytes, ending, hseek, ht, hdelivers, ?_⟩⟩
    dsimp only
    rw [hresult, hfront]
    cases hfailure : ending.failure? with
    | some e => rfl
    | none =>
      refine ⟨rfl, ?_⟩
      have hbytes : bytes.length ≤ ((grown f.buffer size).take size).length := by rwa [hroom]
      rw [List.take_append_of_le_length (by rwa [Bytes.length_overwrite]),
        Bytes.take_overwrite hbytes]

/-- An answer is what the source delivers to the request. -/
theorem serves_answer (h : ByteSource.Settles allowed) (hs : allowed f.source)
    (hmemory : r.clamp f.total < allocationLimit) :
    allowed (f.answer r).1.source ∧ (f.answer r).1.total = f.total ∧
      Serves f.total r f.source (f.answer r).2 (f.answer r).1.source := by
  simp only [answer]
  split
  · next hcut => exact ⟨hs, rfl, .nothing hcut⟩
  · next hcut =>
    rw [if_neg fun hlarge => Nat.not_le_of_lt hmemory hlarge.2]
    obtain ⟨hstays, htotal, hload⟩ := delivers_load h hs r.offset (r.clamp f.total)
    generalize f.load r.offset (r.clamp f.total) = loaded at hstays htotal hload
    obtain ⟨g, result⟩ := loaded
    rcases hload with ⟨e, hseek, rfl⟩ | ⟨t, bytes, ending, hseek, ht, hdelivers, hresult⟩
    · exact ⟨hstays, htotal, .notSought hcut hseek⟩
    · have ⟨hfits, hfull⟩ := hdelivers.full_iff h ht
      have hserves := Serves.sought hcut hseek hdelivers hfits hfull
      cases result with
      | error e =>
        cases ending with
        | full | ended => cases hresult
        | failed e' => exact ⟨hstays, htotal, hserves⟩
      | ok got =>
        obtain ⟨hended, rfl⟩ := hresult
        have hchunk : ending.chunk (g.buffer.take got) = .data (g.buffer.take got) := by
          cases ending with
          | full | ended => rfl
          | failed e => cases hended
        rw [hchunk] at hserves
        dsimp only
        split <;> exact ⟨hstays, htotal, hserves⟩

/-! ### Requests in a row -/

/-- A source of `total` bytes serves requests by chunks, one after the other. -/
inductive ServesAll (total : Nat) : σ → List (ReadRequest × Chunk) → σ → Prop
  | nil {s : σ} : ServesAll total s [] s
  | cons {s t u : σ} {r : ReadRequest} {chunk : Chunk} {rest : List (ReadRequest × Chunk)}
      (hfirst : Serves total r s chunk t) (hrest : ServesAll total t rest u) :
      ServesAll total s ((r, chunk) :: rest) u

variable {pushes pushes' : List (ReadRequest × Chunk)}

/-- The chunks are determined by the source and the requests. -/
theorem ServesAll.unique {t' : σ} (h : ServesAll total s pushes t)
    (h' : ServesAll total s pushes' t') (hsame : pushes'.map Prod.fst = pushes.map Prod.fst) :
    pushes' = pushes ∧ t' = t := by
  induction h generalizing pushes' with
  | nil =>
    obtain rfl := List.map_eq_nil_iff.mp hsame
    cases h'
    exact ⟨rfl, rfl⟩
  | cons hfirst _ ih =>
    cases h' with
    | nil => cases hsame
    | cons hfirst' hrest' =>
      obtain ⟨rfl, htail⟩ := List.cons.inj hsame
      obtain ⟨rfl, rfl⟩ := hfirst.unique hfirst'
      obtain ⟨rfl, rfl⟩ := ih hrest' htail
      exact ⟨rfl, rfl⟩

theorem ServesAll.mem (h : ServesAll total s pushes t) {push : ReadRequest × Chunk}
    (hmem : push ∈ pushes) : ∃ before after : σ, Serves total push.1 before push.2 after := by
  induction h with
  | nil => cases hmem
  | cons hfirst _ ih =>
    rcases List.mem_cons.mp hmem with rfl | hmem
    · exact ⟨_, _, hfirst⟩
    · exact ih hmem

theorem ServesAll.holds {contents : Bytes} {stands : σ → Nat → Prop} {fault : IoError → Prop}
    (h : ByteSource.Holds contents stands fault) (hs : ∃ place, stands s place)
    (hserves : ServesAll total s pushes t) (hmem : (r, .data bytes) ∈ pushes) :
    bytes = contents.slice r.offset (r.clamp total) := by
  induction hserves with
  | nil => cases hmem
  | cons hfirst _ ih =>
    obtain ⟨hstays, hslice⟩ := hfirst.holds h hs
    rcases List.mem_cons.mp hmem with heq | hmem
    · obtain ⟨rfl, rfl⟩ := Prod.mk.inj heq
      exact hslice bytes rfl
    · exact ih hstays hmem

theorem servesAll_run (h : ByteSource.Settles allowed) (requests : List ReadRequest)
    (hs : allowed f.source) (hmemory : ∀ r ∈ requests, r.clamp f.total < allocationLimit) :
    ServesAll f.total f.source (requests.zip (f.run requests).2) (f.run requests).1.source := by
  induction requests generalizing f with
  | nil => exact .nil
  | cons r rest ih =>
    obtain ⟨hfirst, hrest⟩ := List.forall_mem_cons.mp hmemory
    obtain ⟨hstays, htotal, hserves⟩ := serves_answer h hs hfirst
    have hall := ih hstays (by rwa [htotal])
    rw [htotal] at hall
    exact .cons hserves hall

end Feeder

/-! ### The loop -/

namespace FeederLoop

variable {σ : Type} [ByteSource σ] {l : FeederLoop σ} {begun : Feeder σ}

/-- The moves of a feeder that is asked for some requests and then for no more. -/
def feeding : List ReadRequest → List LoopMove
  | [] => [.look, .reply none]
  | r :: rest => [.look, .reply (some r), .serve, .push] ++ feeding rest

theorem run_append (l : FeederLoop σ) (moves more : List LoopMove) :
    l.run (moves ++ more) = (l.run moves).run more :=
  List.foldl_append

/-- One request is taken and answered, and the feeder is back at its head. -/
theorem run_round (hplace : l.place = .head) (htold : l.isToldToStop = false)
    (howner : l.owner.hasDisconnected = false) (r : ReadRequest) :
    ∃ entries, entries.filterMap LoopEntry.taken? = [r] ∧
      l.run [.look, .reply (some r), .serve, .push] =
        { l with
          feeder := (l.feeder.answer r).1, place := .head, journal := l.journal ++ entries } := by
  obtain ⟨feeder, place, isToldToStop, owner, journal⟩ := l
  obtain rfl : place = .head := hplace
  obtain rfl : isToldToStop = false := htold
  refine ⟨.taken r :: (if feeder.touches r then [.touched r] else []) ++
    [.pushed r (feeder.answer r).2], ?_, ?_⟩
  · split <;> rfl
  · simp only [run, List.foldl_cons, List.foldl_nil, move, note, serve_eq]
    rw [show owner.hasDisconnected = false from howner]
    simp

/-- A feeder at its head that is asked for some requests takes these, and leaves. -/
theorem run_feeding (hplace : l.place = .head) (htold : l.isToldToStop = false)
    (howner : l.owner.hasDisconnected = false) (requests : List ReadRequest) :
    (l.run (feeding requests)).taken = l.taken ++ requests ∧
      (l.run (feeding requests)).place = .left := by
  induction requests generalizing l with
  | nil =>
    obtain ⟨feeder, place, isToldToStop, owner, journal⟩ := l
    obtain rfl : place = .head := hplace
    obtain rfl : isToldToStop = false := htold
    have howner' : owner.hasDisconnected = false := howner
    simp only [feeding, run, List.foldl_cons, List.foldl_nil, move, howner']
    exact ⟨taken_of_journal [.left] rfl, rfl⟩
  | cons r rest ih =>
    obtain ⟨entries, htaken, hround⟩ := run_round hplace htold howner r
    rw [feeding, run_append, hround]
    obtain ⟨hrest, hleft⟩ := ih (l := { l with
      feeder := (l.feeder.answer r).1, place := .head, journal := l.journal ++ entries })
      rfl htold howner
    refine ⟨?_, hleft⟩
    rw [hrest, taken_of_journal entries rfl, htaken, List.append_assoc]
    rfl

/-- What a loop keeps to with a feeder that began as `begun`. -/
structure ServesInTurn (begun : Feeder σ) (l : FeederLoop σ) : Prop where
  /-- For what was taken a chunk was pushed, for each request one and in order, but for the request
  in hand. -/
  taken : l.taken = l.pushes.map Prod.fst ++ l.place.inHand
  left : .left ∈ l.journal → l.taken = l.pushes.map Prod.fst
  /-- The chunks are what the source serves, one after the other. -/
  served : ∃ t, Feeder.ServesAll begun.total begun.source l.pushes t
  /-- It serves nothing else for these requests, whatever is in the buffer. -/
  only : ∀ pushes t, Feeder.ServesAll begun.total begun.source pushes t →
    pushes.map Prod.fst = l.pushes.map Prod.fst → pushes = l.pushes
  /-- No chunk has more bytes than are left of its request, or any past the end. -/
  within : ∀ r bytes, (r, .data bytes) ∈ l.pushes →
    bytes.length ≤ r.clamp begun.total ∧ (bytes ≠ [] → r.offset + bytes.length ≤ begun.total)
  /-- From a source that holds some contents come those at the offset, however many there are. -/
  held : ∀ contents stands fault, ByteSource.Holds contents stands fault →
    (∃ place, stands begun.source place) → ∀ r bytes, (r, .data bytes) ∈ l.pushes →
      bytes = contents.slice r.offset (r.clamp begun.total)

theorem servesInTurn_of {allowed : σ → Prop} (h : ByteSource.Settles allowed)
    (hs : allowed begun.source) (hordered : l.Ordered) (hanswers : l.Answers begun)
    (hmemory : ∀ r ∈ l.taken, r.clamp begun.total < allocationLimit) : l.ServesInTurn begun := by
  have hpushed : ∀ r ∈ l.pushes.map Prod.fst, r.clamp begun.total < allocationLimit := by
    intro r hr
    refine hmemory r ?_
    rw [hanswers.taken]
    exact List.mem_append_left _ hr
  have hserved := Feeder.servesAll_run h (l.pushes.map Prod.fst) hs hpushed
  rw [← List.zip_of_prod rfl hanswers.pushed.symm] at hserved
  exact {
    taken := hanswers.taken
    left := fun hmem => by rw [hanswers.taken, hordered.left.mp hmem]; exact List.append_nil _
    served := ⟨_, hserved⟩
    only := fun pushes t hother hsame => (hserved.unique hother hsame).1
    within := fun r bytes hmem => by
      obtain ⟨before, after, hserves⟩ := hserved.mem hmem
      exact hserves.within
    held := fun contents stands fault hholds hstands r bytes => hserved.holds hholds hstands }

/-- However the feeder, the backend and the owner take turns, the feeder pushes one chunk for each
request, in order, and each is what the source delivers to it.  Asked for some requests it answers
these.  And a cut in words is the same as one in numbers. -/
theorem served_in_turn {allowed : σ → Prop} (h : ByteSource.Settles allowed) (feeder : Feeder σ)
    (hs : allowed feeder.source) :
    (∀ begins moves,
      (∀ r ∈ ((start feeder begins).run moves).taken, r.clamp feeder.total < allocationLimit) →
        ((start feeder begins).run moves).ServesInTurn feeder) ∧
      (∀ name room requests, FeederStart.of name room = .serves →
        ((start feeder (.of name room)).run (feeding requests)).place = .left ∧
          ((start feeder (.of name room)).run (feeding requests)).pushes.map Prod.fst = requests) ∧
      ∀ offset size total, (ReadRequest.clampWord offset size total).toNat =
        ReadRequest.clamp ⟨offset.toNat, size.toNat⟩ total.toNat := by
  have hordered := fun begins => ordered_start feeder begins
  have hanswers := fun begins => answers_run (answers_start feeder begins) (hordered begins)
  refine ⟨fun begins moves hmemory => ?_, fun name room requests hbegins => ?_,
    ReadRequest.toNat_clampWord⟩
  · exact servesInTurn_of h hs (ordered_run (hordered begins) moves) (hanswers begins moves) hmemory
  · have htaken := (hanswers (.of name room) (feeding requests)).taken
    rw [hbegins] at htaken ⊢
    obtain ⟨hrequests, hleft⟩ := run_feeding (l := start feeder .serves) rfl rfl rfl requests
    rw [hrequests, hleft] at htaken
    exact ⟨hleft, by simpa [LoopPlace.inHand, FeederLoop.taken, start] using htaken.symm⟩

end FeederLoop

namespace Sketch

/-- A feeder that takes its four bytes for six, from a source that stutters, is interrupted and
fails; its buffer is not clean. -/
def stuttering : Feeder ScriptedSource :=
  { Feeder.ofSource
      { ScriptedSource.ofContents #[10, 20, 30, 40] with
        script := [.atMost 1, .fails (.custom .interrupted "again"), .atMost 5,
          .fails (.custom .timedOut "late")] } 6 with
    buffer := [7, 7, 7, 7, 7] }

theorem served_in_turn_stuttering :
    stuttering.source.IsPatient ∧
      ((FeederLoop.start stuttering (.of "reader" 16)).run
        (FeederLoop.feeding [⟨1, 3⟩, ⟨0, 2⟩, ⟨2, 100⟩, ⟨6, 1⟩])).ServesInTurn stuttering ∧
      ((FeederLoop.start stuttering (.of "reader" 16)).run
        (FeederLoop.feeding [⟨1, 3⟩, ⟨0, 2⟩, ⟨2, 100⟩, ⟨6, 1⟩])).pushes =
        [(⟨1, 3⟩, .data [20, 30, 40]), (⟨0, 2⟩, .failed), (⟨2, 100⟩, .data [30, 40]),
          (⟨6, 1⟩, .data [])] := by
  have hpatient : stuttering.source.IsPatient := nofun
  obtain ⟨hserves, -, -⟩ := FeederLoop.served_in_turn ScriptedSource.settles stuttering hpatient
  exact ⟨hpatient, hserves _ _ (by decide +kernel), by decide +kernel⟩

end Sketch
end PullStreams
