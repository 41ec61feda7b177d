/-
Byte sources that hold what they are read for.

Of a byte source it is assumed what its interface promises and no more: a read gives
bytes that come next, fewer than were asked for if it likes but at least one before
the end of the data; an interrupted read gives nothing and loses nothing, and comes
only so often; any call may fail (`ByteSource.Holds`).  Reading until a buffer is full
then gives the bytes that come next, as many as fit, unless the source failed.

* `Delivers.holds` — what such a source delivers;
* `fill_holds`, `readFully_holds` — the same of a buffer that is filled;
* `ScriptedSource.holds` — every script whose reads give something is such a source.
-/
import PullStreams.Proofs.Reading.Delivery

namespace PullStreams

namespace ByteSource

variable {σ : Type} {contents : Bytes} {stands : σ → Nat → Prop} {fault : IoError → Prop}

/-- What a read of `count` bytes may give at a position. -/
structure Gives (contents : Bytes) (position count : Nat) (bytes : Bytes) : Prop where
  next : bytes = contents.slice position bytes.length
  fits : bytes.length ≤ count
  /-- A read that gives nothing was asked for nothing, or has found the end. -/
  something : bytes = [] → count = 0 ∨ contents.length ≤ position

/-- Sources hold `contents`; `stands s position` says where one of them stands, and `fault` which
failures its calls may have, interrupted reads apart. -/
structure Holds [ByteSource σ] (contents : Bytes) (stands : σ → Nat → Prop)
    (fault : IoError → Prop) : Prop where
  sought {s t : σ} {position offset : Nat} : stands s position → seek s offset = (t, .ok ()) →
    stands t offset
  notSought {s t : σ} {position offset : Nat} {e : IoError} : stands s position →
    seek s offset = (t, .error e) → fault e ∧ ∃ after, stands t after
  given {s t : σ} {position count : Nat} {bytes : Bytes} : stands s position →
    read s count = (t, .ok bytes) →
      Gives contents position count bytes ∧ stands t (position + bytes.length) ∧
        interruptions t ≤ interruptions s
  interrupted {s t : σ} {position count : Nat} {e : IoError} : stands s position →
    read s count = (t, .error e) → e.isInterrupted = true →
      stands t position ∧ interruptions t < interruptions s
  failed {s t : σ} {position count : Nat} {e : IoError} : stands s position →
    read s count = (t, .error e) → e.isInterrupted = false → fault e ∧ ∃ after, stands t after

/-! ### Reading until there is enough -/

/-- A row of reads comes to the source `t` with these bytes, or to a failure. -/
structure Gathers (contents : Bytes) (stands : σ → Nat → Prop) (fault : IoError → Prop)
    (position room : Nat) (t : σ) (bytes : Bytes) (failure : Option IoError) : Prop where
  stays : ∃ after, stands t after
  fits : bytes.length ≤ room
  all : failure = none → bytes = contents.slice position room
  failed : ∀ e, failure = some e → fault e

variable {s t : σ} {position : Nat}

theorem Gathers.nothing (ht : ∃ after, stands t after) {room : Nat}
    (h : room = 0 ∨ contents.length ≤ position) :
    Gathers contents stands fault position room t [] none where
  stays := ht
  fits := Nat.zero_le _
  all _ := by
    rcases h with rfl | h
    · simp [Bytes.slice]
    · exact (Bytes.slice_of_length_le h room).symm
  failed := nofun

/-- What a read gave comes before what the rest of the reads gave. -/
theorem Gathers.prepend {room : Nat} {first rest : Bytes} {failure : Option IoError}
    (hfirst : Gives contents position room first)
    (hrest : Gathers contents stands fault (position + first.length) (room - first.length) t rest
      failure) :
    Gathers contents stands fault position room t (first ++ rest) failure where
  stays := hrest.stays
  fits := by
    have hleft := hrest.fits
    have hfits := hfirst.fits
    rw [List.length_append]
    omega
  all hall := by
    have hroom : first.length + (room - first.length) = room := by
      have hfits := hfirst.fits
      omega
    calc first ++ rest
        = contents.slice position first.length ++
            contents.slice (position + first.length) (room - first.length) := by
          rw [← hfirst.next, hrest.all hall]
      _ = contents.slice position room := by rw [Bytes.slice_append, hroom]
  failed := hrest.failed

variable [ByteSource σ]

/-- Sources that hold their contents come to an end of every read. -/
theorem Holds.settles (h : Holds contents stands fault) :
    Settles fun s => ∃ position, stands s position where
  sought {s t offset result} hs hseek := by
    obtain ⟨position, hs⟩ := hs
    cases result with
    | ok => exact ⟨offset, h.sought hs hseek⟩
    | error e => exact (h.notSought hs hseek).2
  read {s t count result} hs hread := by
    obtain ⟨position, hs⟩ := hs
    cases result with
    | ok bytes => exact ⟨_, (h.given hs hread).2.1⟩
    | error e =>
      cases hagain : e.isInterrupted with
      | true => exact ⟨position, (h.interrupted hs hread hagain).1⟩
      | false => exact (h.failed hs hread hagain).2
  fits hs hread := hs.elim fun _ hs => (h.given hs hread).1.fits
  patient hs hread hagain := hs.elim fun _ hs => (h.interrupted hs hread hagain).2

/-- What such a source delivers comes next in its contents. -/
theorem Delivers.holds (h : Holds contents stands fault) {room : Nat} {bytes : Bytes}
    {ending : Ending} (hs : stands s position) (hdelivers : Delivers s room bytes ending t) :
    Gathers contents stands fault position room t bytes ending.failure? := by
  induction hdelivers generalizing position with
  | full => exact .nothing ⟨position, hs⟩ (.inl rfl)
  | ended hread =>
    obtain ⟨hgives, ht, _⟩ := h.given hs hread
    exact .nothing ⟨_, ht⟩ (.inr ((hgives.something rfl).resolve_left (Nat.succ_ne_zero _)))
  | given hread _ _ ih =>
    obtain ⟨hgives, ht, _⟩ := h.given hs hread
    exact (ih ht).prepend hgives
  | again hread hagain _ ih => exact ih (h.interrupted hs hread hagain).1
  | failed hread hfatal =>
    obtain ⟨hfault, ht⟩ := h.failed hs hread hfatal
    exact ⟨ht, Nat.zero_le _, nofun, fun e he => Option.some.inj he ▸ hfault⟩

/-- A buffer that was filled holds in its front what comes next; filling fails only when the source
failed. -/
theorem fill_holds (h : Holds contents stands fault) (hs : stands s position) (buffer : Bytes) :
    (∃ after, stands (fill s buffer).1 after) ∧
      match (fill s buffer).2.2 with
      | .ok got =>
        got = (contents.slice position buffer.length).length ∧
          (fill s buffer).2.1.take got = contents.slice position buffer.length
      | .error e => fault e := by
  obtain ⟨hstays, bytes, ending, hdelivers, hfront, hresult⟩ :=
    delivers_fill h.settles ⟨position, hs⟩ buffer
  have hgathers := hdelivers.holds h hs
  refine ⟨hstays, ?_⟩
  rw [hresult, hfront]
  cases hfailure : ending.failure? with
  | some e => exact hgathers.failed e hfailure
  | none =>
    refine ⟨congrArg List.length (hgathers.all hfailure), ?_⟩
    rw [Bytes.take_overwrite hgathers.fits, hgathers.all hfailure]

theorem readFully_holds (h : Holds contents stands fault) (hs : stands s position) (count : Nat) :
    (∃ after, stands (readFully s count).1 after) ∧
      match (readFully s count).2 with
      | .ok bytes => bytes = contents.slice position count
      | .error e => fault e := by
  obtain ⟨hstays, hfill⟩ := fill_holds h hs (List.replicate count 0)
  refine ⟨hstays, ?_⟩
  simp only [readFully]
  cases hresult : (fill s (List.replicate count 0)).2.2 with
  | ok got =>
    rw [hresult, List.length_replicate] at hfill
    exact hfill.2
  | error e =>
    rw [hresult] at hfill
    exact hfill

end ByteSource

/-! ### Scripts that hold their contents -/

namespace ScriptedSource

variable {s t : ScriptedSource} {contents : Bytes} {fault : IoError → Prop} {position count : Nat}

/-- A script stands at a position of `contents`, its reads give something, and its failures are
faults, interrupted reads apart. -/
structure StandsAt (contents : Bytes) (fault : IoError → Prop) (s : ScriptedSource)
    (position : Nat) : Prop where
  contents : s.contents.toList = contents
  position : s.position = position
  isOpen : s.isClosed = false
  some_read : ∀ most, .atMost most ∈ s.script → 0 < most
  some_chunk : s.chunk ≠ some 0
  fault_seek : ∀ e, s.seekFault = some e → fault e
  fault_read : ∀ e, s.readFault = some e → e.isInterrupted = false ∧ fault e
  fault_script : ∀ e, .fails e ∈ s.script → e.isInterrupted = false → fault e

/-- Past the first entry of its script, a source stands where it did. -/
theorem StandsAt.rest {turn : ReadTurn} {rest : List ReadTurn}
    (hs : StandsAt contents fault s position) (hscript : s.script = turn :: rest) :
    StandsAt contents fault { s with script := rest } position where
  contents := hs.contents
  position := hs.position
  isOpen := hs.isOpen
  some_read most hmem := hs.some_read most (hscript ▸ List.mem_cons_of_mem _ hmem)
  some_chunk := hs.some_chunk
  fault_seek := hs.fault_seek
  fault_read := hs.fault_read
  fault_script e hmem := hs.fault_script e (hscript ▸ List.mem_cons_of_mem _ hmem)

/-- What is given is cut out of the contents. -/
theorem give_eq (s : ScriptedSource) (most : Nat) :
    s.give most =
      ({ s with position := s.position + (Bytes.slice s.contents.toList s.position most).length },
        .ok (Bytes.slice s.contents.toList s.position most)) := by
  have hbytes : (s.contents.extract s.position (s.position + most)).toList =
      Bytes.slice s.contents.toList s.position most := by
    rw [Array.toList_extract, List.extract_eq_take_drop, Nat.add_sub_cancel_left, Bytes.slice]
  rw [ScriptedSource.give, hbytes]

/-- Giving some bytes is what a read of a source that holds them may do. -/
theorem StandsAt.give (hs : StandsAt contents fault s position) {most : Nat} (hfits : most ≤ count)
    (hsome : 0 < most ∨ count = 0) :
    ∃ bytes, (s.give most).2 = .ok bytes ∧ ByteSource.Gives contents position count bytes ∧
      StandsAt contents fault (s.give most).1 (position + bytes.length) := by
  rw [s.give_eq, hs.contents, hs.position]
  refine ⟨contents.slice position most, rfl,
    ⟨(contents.slice_length_slice position most).symm, ?_, fun hnone => ?_⟩, ?_⟩
  · rw [Bytes.length_slice]
    omega
  · have hlength := congrArg List.length hnone
    rw [Bytes.length_slice, List.length_nil] at hlength
    omega
  · exact { hs with position := rfl }

theorem StandsAt.faultOr (hs : StandsAt contents fault s position) (f : Option IoError) :
    s.faultOr f = f := by
  rw [ScriptedSource.faultOr, hs.isOpen]
  rfl

/-- A read fails as all do, fails by the script, or gives something. -/
theorem StandsAt.read_cases (hs : StandsAt contents fault s position) (count : Nat) :
    (∃ e, s.read count = (s, .error e) ∧ e.isInterrupted = false ∧ fault e) ∨
    (∃ e rest, s.script = .fails e :: rest ∧
      s.read count = ({ s with script := rest }, .error e)) ∨
    ∃ t most, s.read count = t.give most ∧ StandsAt contents fault t position ∧
      t.script.length ≤ s.script.length ∧ most ≤ count ∧ (0 < most ∨ count = 0) := by
  rcases s.read_cases count with ⟨e, hfault, h⟩ | ⟨e, rest, hscript, h⟩ |
    ⟨rest, most, h, ⟨limit, hscript, rfl⟩ | ⟨rfl, rfl⟩⟩
  · rw [hs.faultOr] at hfault
    exact .inl ⟨e, h, hs.fault_read e hfault⟩
  · exact .inr (.inl ⟨e, rest, hscript, h⟩)
  · have hsome := hs.some_read limit (hscript ▸ List.mem_cons_self)
    have hshorter : rest.length ≤ s.script.length := by rw [hscript]; exact Nat.le_succ _
    exact .inr (.inr ⟨_, _, h, hs.rest hscript, hshorter, Nat.min_le_left .., by omega⟩)
  · refine .inr (.inr ⟨s, _, h, hs, Nat.le_refl _, s.elim_chunk_le count, ?_⟩)
    have hchunk := hs.some_chunk
    cases hc : s.chunk with
    | none => simp only [Option.elim_none]; omega
    | some chunk =>
      rw [hc, ne_eq, Option.some.injEq] at hchunk
      simp only [Option.elim_some]
      omega

theorem holds (contents : Bytes) (fault : IoError → Prop) :
    ByteSource.Holds contents (StandsAt contents fault) fault where
  sought {s t position offset} hs hseek := by
    have hseek' : s.seek offset = (t, .ok ()) := hseek
    rw [ScriptedSource.seek, hs.faultOr] at hseek'
    split at hseek'
    · cases hseek'
    · obtain rfl := congrArg Prod.fst hseek'
      exact { hs with position := rfl }
  notSought {s t position offset e} hs hseek := by
    have hseek' : s.seek offset = (t, .error e) := hseek
    rw [ScriptedSource.seek, hs.faultOr] at hseek'
    split at hseek'
    · next e' hfault =>
      obtain ⟨rfl, he⟩ := Prod.mk.inj hseek'
      obtain rfl := Except.error.inj he
      exact ⟨hs.fault_seek e' hfault, position, hs⟩
    · cases hseek'
  given {s t position count bytes} hs hread := by
    have hread' : s.read count = (t, .ok bytes) := hread
    rcases hs.read_cases count with ⟨e, h, _⟩ | ⟨e, rest, _, h⟩ |
      ⟨u, most, h, hu, hshorter, hfits, hsome⟩
    · cases h.symm.trans hread'
    · cases h.symm.trans hread'
    · obtain ⟨given, hgiven, hgives, hstands⟩ := hu.give hfits hsome
      obtain rfl : (u.give most).1 = t := congrArg Prod.fst (h.symm.trans hread')
      obtain rfl : given = bytes :=
        Except.ok.inj (hgiven.symm.trans (congrArg Prod.snd (h.symm.trans hread')))
      exact ⟨hgives, hstands, hshorter⟩
  interrupted {s t position count e} hs hread hagain := by
    have hread' : s.read count = (t, .error e) := hread
    rcases hs.read_cases count with ⟨e', h, hfatal, _⟩ | ⟨e', rest, hscript, h⟩ |
      ⟨u, most, h, hu, _, hfits, hsome⟩
    · obtain rfl := Except.error.inj (congrArg Prod.snd (h.symm.trans hread'))
      rw [hagain] at hfatal
      cases hfatal
    · obtain rfl := congrArg Prod.fst (h.symm.trans hread')
      refine ⟨hs.rest hscript, ?_⟩
      show rest.length < s.script.length
      rw [hscript]
      exact Nat.lt_succ_self _
    · cases h.symm.trans hread'
  failed {s t position count e} hs hread hfatal := by
    have hread' : s.read count = (t, .error e) := hread
    rcases hs.read_cases count with ⟨e', h, _, hfault⟩ | ⟨e', rest, hscript, h⟩ |
      ⟨u, most, h, hu, _, hfits, hsome⟩
    · obtain ⟨rfl, he⟩ := Prod.mk.inj (h.symm.trans hread')
      obtain rfl := Except.error.inj he
      exact ⟨hfault, position, hs⟩
    · obtain ⟨rfl, he⟩ := Prod.mk.inj (h.symm.trans hread')
      obtain rfl := Except.error.inj he
      exact ⟨hs.fault_script e' (hscript ▸ List.mem_cons_self) hfatal, position, hs.rest hscript⟩
    · cases h.symm.trans hread'

end ScriptedSource
end PullStreams
