/-
What a probe finds, however much of the data it looks at first.

The signatures of containers are tried in turn, and overlap; but each lies within the first
twelve bytes, so that these tell as much as all of them (`Container.detect_take`).  A probe of
a source that knows no mime type itself therefore finds the same one with any chunk of twelve
bytes or more, and in however many reads the chunk comes; and with it the same order of
streams.  Where no read fails, nothing else that it finds differs either.

* `Container.detect_take` — the front of the data tells what all of it tells;
* `SourceReader.run_alike` — what is read of sources that hold the same is the same;
* `Demux.detect_headerBytes`, `Demux.probe_cases` — a probe of a source that holds its contents;
* `Demux.probe_regardless` — two probes with chunks of their own.
-/
import PullStreams.Config
import PullStreams.Demux.Probe
import PullStreams.Proofs.Reading.Readers

namespace PullStreams

/-! ### Signatures -/

namespace Container

variable {header : Bytes} {start count : Nat} {tag : String}

theorem hasTag_take (h : start + tag.length ≤ count) :
    hasTag (header.take count) start tag = hasTag header start tag := by
  rw [hasTag, Bytes.slice_take header h, hasTag]

theorem hasFrameSync_take (h : 2 ≤ count) :
    hasFrameSync (header.take count) = hasFrameSync header := by
  obtain ⟨more, rfl⟩ : ∃ more, count = more + 2 := ⟨count - 2, by omega⟩
  match header with
  | [] | [_] => rfl
  | _ :: _ :: _ => rfl

/-- Twelve bytes tell as much as all of them. -/
theorem detect_take (h : 12 ≤ count) : detect (header.take count) = detect header := by
  have hshort : (header.take count).length < 4 ↔ header.length < 4 := by
    rw [List.length_take]
    omega
  have hmatroska : Bytes.slice (header.take count) 0 4 = header.slice 0 4 :=
    Bytes.slice_take header (by omega)
  have htag : ∀ start tag, start + tag.length ≤ 12 →
      hasTag (header.take count) start tag = hasTag header start tag :=
    fun start tag hle => hasTag_take (Nat.le_trans hle h)
  rw [detect, detect, if_congr hshort rfl rfl, hmatroska, htag 4 "ftyp" (by decide),
    htag 0 "OggS" (by decide), htag 0 "fLaC" (by decide), htag 0 "RIFF" (by decide),
    htag 8 "WAVE" (by decide), htag 0 "ID3" (by decide), hasFrameSync_take (by omega)]

/-- Eleven do not. -/
example : detect (Bytes.ofText "RIFF....WAVE") = .wav ∧
    detect ((Bytes.ofText "RIFF....WAVE").take 11) = .unknown := by decide

end Container

/-! ### Reading sources that hold the same -/

namespace SourceReader

variable {σ τ α : Type} [ByteSource σ] [ByteSource τ] {contents : Bytes} {stands : σ → Nat → Prop}
  {stands' : τ → Nat → Prop} {r : SourceReader σ} {q : SourceReader τ}

/-- Two readers are at the same position in sources of the same length. -/
structure Alike (stands : σ → Nat → Prop) (stands' : τ → Nat → Prop) (r : SourceReader σ)
    (q : SourceReader τ) : Prop where
  source : ∃ place, stands r.source place
  source' : ∃ place, stands' q.source place
  position : r.position = q.position
  length : r.length = q.length

theorem read_alike (h : ByteSource.Holds contents stands fun _ => False)
    (h' : ByteSource.Holds contents stands' fun _ => False) (hsame : r.Alike stands stands' q)
    (count : Nat) :
    (r.read count).2 = (q.read count).2 ∧
      (r.read count).1.Alike stands stands' (q.read count).1 := by
  obtain ⟨hstays, hlength, hread⟩ := read_holds h hsame.source count
  obtain ⟨hstays', hlength', hread'⟩ := read_holds h' hsame.source' count
  have hafter : (r.read count).1.length = (q.read count).1.length := by
    rw [hlength, hlength', hsame.length]
  rw [← hsame.length, ← hsame.position] at hread'
  cases hr : (r.read count).2 with
  | error e =>
    rw [hr] at hread
    exact hread.1.elim
  | ok bytes =>
    cases hq : (q.read count).2 with
    | error e =>
      rw [hq] at hread'
      exact hread'.1.elim
    | ok bytes' =>
      rw [hr] at hread
      rw [hq] at hread'
      obtain ⟨hbytes, hposition⟩ := hread
      obtain ⟨hbytes', hposition'⟩ := hread'
      obtain rfl : bytes = bytes' := hbytes.trans hbytes'.symm
      exact ⟨rfl, hstays, hstays', hposition.trans hposition'.symm, hafter⟩

omit [ByteSource σ] [ByteSource τ] in
theorem seek_alike (hsame : r.Alike stands stands' q) (target : SeekTarget) :
    (r.seek target).2 = (q.seek target).2 ∧
      (r.seek target).1.Alike stands stands' (q.seek target).1 := by
  rw [seek, seek, hsame.position, hsame.length]
  split
  · exact ⟨rfl, hsame⟩
  · exact ⟨rfl, hsame.source, hsame.source', rfl, rfl⟩

/-- A computation over sources that hold the same, and fail in no call, comes to the same. -/
theorem run_alike (h : ByteSource.Holds contents stands fun _ => False)
    (h' : ByteSource.Holds contents stands' fun _ => False) (hsame : r.Alike stands stands' q)
    (p : Reading α) : (run p r).2 = (run p q).2 := by
  induction p generalizing r q with
  | done a => rfl
  | read count resume ih =>
    obtain ⟨hreply, hafter⟩ := read_alike h h' hsame count
    simp only [run]
    rw [hreply]
    exact ih _ hafter
  | seek target resume ih =>
    obtain ⟨hreply, hafter⟩ := seek_alike hsame target
    simp only [run]
    rw [hreply]
    exact ih _ hafter

end SourceReader

/-! ### Probes -/

namespace Demux

variable {σ τ : Type} [ByteSource σ] [ByteSource τ] {contents : Bytes} {stands : σ → Nat → Prop}
  {stands' : τ → Nat → Prop} {fault fault' : IoError → Prop} {s : σ} {t : τ} {size j k : Nat}

theorem headerBytes_holds (h : ByteSource.Holds contents stands fault)
    (hs : ∃ place, stands s place) (count : Nat) :
    (∃ place, stands (headerBytes s count).1 place) ∧
      match (headerBytes s count).2 with
      | .ok header => header = contents.take count
      | .error e => fault e := by
  obtain ⟨place, hplace⟩ := hs
  unfold headerBytes
  split
  · next u e hseek =>
    obtain ⟨hfault, hstays⟩ := h.notSought hplace hseek
    exact ⟨hstays, hfault⟩
  · next u hseek => exact ByteSource.readFully_holds h (h.sought hplace hseek) count

/-- A source that says how long it is, and knows no mime type. -/
structure IsUntold (stands : σ → Nat → Prop) (size : Nat) (s : σ) : Prop where
  source : ∃ place, stands s place
  length : ByteSource.length s = .ok size
  contentType : ByteSource.contentType s = none

/-- The first bytes of a source, if they can be read, tell what all of them tell. -/
theorem detect_headerBytes (h : ByteSource.Holds contents stands fault)
    (hs : ∃ place, stands s place) (size : Nat) (hj : 12 ≤ j) :
    match (headerBytes s (min j size)).2 with
    | .ok header => Container.detect header = Container.detect (contents.take size)
    | .error e => fault e := by
  obtain ⟨_, hheader⟩ := headerBytes_holds h hs (min j size)
  cases hresult : (headerBytes s (min j size)).2 with
  | error e =>
    rw [hresult] at hheader
    exact hheader
  | ok header =>
    rw [hresult] at hheader
    obtain rfl : header = contents.take (min j size) := hheader
    show Container.detect _ = _
    rw [← List.take_take, Container.detect_take hj]

variable {ρ : Type} (opener : Hint → Reading (OpenedContainer ρ))

/-- A probe fails with its source, or opens the container with what all the data tells as a hint,
and finds the mime type that all the data tells. -/
theorem probe_cases (h : ByteSource.Holds contents stands fault) (hs : IsUntold stands size s)
    (hj : 12 ≤ j) :
    (∃ e, fault e ∧ (probeWith opener j s).result = .error (.io e)) ∨
      ∃ u, (∃ place, stands u place) ∧
        (probeWith opener j s).result =
          match (SourceReader.run (opener (hintFor (Container.detect (contents.take size))
            (Container.detect (contents.take size)).mimeType)) (.ofSource u size)).2.result with
          | .error e => .error (.unsupportedFormat e.message)
          | .ok (_, tracks) =>
            .ok (probeInfo (Container.detect (contents.take size)).mimeType tracks) := by
  obtain ⟨hstays, _⟩ := headerBytes_holds h hs.source (min j size)
  have hdetect := detect_headerBytes h hs.source size hj
  simp only [probeWith, hs.length, hs.contentType]
  split
  · next u e hresult =>
    rw [hresult] at hdetect
    exact .inl ⟨e, hdetect, rfl⟩
  · next u header hresult =>
    rw [hresult] at hdetect hstays
    refine .inr ⟨u, hstays, ?_⟩
    rw [show Container.detect header = _ from hdetect]
    rfl

/-- The mime type that a probe finds is that of all the data. -/
theorem mimeType_probe (h : ByteSource.Holds contents stands fault) (hs : IsUntold stands size s)
    (hj : 12 ≤ j) {info : ProbeInfo} (hinfo : (probeWith opener j s).result = .ok info) :
    info.mimeType = (Container.detect (contents.take size)).mimeType := by
  rcases probe_cases opener h hs hj with ⟨e, _, hresult⟩ | ⟨u, _, hresult⟩
  · cases hresult.symm.trans hinfo
  · rw [hresult] at hinfo
    split at hinfo
    · cases hinfo
    · obtain rfl := Except.ok.inj hinfo
      rfl

/-- Probes of sources that hold the same, and fail in no call, come to the same. -/
theorem probe_alike (h : ByteSource.Holds contents stands fun _ => False)
    (h' : ByteSource.Holds contents stands' fun _ => False) (hs : IsUntold stands size s)
    (ht : IsUntold stands' size t) (hj : 12 ≤ j) (hk : 12 ≤ k) :
    (probeWith opener j s).result = (probeWith opener k t).result := by
  rcases probe_cases opener h hs hj with ⟨_, hnever, _⟩ | ⟨u, hu, hresult⟩
  · exact hnever.elim
  · rcases probe_cases opener h' ht hk with ⟨_, hnever, _⟩ | ⟨v, hv, hresult'⟩
    · exact hnever.elim
    · have hrun := SourceReader.run_alike h h' (r := .ofSource u size) (q := .ofSource v size)
        ⟨hu, hv, rfl, rfl⟩ (opener (hintFor (Container.detect (contents.take size))
          (Container.detect (contents.take size)).mimeType))
      rw [hresult, hresult', hrun]

/-- Twelve bytes of the data tell the container as well as all of them.  So a probe that looks at so
many first is told the same container as any other, in however many reads the bytes come; whatever
containers its opener opens, it finds the same mime type, and with it the same order of streams; and
where no call fails, nothing that it finds is different. -/
theorem probe_regardless (h : ByteSource.Holds contents stands fault)
    (h' : ByteSource.Holds contents stands' fault') (hs : IsUntold stands size s)
    (ht : IsUntold stands' size t) (hj : 12 ≤ j) (hk : 12 ≤ k) :
    (∀ d : Bytes,
        Container.detect (d.take (min j d.length)) = Container.detect (d.take (min k d.length)) ∧
          Container.detect (d.take (min j d.length)) = Container.detect d) ∧
      (match (headerBytes s (min j size)).2 with
        | .ok header => Container.detect header = Container.detect (contents.take size)
        | .error e => fault e) ∧
      (∀ info info', (probeWith opener j s).result = .ok info →
        (probeWith opener k t).result = .ok info' →
          info.mimeType = (Container.detect (contents.take size)).mimeType ∧
            info'.mimeType = info.mimeType ∧
            ∀ config : SourceConfig,
              ({ config with probeChunkSize := j } : SourceConfig).policyFor info.mimeType =
                ({ config with probeChunkSize := k } : SourceConfig).policyFor info'.mimeType) ∧
      ((∀ e, ¬fault e) → (∀ e, ¬fault' e) →
        (probeWith opener j s).result = (probeWith opener k t).result) := by
  have hfront : ∀ (d : Bytes) {n : Nat}, 12 ≤ n →
      Container.detect (d.take (min n d.length)) = Container.detect d := by
    intro d n hn
    rw [← List.take_take, List.take_length, Container.detect_take hn]
  refine ⟨fun d => ⟨(hfront d hj).trans (hfront d hk).symm, hfront d hj⟩,
    detect_headerBytes h hs.source size hj, ?_, fun hno hno' => ?_⟩
  · intro info info' hinfo hinfo'
    have hmime := mimeType_probe opener h hs hj hinfo
    have hsame : info'.mimeType = info.mimeType :=
      (mimeType_probe opener h' ht hk hinfo').trans hmime.symm
    refine ⟨hmime, hsame, fun config => ?_⟩
    rw [hsame]
    rfl
  · obtain rfl : fault = fun _ => False := funext fun e => eq_false (hno e)
    obtain rfl : fault' = fun _ => False := funext fun e => eq_false (hno' e)
    exact probe_alike opener h h' hs ht hj hk

end Demux

namespace Sketch

open Demux

/-- A WAV file of eight samples. -/
def tone : ScriptedSource :=
  .ofContents #[0x52, 0x49, 0x46, 0x46, 0x2c, 0, 0, 0, 0x57, 0x41, 0x56, 0x45,
    0x66, 0x6d, 0x74, 0x20, 0x10, 0, 0, 0, 1, 0, 1, 0, 0x40, 0x1f, 0, 0, 0x40, 0x1f, 0, 0,
    1, 0, 8, 0, 0x64, 0x61, 0x74, 0x61, 8, 0, 0, 0, 1, 2, 3, 4, 5, 6, 7, 8]

/-- The same file, in small reads that are interrupted. -/
def brokenTone : ScriptedSource :=
  { tone with
    script := [.atMost 1, .fails (.custom .interrupted "again"), .atMost 5]
    chunk := some 3 }

theorem tone_isUntold :
    IsUntold (ScriptedSource.StandsAt tone.contents.toList fun _ => False) 52 tone where
  source := ⟨0, rfl, rfl, rfl, nofun, nofun, nofun, nofun, nofun⟩
  length := rfl
  contentType := rfl

theorem brokenTone_isUntold :
    IsUntold (ScriptedSource.StandsAt tone.contents.toList fun _ => False) 52 brokenTone where
  source := ⟨0, rfl, rfl, rfl, by simp [brokenTone], by simp [brokenTone], nofun, nofun,
    by simp [brokenTone, IoError.isInterrupted, IoError.kind]⟩
  length := rfl
  contentType := rfl

/-- The first twelve bytes of the file, and all of it in small reads, have a probe find the same. -/
theorem probe_regardless_tone :
    ∃ info, (probe 12 tone).result = .ok info ∧ (probe 4096 brokenTone).result = .ok info ∧
      info.mimeType = "audio/wav" := by
  have hholds := ScriptedSource.holds tone.contents.toList fun _ => False
  obtain ⟨_, _, hmime, hsame⟩ := probe_regardless (fun _ => Wav.openReader) hholds hholds
    tone_isUntold brokenTone_isUntold (j := 12) (k := 4096) (by decide) (by decide)
  have hresult : (probe 12 tone).result = (probe 4096 brokenTone).result :=
    hsame (fun _ h => h) fun _ h => h
  cases hinfo : (probe 12 tone).result with
  | error e =>
    have hok : (probe 12 tone).result.isOk = true := by decide +kernel
    rw [hinfo] at hok
    cases hok
  | ok info =>
    rw [hinfo] at hresult
    refine ⟨info, rfl, hresult.symm, ?_⟩
    rw [(hmime info info hinfo hresult.symm).1]
    decide +kernel

/-- Where the opener opens what it is given, the container may be any. -/
example :
    (probeWith (fun _ => .done (⟨[], .ok ((), [])⟩ : OpenedContainer Unit)) 12
        (ScriptedSource.ofContents #[0, 0, 0, 0x14, 0x66, 0x74, 0x79, 0x70, 0x69, 0x73, 0x6f, 0x6d,
          0, 0, 2, 0, 0x69, 0x73, 0x6f, 0x6d])).result.toOption.map (·.mimeType) =
      some "video/mp4" := by decide +kernel

end Sketch
end PullStreams
