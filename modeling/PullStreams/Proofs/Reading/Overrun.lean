/-
Reading past the length.

A reader of a byte source is told a length when it is made, and the source may hold more
bytes than that: it may have grown since.  A read that begins at or past the length gives
nothing.  One that begins before it fills all of its room from the source, and the length is
not looked at again, so that it may end behind the length.

* `SourceReader.isOn_run` — what any calls keep;
* `Feeder.clamp_slice` — the bytes that a feeder told the same length answers with;
* `SourceReader.stays_within_iff` — which reads deliver nothing past the length: all but
  those that `SourceReader.Overruns` names.
-/
import Mathlib.Data.List.TakeDrop
import PullStreams.Proofs.Reading.Readers

namespace PullStreams

namespace Feeder

/-- A request cut to a length is for the bytes that it is for, up to the length. -/
theorem clamp_slice (contents : Bytes) (position count length : Nat) :
    contents.slice position (ReadRequest.clamp ⟨position, count⟩ length) =
      (contents.slice position count).take (length - position) := by
  have hclamp : ReadRequest.clamp ⟨position, count⟩ length = min (length - position) count := by
    rw [ReadRequest.clamp]
    dsimp only
    split <;> omega
  rw [hclamp, Bytes.slice, Bytes.slice, List.take_take]

end Feeder

namespace SourceReader

variable {σ : Type} [ByteSource σ] {contents : Bytes} {stands : σ → Nat → Prop}
  {fault : IoError → Prop} {r : SourceReader σ}

/-- The reader's source stands somewhere, and so does the reader.  Nothing is said of its length. -/
structure IsOn (stands : σ → Nat → Prop) (r : SourceReader σ) : Prop where
  source : ∃ place, stands r.source place
  position : r.position < wordCount

theorem isOn_call (h : ByteSource.Holds contents stands fault) (hr : r.IsOn stands)
    {c : InputCall} (hc : c.IsProper) :
    (r.call c).1.IsOn stands ∧ (r.call c).1.length = r.length := by
  cases c with
  | read count =>
    obtain ⟨hsource, hlength, hread⟩ := read_holds h hr.source count
    refine ⟨⟨hsource, ?_⟩, hlength⟩
    show (r.read count).1.position < wordCount
    cases hresult : (r.read count).2 with
    | error e =>
      rw [hresult] at hread
      rw [hread.2]
      exact hr.position
    | ok bytes =>
      rw [hresult] at hread
      rw [hread.2]
      split
      · exact hr.position
      · exact Nat.mod_lt _ (by decide)
  | seek target =>
    have hseek : target.resolve r.position r.length = _ := SeekTarget.resolve_eq hc _ _
    simp only [call, seek]
    split
    · exact ⟨hr, rfl⟩
    · next offset hresult =>
      rw [hresult] at hseek
      refine ⟨⟨hr.source, ?_⟩, rfl⟩
      show offset < wordCount
      split at hseek
      · next hrange =>
        obtain rfl := Except.ok.inj hseek
        omega
      · cases hseek

/-- Any calls leave the reader on its source, and its length as it was told. -/
theorem isOn_run (h : ByteSource.Holds contents stands fault) (hr : r.IsOn stands)
    {calls : List InputCall} (hcalls : ∀ c ∈ calls, c.IsProper) :
    (run (.ofCalls calls) r).1.IsOn stands ∧ (run (.ofCalls calls) r).1.length = r.length := by
  rw [run_ofCalls]
  induction calls generalizing r with
  | nil => exact ⟨hr, rfl⟩
  | cons c calls ih =>
    obtain ⟨hafter, hlength⟩ := isOn_call h hr (hcalls c List.mem_cons_self)
    obtain ⟨hlast, hsame⟩ := ih hafter fun c hc => hcalls c (List.mem_cons_of_mem _ hc)
    exact ⟨hlast, hsame.trans hlength⟩

/-- A read that begins before the reader's length and asks for bytes behind it, of a source that has
some there. -/
def Overruns (contents : Bytes) (r : SourceReader σ) (count : Nat) : Prop :=
  r.position < r.length ∧ r.length < r.position + count ∧ r.length < contents.length

/-- Whatever was read and however the reader was moved, a read delivers no more than is left before
the length, ends no further than there, and gives what a feeder told the same length answers with,
exactly if it is not one that overruns.  In any case the feeder's bytes come first in it. -/
theorem stays_within_iff (h : ByteSource.Holds contents stands fault)
    (hsize : contents.length < wordCount) (hr : r.IsOn stands) {calls : List InputCall}
    (hcalls : ∀ c ∈ calls, c.IsProper) {after : SourceReader σ}
    (hafter : (run (.ofCalls calls) r).1 = after) (count : Nat) :
    after.length = r.length ∧
      match (after.read count).2 with
      | .error e => fault e ∧ (after.read count).1.position = after.position
      | .ok bytes =>
        bytes = (if r.length ≤ after.position then [] else contents.slice after.position count) ∧
          (after.read count).1.position = after.position + bytes.length ∧
          (bytes.length ≤ r.length - after.position ↔ ¬after.Overruns contents count) ∧
          ((after.read count).1.position ≤ max after.position r.length ↔
            ¬after.Overruns contents count) ∧
          ∀ (f : Feeder σ) (served : Bytes), (∃ place, stands f.source place) →
            f.total = r.length → (f.answer ⟨after.position, count⟩).2 = .data served →
              served = bytes.take (r.length - after.position) ∧
                (bytes = served ↔ ¬after.Overruns contents count) := by
  obtain ⟨hon, hlength⟩ := isOn_run h hr hcalls
  rw [hafter] at hon hlength
  obtain ⟨_, _, hread⟩ := read_holds h hon.source count
  refine ⟨hlength, ?_⟩
  cases hresult : (after.read count).2 with
  | error e =>
    rw [hresult] at hread
    exact hread
  | ok bytes =>
    rw [hresult, hlength] at hread
    obtain ⟨hbytes, hposition⟩ := hread
    have hmoved : (after.read count).1.position = after.position + bytes.length := by
      rw [hposition]
      split
      · next hpast => rw [hbytes, if_pos hpast]; rfl
      · next hbefore => rw [hbytes, if_neg hbefore, advance_slice hsize hon.position]
    have hwithin : bytes.length ≤ r.length - after.position ↔ ¬after.Overruns contents count := by
      rw [Overruns, hlength, hbytes]
      split
      · next hpast => exact iff_of_true (Nat.zero_le _) (by omega)
      · rw [Bytes.length_slice]
        omega
    refine ⟨hbytes, hmoved, hwithin, ?_, fun f served hsource htotal hserved => ?_⟩
    · rw [← hwithin, hmoved]
      by_cases hpast : r.length ≤ after.position
      · rw [hbytes, if_pos hpast]
        exact iff_of_true (Nat.le_max_left ..) (Nat.zero_le _)
      · omega
    · have hcut : served = bytes.take (r.length - after.position) := by
        rcases (Feeder.answer_clamped h hsource ⟨after.position, count⟩).2.2 with hdata | hfailed
        · rw [hdata, htotal, Feeder.clamp_slice] at hserved
          obtain rfl := Chunk.data.inj hserved
          rw [hbytes]
          split
          · next hpast => rw [Nat.sub_eq_zero_of_le hpast, List.take_zero, List.take_zero]
          · rfl
        · cases hfailed.1.symm.trans hserved
      refine ⟨hcut, ?_⟩
      rw [← hwithin, hcut, List.take_self_eq_iff]

end SourceReader

namespace Sketch

/-- Six bytes, from a source that gives one, is interrupted, fails, and then gives what there is. -/
def lengthened : ScriptedSource := { hesitant with contents := #[10, 20, 30, 40, 50, 60] }

theorem lengthened_standsAt :
    ScriptedSource.StandsAt [10, 20, 30, 40, 50, 60] (· = .custom .timedOut "late") lengthened 0 :=
  { hesitant_standsAt with contents := rfl }

/-- A read that fails, and a move to the second of four bytes. -/
def returning : List InputCall := [.read 3, .seek (.fromEnd (-3))]

/-- Of the six bytes a reader was told four: a read of two in the midst of them stays there. -/
theorem stays_within_lengthened :
    ∃ after : SourceReader ScriptedSource,
      (SourceReader.run (.ofCalls returning) (.ofSource lengthened 4)).1 = after ∧
        (after.read 2).2 = .ok [20, 30] ∧ (after.read 2).1.position = 3 ∧
        ¬after.Overruns [10, 20, 30, 40, 50, 60] 2 := by
  have hproper : ∀ c ∈ returning, c.IsProper := by
    simp [returning, InputCall.IsProper, SeekTarget.IsProper]
  obtain ⟨after, hafter⟩ :
      ∃ after, (SourceReader.run (.ofCalls returning) (.ofSource lengthened 4)).1 = after := ⟨_, rfl⟩
  have hresult : (after.read 2).2 = .ok [20, 30] := by
    rw [← hafter]
    decide +kernel
  have hstart : after.position = 1 := by
    rw [← hafter]
    decide +kernel
  obtain ⟨_, hread⟩ := SourceReader.stays_within_iff (ScriptedSource.holds _ _) (by decide)
    ⟨⟨0, lengthened_standsAt⟩, by decide⟩ hproper hafter 2
  rw [hresult, hstart] at hread
  obtain ⟨_, hposition, hwithin, _⟩ := hread
  exact ⟨after, hafter, hresult, hposition, hwithin.mp (by decide)⟩

/-- Not every read keeps within the length: told four of six bytes, a reader that is moved before
the fourth one delivers the last three, and stands behind the length then. -/
theorem read_overruns :
    ¬∀ (source : ScriptedSource) (length : Nat) (calls : List InputCall) (count : Nat)
        (after : SourceReader ScriptedSource) (bytes : Bytes),
      (SourceReader.run (.ofCalls calls) (.ofSource source length)).1 = after →
        (after.read count).2 = .ok bytes →
          bytes.length ≤ length - after.position ∧
            (after.read count).1.position ≤ max after.position length := by
  intro hclaim
  have hthree : [40, 50, 60].length ≤ 4 - 3 ∧ 6 ≤ max 3 4 :=
    hclaim (.ofContents #[10, 20, 30, 40, 50, 60]) 4 [.seek (.fromEnd (-1))] 8
      ⟨.ofContents #[10, 20, 30, 40, 50, 60], 3, 4⟩ [40, 50, 60] rfl (by decide +kernel)
  exact absurd hthree (by decide)

end Sketch
end PullStreams
