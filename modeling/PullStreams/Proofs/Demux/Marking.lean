/-
The marks of the demultiplexing backend.

The backend has a mark for each of its tracks, none of them set when it has connected;
enabling and disabling a track set and remove its mark, and orders to the worker leave the
marks alone.  The worker refuses the pull of a track without a mark, and no other.

* `DemuxBackend.marks_engine` — the engine keeps its marks as sessions ask of it;
* `DemuxBackend.canGive_pull` — what a pull comes to, with the mark of its track and
  without.
-/
import PullStreams.Demux.Probe
import PullStreams.Proofs.Session.Marking

namespace PullStreams

/-! ### What computations may come to -/

namespace Pull

variable {α β : Type}

@[simp] theorem canGive_done {a b : α} : (done a).CanGive b ↔ b = a := by
  constructor
  · rintro ⟨⟩
    rfl
  · rintro rfl
    exact .done

theorem canGive_andThen {p : Pull α} {f : α → Pull β} {b : β} (h : (p.andThen f).CanGive b) :
    ∃ a, p.CanGive a ∧ (f a).CanGive b := by
  induction p with
  | done a => exact ⟨a, .done, h⟩
  | ask request resume ih =>
    cases h with
    | ask reply h =>
      obtain ⟨a, ha, hb⟩ := ih reply h
      exact ⟨a, .ask reply ha, hb⟩

end Pull

namespace Reading

variable {α β : Type}

/-- What a computation may come to, whatever it reads and wherever it can move. -/
inductive CanGive : Reading α → α → Prop
  | done {a : α} : CanGive (.done a) a
  | read {count : Nat} {resume : Except IoError Bytes → Reading α} {a : α}
      (reply : Except IoError Bytes) (h : CanGive (resume reply) a) : CanGive (.read count resume) a
  | seek {target : SeekTarget} {resume : Except IoError Nat → Reading α} {a : α}
      (reply : Except IoError Nat) (h : CanGive (resume reply) a) : CanGive (.seek target resume) a

@[simp] theorem canGive_pure {a b : α} : (pure a : Reading α).CanGive b ↔ b = a := by
  constructor
  · rintro ⟨⟩
    rfl
  · rintro rfl
    exact .done

theorem canGive_bind {p : Reading α} {f : α → Reading β} {b : β} (h : (p >>= f).CanGive b) :
    ∃ a, p.CanGive a ∧ (f a).CanGive b := by
  induction p with
  | done a => exact ⟨a, .done, h⟩
  | read count resume ih =>
    cases h with
    | read reply h =>
      obtain ⟨a, ha, hb⟩ := ih reply h
      exact ⟨a, .read reply ha, hb⟩
  | seek target resume ih =>
    cases h with
    | seek reply h =>
      obtain ⟨a, ha, hb⟩ := ih reply h
      exact ⟨a, .seek reply ha, hb⟩

/-- Reading through requests gives what reading may give. -/
theorem canGive_of_requests {p : Reading α} {input after : RequestReader} {a : α}
    (h : (RequestReader.run p input).CanGive (after, a)) : p.CanGive a := by
  induction p generalizing input with
  | done b =>
    obtain ⟨-, rfl⟩ := Prod.mk.inj (Pull.canGive_done.mp h)
    exact .done
  | read count resume ih =>
    obtain ⟨⟨moved, reply⟩, _, hrest⟩ := Pull.canGive_andThen h
    exact .read reply (ih reply hrest)
  | seek target resume ih => exact .seek _ (ih _ h)

end Reading

/-! ### The worker -/

namespace Worker

variable {ρ : Type} [FormatReader ρ Reading]

/-- Reading on for a track never comes to the refusal of a track. -/
theorem readOn_accepts (enabled : List Bool) (track : Nat) (w : Worker ρ) {after : Worker ρ}
    {result : Except PullFault (Option Buffer)}
    (h : (w.readOn enabled track : Reading _).CanGive (after, result)) (refused : Nat) :
    result ≠ .error (.notEnabled refused) := by
  induction hleft : FormatReader.remaining w.reader using Nat.strongRecOn generalizing w with
  | ind left ih =>
    rw [readOn] at h
    split at h
    · obtain ⟨-, rfl⟩ := Prod.mk.inj (Reading.canGive_pure.mp h)
      simp
    · split at h
      · obtain ⟨-, rfl⟩ := Prod.mk.inj (Reading.canGive_pure.mp h)
        simp
      · obtain ⟨fetched, _, hrest⟩ := Reading.canGive_bind h
        cases fetched with
        | packet p next less => exact ih _ (hleft ▸ less) _ hrest rfl
        | failed e next =>
          simp only at hrest
          split at hrest
          · obtain ⟨-, rfl⟩ := Prod.mk.inj (Reading.canGive_pure.mp hrest)
            simp
          · obtain ⟨-, rfl⟩ := Prod.mk.inj (Reading.canGive_pure.mp hrest)
            simp

/-- The worker refuses the pull of a track exactly when the track has no mark. -/
theorem pull_refused_iff {enabled : List Bool} {track : Nat} {w after : Worker ρ}
    {result : Except PullFault (Option Buffer)}
    (h : (w.pull enabled track : Reading _).CanGive (after, result)) :
    (∃ refused, result = .error (.notEnabled refused)) ↔ isOn enabled track = false := by
  unfold pull at h
  split at h
  · next hon =>
    rw [hon]
    refine ⟨?_, fun hoff => Bool.noConfusion hoff⟩
    rintro ⟨refused, heq⟩
    exact absurd heq (readOn_accepts enabled track _ h refused)
  · next hoff =>
    obtain ⟨-, rfl⟩ := Prod.mk.inj (Reading.canGive_pure.mp h)
    exact ⟨fun _ => Bool.eq_false_iff.mpr hoff, fun _ => ⟨track, rfl⟩⟩

end Worker

/-! ### The backend -/

namespace DemuxBackend

variable {ρ : Type}

/-- Whether a track is enabled. -/
def marks (b : DemuxBackend ρ) (index : Nat) : Bool := Worker.isOn b.enabled index

/-- An order to the worker leaves the tracks and their marks alone. -/
theorem canGive_order {α : Type} {b : DemuxBackend ρ}
    {task : Worker ρ → Reading (Worker ρ × List Notice × Except SourceError α)}
    {outcome : Outcome (DemuxBackend ρ) α} (h : (b.order task).CanGive outcome) :
    outcome.after.tracks = b.tracks ∧ outcome.after.enabled = b.enabled ∧
      outcome.after.work.isSome = b.work.isSome ∧
      (outcome.result = .error notConnected ∧ b.work = none ∨
        ∃ worker input after, b.work = some (worker, input) ∧
          (task worker).CanGive (after, outcome.notices, outcome.result)) := by
  unfold order at h
  split at h
  · next hwork =>
    obtain rfl := Pull.canGive_done.mp h
    exact ⟨rfl, rfl, rfl, .inl ⟨rfl, hwork⟩⟩
  · next worker input hwork =>
    obtain ⟨⟨moved, after, notices, result⟩, htask, hdone⟩ := Pull.canGive_andThen h
    obtain rfl := Pull.canGive_done.mp hdone
    refine ⟨rfl, rfl, ?_, .inr ⟨worker, input, after, hwork, ?_⟩⟩
    · rw [hwork]
      rfl
    · exact Reading.canGive_of_requests htask

/-- A pull comes to what the worker came to, and the worker refuses only tracks without a mark. -/
theorem canGive_pull [FormatReader ρ Reading] {b : DemuxBackend ρ} {index : Nat}
    {outcome : Outcome (DemuxBackend ρ) (Option Buffer)} (h : (b.pull index).CanGive outcome) :
    outcome.result = .error notConnected ∧ b.work = none ∨
      ∃ result : Except PullFault (Option Buffer),
        outcome.result = result.mapError PullFault.toError ∧
        ((∃ refused, result = .error (.notEnabled refused)) ↔ b.marks index = false) := by
  refine (canGive_order h).2.2.2.imp_right ?_
  rintro ⟨worker, input, after, _, htask⟩
  obtain ⟨⟨after', result⟩, hpull, hdone⟩ := Reading.canGive_bind htask
  obtain ⟨-, hrest⟩ := Prod.mk.inj (Reading.canGive_pure.mp hdone)
  obtain ⟨-, hresult⟩ := Prod.mk.inj hrest
  exact ⟨result, hresult, Worker.pull_refused_iff hpull⟩

theorem setEnabled_cases (b : DemuxBackend ρ) (index : Nat) (mark : Bool) :
    index < b.enabled.length ∧
        b.setEnabled index mark = .ok { b with enabled := b.enabled.set index mark } () ∨
      b.enabled.length ≤ index ∧
        b.setEnabled index mark = .error b (.invalidStream (UInt32.ofNat index)) := by
  unfold setEnabled
  split
  · next h => exact .inl ⟨h, rfl⟩
  · next h => exact .inr ⟨Nat.le_of_not_lt h, rfl⟩

/-- A container that opens leaves a worker, and a mark for each of its tracks, none of them set. -/
theorem canGive_connect {opener : Reading (OpenedContainer ρ)} {total : Nat}
    {outcome : Outcome (DemuxBackend ρ) Unit} (h : (connect opener new total).CanGive outcome)
    (hresult : outcome.result = .ok ()) :
    (outcome.after.enabled = outcome.after.tracks.map fun _ => false) ∧
      outcome.after.work.isSome := by
  simp only [connect, new, Bool.false_eq_true, if_false] at h
  obtain ⟨⟨input, container⟩, _, hdone⟩ := Pull.canGive_andThen h
  obtain rfl := Pull.canGive_done.mp hdone
  unfold opened at hresult ⊢
  dsimp only at hresult ⊢
  split at hresult
  · cases hresult
  · exact ⟨rfl, rfl⟩

variable {σ : Type} [ByteSource σ]

/-- A connected backend takes orders, and every track has its mark. -/
structure IsReady (b : DemuxBackend ρ) : Prop where
  marked : b.enabled.length = b.tracks.length
  works : b.work.isSome

theorem ready_setEnabled {b : DemuxBackend ρ} (h : b.IsReady) (index : Nat) (mark : Bool) :
    (b.setEnabled index mark).after.IsReady := by
  rcases setEnabled_cases b index mark with ⟨_, hset⟩ | ⟨_, hset⟩
  · rw [hset]
    exact ⟨List.length_set.trans h.marked, h.works⟩
  · rw [hset]
    exact h

theorem ready_of_live {b : DemuxBackend Wav.Reader} (h : (Demux.engine σ).Live b) : b.IsReady := by
  induction h with
  | connected hcreate hconnect hresult =>
    obtain rfl := Except.ok.inj hcreate
    obtain ⟨hmarks, hworks⟩ := canGive_connect hconnect hresult
    exact ⟨by rw [hmarks, List.length_map], hworks⟩
  | operated _ h ih =>
    cases h with
    | enable h | disable h =>
      obtain rfl := Pull.canGive_done.mp h
      exact ready_setEnabled ih _ _
    | seek h | pull h =>
      obtain ⟨htracks, hmarks, hworks, _⟩ := canGive_order h
      exact ⟨by rw [htracks, hmarks, ih.marked], by rw [hworks, ih.works]⟩

/-- Setting a mark that there is changes this mark and no other. -/
theorem marks_setEnabled {b : DemuxBackend ρ} {index : Nat} {mark : Bool}
    (hresult : (b.setEnabled index mark).result = .ok ()) :
    (b.setEnabled index mark).after.marks = Function.update b.marks index mark := by
  rcases setEnabled_cases b index mark with ⟨hlt, hset⟩ | ⟨_, hset⟩
  · rw [hset]
    funext i
    show ((b.enabled.set index mark)[i]?).getD false = _
    by_cases hi : i = index
    · subst hi
      rw [Function.update_self, List.getElem?_set_self hlt]
      rfl
    · rw [Function.update_of_ne hi, List.getElem?_set_ne (Ne.symm hi)]
      rfl
  · rw [hset] at hresult
    cases hresult

/-- The engine that takes containers apart marks the tracks that it delivers. -/
theorem marks_engine : (Demux.engine σ).Marks DemuxBackend.marks := by
  have hset : ∀ {b : DemuxBackend Wav.Reader} {index : Nat} (mark : Bool),
      (Demux.engine σ).Live b → index < ((Demux.engine σ).catalog b).length →
      (b.setEnabled index mark).result = .ok () := by
    intro b index mark hlive hindex
    have htracks : index < b.tracks.length := by
      simpa [Demux.engine, catalog] using hindex
    rw [← (ready_of_live hlive).marked] at htracks
    rw [setEnabled, if_pos htracks]
    rfl
  constructor
  case fresh =>
    intro backend size outcome hcreate hconnect hresult index
    obtain rfl := Except.ok.inj hcreate
    rw [marks, Worker.isOn, (canGive_connect hconnect hresult).1, List.getElem?_map]
    cases outcome.after.tracks[index]? <;> rfl
  case formats =>
    intro b _ entry hentry
    obtain ⟨track, _, rfl⟩ := List.mem_map.mp hentry
    rfl
  case streams =>
    have htracks : ∀ (b : DemuxBackend Wav.Reader) (index : Nat) (mark : Bool),
        (b.setEnabled index mark).after.tracks = b.tracks := by
      intro b index mark
      rcases setEnabled_cases b index mark with ⟨_, hset⟩ | ⟨_, hset⟩
      · rw [hset]
        rfl
      · rw [hset]
        rfl
    intro b after call _ h
    show (after.tracks.map Track.toEntry).length = (b.tracks.map Track.toEntry).length
    cases h with
    | enable h | disable h =>
      obtain rfl := Pull.canGive_done.mp h
      rw [htracks]
    | seek h | pull h => rw [(canGive_order h).1]
  case enables =>
    intro b index format outcome hlive hindex h
    obtain rfl := Pull.canGive_done.mp h
    exact hset true hlive hindex
  case disables =>
    intro b index outcome hlive hindex h
    obtain rfl := Pull.canGive_done.mp h
    exact hset false hlive hindex
  case enable =>
    intro b index format outcome _ h hresult
    obtain rfl := Pull.canGive_done.mp h
    exact marks_setEnabled hresult
  case disable =>
    intro b index outcome _ h hresult
    obtain rfl := Pull.canGive_done.mp h
    exact marks_setEnabled hresult
  case seek =>
    intro b rate time outcome _ h
    funext index
    rw [marks, marks, (canGive_order h).2.1]
  case pull =>
    intro b index outcome _ h
    funext place
    rw [marks, marks, (canGive_order h).2.1]

end DemuxBackend
end PullStreams
