/-
Format readers that write down what they say.

`Recorded` adds a log of replies to a format reader and changes nothing else: a worker
over a recorded reader does what it does over the reader itself.  So `replies` tells
what a reader was asked and said in a run of a demultiplexer.

* `run_plain` — a run over recorded readers is the run over the readers themselves.
-/
import PullStreams.Demux.Demultiplexer

namespace PullStreams

/-- What a format reader said to one call. -/
inductive ReaderReply where
  | packet (p : Packet)
  | failed (e : DemuxError)
  | sought (result : Except DemuxError Unit)

/-- A format reader and what it said so far, oldest first. -/
structure Recorded (ρ : Type) where
  reader : ρ
  replies : List ReaderReply

namespace Recorded

variable {ρ : Type} [FormatReader ρ Id]

def remaining (r : Recorded ρ) : Nat := FormatReader.remaining r.reader

def next (r : Recorded ρ) : Fetched remaining r :=
  match (FormatReader.next r.reader).run with
  | .packet p after less => .packet p ⟨after, r.replies ++ [.packet p]⟩ less
  | .failed e after => .failed e ⟨after, r.replies ++ [.failed e]⟩

def seek (r : Recorded ρ) (time : ClockTime) : Recorded ρ × Except DemuxError Unit :=
  let (after, result) := (FormatReader.seek r.reader time).run
  (⟨after, r.replies ++ [.sought result]⟩, result)

instance : FormatReader (Recorded ρ) Id where
  remaining := remaining
  next := next
  seek := seek

theorem next_packet {r : Recorded ρ} {p : Packet} {after : ρ}
    {less : FormatReader.remaining after < FormatReader.remaining r.reader}
    (h : FormatReader.next r.reader = .packet p after less) :
    FormatReader.next r = .packet p ⟨after, r.replies ++ [.packet p]⟩ less := by
  show next r = _
  simp only [next, h]
  rfl

theorem next_failed {r : Recorded ρ} {e : DemuxError} {after : ρ}
    (h : FormatReader.next r.reader = .failed e after) :
    FormatReader.next r = .failed e ⟨after, r.replies ++ [.failed e]⟩ := by
  show next r = _
  simp only [next, h]
  rfl

theorem seek_of {r : Recorded ρ} {time : ClockTime} {after : ρ} {result : Except DemuxError Unit}
    (h : FormatReader.seek r.reader time = (after, result)) :
    FormatReader.seek r time = (⟨after, r.replies ++ [.sought result]⟩, result) := by
  show seek r time = _
  simp only [seek, h]
  rfl

end Recorded

namespace Worker

variable {ρ : Type} [FormatReader ρ Id] {w : Worker ρ} {enabled : List Bool} {track : Nat}

/-! ### Reading on, case by case -/

theorem readOn_front {front : Buffer × Worker ρ} (hfront : w.takeFront track = some front) :
    w.readOn enabled track = (front.2, .ok (some front.1)) := by
  rw [readOn, hfront]
  rfl

theorem readOn_ended (hfront : w.takeFront track = none) (hended : w.ended = true) :
    w.readOn enabled track = (w, .ok none) := by
  rw [readOn, hfront]
  simp only [hended, if_true]
  rfl

theorem readOn_packet {p : Packet} {after : ρ}
    {less : FormatReader.remaining after < FormatReader.remaining w.reader}
    (hfront : w.takeFront track = none) (hgoes : w.ended = false)
    (hnext : FormatReader.next w.reader = .packet p after less) :
    w.readOn enabled track = { w.keep enabled p with reader := after }.readOn enabled track := by
  rw [readOn, hfront]
  simp only [hgoes, Bool.false_eq_true, if_false, hnext]
  rfl

theorem readOn_failed {e : DemuxError} {after : ρ} (hfront : w.takeFront track = none)
    (hgoes : w.ended = false) (hnext : FormatReader.next w.reader = .failed e after) :
    w.readOn enabled track =
      if e.isEnd then ({ w with reader := after, ended := true }, .ok none)
      else ({ w with reader := after }, .error (.unreadable e)) := by
  rw [readOn, hfront]
  simp only [hgoes, Bool.false_eq_true, if_false, hnext]
  split
  · next hend => exact if_pos hend
  · next hend => exact if_neg hend

/-! ### Seeks, case by case -/

theorem seek_failed {position : Duration} {reader : ρ} {e : DemuxError}
    (h : FormatReader.seek w.reader (.ofDuration position) = (reader, .error e)) :
    w.seek position = ({ w with reader }, .error e) := by
  simp only [seek, h]
  rfl

theorem seek_done {position : Duration} {reader : ρ}
    (h : FormatReader.seek w.reader (.ofDuration position) = (reader, .ok ())) :
    w.seek position =
      ({ w with reader, queues := w.queues.map fun _ => [], ended := false }, .ok ()) := by
  simp only [seek, h]
  rfl

end Worker

/-! ### Without the log -/

namespace Worker

variable {ρ : Type}

/-- The worker over the reader itself. -/
def plain (w : Worker (Recorded ρ)) : Worker ρ :=
  { reader := w.reader.reader, tracks := w.tracks, queues := w.queues, ended := w.ended }

theorem plain_takeFront (w : Worker (Recorded ρ)) (track : Nat) :
    w.plain.takeFront track =
      (w.takeFront track).map fun front => (front.1, front.2.plain) := by
  have hqueues : w.plain.queues = w.queues := rfl
  simp only [takeFront, hqueues]
  split <;> rfl

theorem plain_keep (w : Worker (Recorded ρ)) (enabled : List Bool) (p : Packet) :
    (w.keep enabled p).plain = w.plain.keep enabled p := by
  have htracks : w.plain.tracks = w.tracks := rfl
  simp only [keep, htracks]
  split
  · rfl
  · split <;> rfl

variable [FormatReader ρ Id]

theorem plain_readOn (w : Worker (Recorded ρ)) (enabled : List Bool) (track : Nat) :
    w.plain.readOn enabled track =
      ((w.readOn enabled track).1.plain, (w.readOn enabled track).2) := by
  induction hn : FormatReader.remaining w.reader using Nat.strongRecOn generalizing w with
  | ind n ih =>
    have hfront := plain_takeFront w track
    cases htaken : w.takeFront track with
    | some front =>
      rw [htaken] at hfront
      rw [readOn_front htaken, readOn_front hfront]
    | none =>
      rw [htaken] at hfront
      cases hended : w.ended with
      | true =>
        have hended' : w.plain.ended = true := hended
        rw [readOn_ended htaken hended, readOn_ended hfront hended']
      | false =>
        have hgoes : w.plain.ended = false := hended
        cases hnext : (FormatReader.next w.plain.reader).run with
        | packet p after less =>
          have hless : FormatReader.remaining after < FormatReader.remaining w.reader := less
          rw [readOn_packet htaken hended (Recorded.next_packet hnext),
            readOn_packet hfront hgoes hnext, ← plain_keep]
          let kept : Worker (Recorded ρ) :=
            { w.keep enabled p with reader := ⟨after, w.reader.replies ++ [.packet p]⟩ }
          exact ih (FormatReader.remaining after) (hn ▸ hless) kept rfl
        | failed e after =>
          rw [readOn_failed htaken hended (Recorded.next_failed hnext),
            readOn_failed hfront hgoes hnext]
          split <;> rfl

theorem plain_pull (w : Worker (Recorded ρ)) (enabled : List Bool) (track : Nat) :
    w.plain.pull enabled track =
      ((w.pull enabled track).1.plain, (w.pull enabled track).2) := by
  unfold pull
  split
  · exact plain_readOn (w.clearDisabled enabled) enabled track
  · rfl

theorem plain_seek (w : Worker (Recorded ρ)) (position : Duration) :
    w.plain.seek position = ((w.seek position).1.plain, (w.seek position).2) := by
  cases hsought : (FormatReader.seek w.plain.reader (.ofDuration position)).run with
  | mk after result =>
    have hrecorded := Recorded.seek_of hsought
    cases result with
    | error e =>
      rw [seek_failed hsought, seek_failed hrecorded]
      rfl
    | ok _ =>
      rw [seek_done hsought, seek_done hrecorded]
      rfl

end Worker

namespace Demultiplexer

variable {ρ : Type}

/-- The demultiplexer over a reader that has written down nothing yet. -/
def recorded (d : Demultiplexer ρ) : Demultiplexer (Recorded ρ) :=
  { worker := { d.worker with reader := ⟨d.worker.reader, []⟩ }, enabled := d.enabled }

/-- The demultiplexer over the reader itself. -/
def plain (d : Demultiplexer (Recorded ρ)) : Demultiplexer ρ :=
  { worker := d.worker.plain, enabled := d.enabled }

variable [FormatReader ρ Id]

/-- What the reader says while a list of calls is made. -/
def replies (d : Demultiplexer ρ) (calls : List DemuxCall) : List ReaderReply :=
  (d.recorded.run calls).1.worker.reader.replies

theorem run_cons (d : Demultiplexer ρ) (c : DemuxCall) (calls : List DemuxCall) :
    d.run (c :: calls) = (((d.call c).1.run calls).1, (d.call c).2 :: ((d.call c).1.run calls).2) :=
  rfl

theorem run_append (d : Demultiplexer ρ) (first second : List DemuxCall) :
    (d.run (first ++ second)).1 = ((d.run first).1.run second).1 := by
  induction first generalizing d with
  | nil => rfl
  | cons c first ih => exact ih (d.call c).1

theorem plain_call (d : Demultiplexer (Recorded ρ)) (c : DemuxCall) :
    d.plain.call c = ((d.call c).1.plain, (d.call c).2) := by
  cases c with
  | enable track => rfl
  | disable track => rfl
  | pull track =>
    have hpull := Worker.plain_pull d.worker d.enabled track
    show (({ d.plain with worker := (d.worker.plain.pull d.enabled track).1 } : Demultiplexer ρ),
      DemuxAnswer.pulled (d.worker.plain.pull d.enabled track).2) = _
    rw [hpull]
    rfl
  | seek position =>
    have hseek := Worker.plain_seek d.worker position
    show (({ d.plain with worker := (d.worker.plain.seek position).1 } : Demultiplexer ρ),
      DemuxAnswer.sought (d.worker.plain.seek position).2) = _
    rw [hseek]
    rfl

/-- A run over a recorded reader is the run over the reader itself. -/
theorem plain_run (d : Demultiplexer (Recorded ρ)) (calls : List DemuxCall) :
    d.plain.run calls = ((d.run calls).1.plain, (d.run calls).2) := by
  induction calls generalizing d with
  | nil => rfl
  | cons c calls ih => rw [run_cons, run_cons, plain_call, ih]

end Demultiplexer
end PullStreams
