/-
What readers read.

A container is read in two ways: directly in its byte source, and through requests
that a feeder answers from the byte source in a thread of its own.  Both keep to one
rule (`Answers`): a read that succeeds gives exactly the bytes at the position, as many
as were asked for and are there, and moves behind them; a move leads exactly where it
should, if there is such a position; what fails moves nothing.  Hence both are, but for
calls that fail, the reader that has the contents at hand (`ideal`), and agree with
each other.

* `SourceReader.call_answers`, `RequestReader.call_answers` — one call;
* `faithful_callAll` — any calls, from what one call does;
* `Faithful.ideal` — the calls that succeed determine their replies and the position;
* `readers_faithful` — all of it, for both readers and however the threads take turns.
-/
import PullStreams.Proofs.Feeder.Exchange
import PullStreams.Proofs.Reading.Holding
import PullStreams.Reading.RequestReader
import PullStreams.Reading.SourceReader

namespace PullStreams

/-! ### Calls of readers -/

/-- A call of a reader. -/
inductive InputCall where
  | read (count : Nat)
  | seek (target : SeekTarget)
  deriving DecidableEq, Repr

inductive InputReply where
  | read (result : Except IoError Bytes)
  | sought (result : Except IoError Nat)

def InputReply.isOk : InputReply → Bool
  | .read result => result.isOk
  | .sought result => result.isOk

namespace SeekTarget

/-- The integer that a move is for. -/
def destination (position length : Nat) : SeekTarget → Int
  | start offset => offset
  | current delta => position + delta
  | fromEnd delta => length + delta

/-- Offsets from the start are positions. -/
def IsProper : SeekTarget → Prop
  | start offset => offset < wordCount
  | _ => True

theorem resolve_eq {target : SeekTarget} (h : target.IsProper) (position length : Nat) :
    target.resolve position length =
      if 0 ≤ target.destination position length ∧ target.destination position length < wordCount
      then .ok (target.destination position length).toNat else .error outOfRange := by
  cases target with
  | start offset =>
    have hword : offset < wordCount := h
    have hrange : (0 : Int) ≤ offset ∧ (offset : Int) < wordCount := by omega
    exact (if_pos hrange).symm
  | current delta => rfl
  | fromEnd delta => rfl

end SeekTarget

/-- Whether a call is one that can be made. -/
def InputCall.IsProper : InputCall → Prop
  | .read _ => True
  | .seek target => target.IsProper

/-- The computation that makes a list of calls and collects the replies. -/
def Reading.ofCalls : List InputCall → Reading (List InputReply)
  | [] => .done []
  | .read count :: calls =>
    .read count fun result => (ofCalls calls).andThen fun replies => .done (.read result :: replies)
  | .seek target :: calls =>
    .seek target fun result =>
      (ofCalls calls).andThen fun replies => .done (.sought result :: replies)

/-- Makes a list of calls of a reader that is given by what one call does. -/
def callAll {φ : Type} (call : φ → InputCall → φ × InputReply) (reader : φ) :
    List InputCall → φ × List InputReply
  | [] => (reader, [])
  | c :: calls =>
    let (reader, reply) := call reader c
    let (reader, replies) := callAll call reader calls
    (reader, reply :: replies)

/-! ### The rule -/

/-- What a reader of `contents` may reply to a call at a position, and where it stands then.  Reads
may fail, for some causes. -/
inductive Answers (contents : Bytes) (cause : IoError → Prop) (position : Nat) :
    InputCall → InputReply → Nat → Prop
  | read {count : Nat} :
      Answers contents cause position (.read count) (.read (.ok (contents.slice position count)))
        (position + (contents.slice position count).length)
  | readFailed {count : Nat} {e : IoError} (hcause : cause e) :
      Answers contents cause position (.read count) (.read (.error e)) position
  | sought {target : SeekTarget} {offset : Nat}
      (hoffset : (offset : Int) = target.destination position contents.length)
      (hword : offset < wordCount) :
      Answers contents cause position (.seek target) (.sought (.ok offset)) offset
  | notSought {target : SeekTarget}
      (hnowhere : target.destination position contents.length < 0 ∨
        (wordCount : Int) ≤ target.destination position contents.length) :
      Answers contents cause position (.seek target) (.sought (.error SeekTarget.outOfRange))
        position

/-- Calls with their replies, each as the rule has it, from a position to another one. -/
inductive Faithful (contents : Bytes) (cause : IoError → Prop) :
    Nat → List InputCall → List InputReply → Nat → Prop
  | nil {position : Nat} : Faithful contents cause position [] [] position
  | cons {position after last : Nat} {c : InputCall} {reply : InputReply}
      {calls : List InputCall} {replies : List InputReply}
      (hcall : Answers contents cause position c reply after)
      (hrest : Faithful contents cause after calls replies last) :
      Faithful contents cause position (c :: calls) (reply :: replies) last

section

variable {contents : Bytes} {cause : IoError → Prop} {position last : Nat}

theorem advance_slice (hsize : contents.length < wordCount) (hposition : position < wordCount)
    (count : Nat) : advance position (contents.slice position count).length =
      position + (contents.slice position count).length := by
  refine advance_of_lt ?_
  rw [Bytes.length_slice]
  omega

/-- A position that a call leads to is a position. -/
theorem Answers.inWords {c : InputCall} {reply : InputReply}
    (h : Answers contents cause position c reply last) (hsize : contents.length < wordCount)
    (hposition : position < wordCount) : last < wordCount := by
  cases h with
  | read =>
    rw [Bytes.length_slice]
    omega
  | readFailed _ | notSought _ => exact hposition
  | sought _ hword => exact hword

/-- A move answers as the rule has it. -/
theorem answers_seek (contents : Bytes) (cause : IoError → Prop) (position : Nat)
    {target : SeekTarget} (htarget : target.IsProper) :
    Answers contents cause position (.seek target)
      (.sought (target.resolve position contents.length))
      (match target.resolve position contents.length with
        | .ok offset => offset
        | .error _ => position) := by
  rw [SeekTarget.resolve_eq htarget]
  split
  · next hrange => exact .sought (by omega) (by omega)
  · next hout => exact .notSought (by omega)

/-- A reader whose every call keeps to the rule, keeps to it in any calls. -/
theorem faithful_callAll {φ : Type} {call : φ → InputCall → φ × InputReply} (place : φ → Nat)
    {P : φ → Prop} (hcall : ∀ reader c, P reader → c.IsProper →
      Answers contents cause (place reader) c (call reader c).2 (place (call reader c).1) ∧
        P (call reader c).1) {reader : φ} (hreader : P reader) {calls : List InputCall}
    (hcalls : ∀ c ∈ calls, c.IsProper) :
    Faithful contents cause (place reader) calls (callAll call reader calls).2
      (place (callAll call reader calls).1) := by
  induction calls generalizing reader with
  | nil => exact .nil
  | cons c calls ih =>
    obtain ⟨hanswers, hafter⟩ := hcall reader c hreader (hcalls c List.mem_cons_self)
    exact .cons hanswers (ih hafter fun c hc => hcalls c (List.mem_cons_of_mem _ hc))

/-! ### The reader that has the contents at hand -/

/-- A call of the reader that has the contents at hand and never fails. -/
def ideal (contents : Bytes) (position : Nat) : InputCall → Nat × InputReply
  | .read count =>
    (position + (contents.slice position count).length, .read (.ok (contents.slice position count)))
  | .seek target =>
    let offset := (target.destination position contents.length).toNat
    (offset, .sought (.ok offset))

/-- The calls that succeeded. -/
def succeeded (calls : List InputCall) (replies : List InputReply) : List InputCall :=
  ((calls.zip replies).filter (·.2.isOk)).map Prod.fst

/-- A call that succeeds does what it does with the contents at hand; one that fails does
nothing. -/
theorem Answers.ideal {c : InputCall} {reply : InputReply}
    (h : Answers contents cause position c reply last) :
    if reply.isOk then ideal contents position c = (last, reply) else last = position := by
  cases h with
  | read | readFailed _ | notSought _ => rfl
  | sought hoffset _ =>
    show PullStreams.ideal _ _ _ = _
    rw [PullStreams.ideal, ← hoffset]
    rfl

/-- The calls that succeeded determine what was replied to them, and where the reader is. -/
theorem Faithful.ideal {calls : List InputCall} {replies : List InputReply}
    (h : Faithful contents cause position calls replies last) :
    callAll (ideal contents) position (succeeded calls replies) =
      (last, replies.filter (·.isOk)) := by
  induction h with
  | nil => rfl
  | @cons position after last c reply calls replies hcall _ ih =>
    have hideal := hcall.ideal
    cases hok : reply.isOk with
    | true =>
      have hsucceeded : succeeded (c :: calls) (reply :: replies) = c :: succeeded calls replies := by
        simp [succeeded, hok]
      rw [hok, if_pos rfl] at hideal
      rw [hsucceeded, callAll, hideal, List.filter_cons_of_pos hok]
      simp only [ih]
    | false =>
      have hfailed : succeeded (c :: calls) (reply :: replies) = succeeded calls replies := by
        simp [succeeded, hok]
      have hnot : ¬reply.isOk = true := by rw [hok]; decide
      rw [hok] at hideal
      obtain rfl : after = position := hideal
      rw [hfailed, List.filter_cons_of_neg hnot, ih]

end

/-! ### Reading directly -/

namespace SourceReader

variable {σ α γ : Type} [ByteSource σ] {contents : Bytes} {stands : σ → Nat → Prop}
  {fault : IoError → Prop}

/-- A computation that goes on with another is run by running the two in turn. -/
theorem run_andThen (x : Reading α) (f : α → Reading γ) (r : SourceReader σ) :
    run (x.andThen f) r = run (f (run x r).2) (run x r).1 := by
  induction x generalizing r with
  | done a => rfl
  | read count resume ih => exact ih (r.read count).2 (r.read count).1
  | seek target resume ih => exact ih (r.seek target).2 (r.seek target).1

def call (r : SourceReader σ) : InputCall → SourceReader σ × InputReply
  | .read count => ((r.read count).1, .read (r.read count).2)
  | .seek target => ((r.seek target).1, .sought (r.seek target).2)

theorem run_ofCalls (r : SourceReader σ) (calls : List InputCall) :
    run (.ofCalls calls) r = callAll call r calls := by
  induction calls generalizing r with
  | nil => rfl
  | cons c calls ih =>
    cases c with
    | read count =>
      have hrest := run_andThen (.ofCalls calls)
        (fun replies => .done (.read (r.read count).2 :: replies)) (r.read count).1
      rw [ih] at hrest
      exact hrest
    | seek target =>
      have hrest := run_andThen (.ofCalls calls)
        (fun replies => .done (.sought (r.seek target).2 :: replies)) (r.seek target).1
      rw [ih] at hrest
      exact hrest

/-- The reader reads a source that holds `contents`. -/
structure IsOver (contents : Bytes) (stands : σ → Nat → Prop) (r : SourceReader σ) : Prop where
  source : ∃ place, stands r.source place
  length : r.length = contents.length
  position : r.position < wordCount

/-- A read past the reader's length gives nothing.  Any other one gives what the source holds at the
position, as much as was asked for: the length plays no part in it. -/
theorem read_holds (h : ByteSource.Holds contents stands fault) {r : SourceReader σ}
    (hsource : ∃ place, stands r.source place) (count : Nat) :
    (∃ place, stands (r.read count).1.source place) ∧ (r.read count).1.length = r.length ∧
      match (r.read count).2 with
      | .ok bytes =>
        bytes = (if r.length ≤ r.position then [] else contents.slice r.position count) ∧
          (r.read count).1.position =
            if r.length ≤ r.position then r.position else advance r.position bytes.length
      | .error e => fault e ∧ (r.read count).1.position = r.position := by
  obtain ⟨place, hplace⟩ := hsource
  unfold read
  split
  · exact ⟨⟨place, hplace⟩, rfl, rfl, rfl⟩
  · split
    · next source e hseek =>
      obtain ⟨hfault, hstays⟩ := h.notSought hplace hseek
      exact ⟨hstays, rfl, hfault, rfl⟩
    · next source hseek =>
      obtain ⟨hstays, hread⟩ := ByteSource.readFully_holds h (h.sought hplace hseek) count
      split
      · next source' e hresult =>
        rw [hresult] at hstays hread
        exact ⟨hstays, rfl, hread, rfl⟩
      · next source' bytes hresult =>
        rw [hresult] at hstays hread
        exact ⟨hstays, rfl, hread, rfl⟩

theorem read_answers (h : ByteSource.Holds contents stands fault)
    (hsize : contents.length < wordCount) {r : SourceReader σ} (hr : r.IsOver contents stands)
    (count : Nat) :
    Answers contents fault r.position (.read count) (.read (r.read count).2)
        (r.read count).1.position ∧
      (∃ place, stands (r.read count).1.source place) ∧ (r.read count).1.length = r.length := by
  obtain ⟨hstays, hlength, hread⟩ := read_holds h hr.source count
  refine ⟨?_, hstays, hlength⟩
  cases hresult : (r.read count).2 with
  | error e =>
    rw [hresult] at hread
    obtain ⟨hfault, hposition⟩ := hread
    rw [hposition]
    exact .readFailed hfault
  | ok bytes =>
    rw [hresult] at hread
    obtain ⟨hbytes, hposition⟩ := hread
    have hslice : bytes = contents.slice r.position count := by
      rw [hbytes]
      split
      · next hpast => exact (Bytes.slice_of_length_le (hr.length ▸ hpast) count).symm
      · rfl
    have hmoved : (r.read count).1.position = r.position + bytes.length := by
      rw [hposition]
      split
      · next hpast => rw [hslice, Bytes.slice_of_length_le (hr.length ▸ hpast) count]; rfl
      · rw [hslice, advance_slice hsize hr.position]
    rw [hmoved, hslice]
    exact .read

theorem call_answers (h : ByteSource.Holds contents stands fault)
    (hsize : contents.length < wordCount) {r : SourceReader σ} {c : InputCall}
    (hr : r.IsOver contents stands) (hc : c.IsProper) :
    Answers contents fault r.position c (r.call c).2 (r.call c).1.position ∧
      (r.call c).1.IsOver contents stands := by
  have hanswers : Answers contents fault r.position c (r.call c).2 (r.call c).1.position ∧
      (∃ place, stands (r.call c).1.source place) ∧ (r.call c).1.length = r.length := by
    cases c with
    | read count => exact read_answers h hsize hr count
    | seek target =>
      have hseek := answers_seek contents fault r.position hc
      simp only [call, seek, hr.length]
      split
      · next e hresult =>
        rw [hresult] at hseek
        exact ⟨hseek, hr.source, hr.length⟩
      · next offset hresult =>
        rw [hresult] at hseek
        exact ⟨hseek, hr.source, rfl⟩
  obtain ⟨hrule, hsource, hlength⟩ := hanswers
  exact ⟨hrule, hsource, hlength.trans hr.length, hrule.inWords hsize hr.position⟩

end SourceReader

/-! ### Reading through requests -/

namespace Feeder

variable {σ : Type} [ByteSource σ] {contents : Bytes} {stands : σ → Nat → Prop}
  {fault : IoError → Prop}

/-- Cutting a request to the contents cuts off nothing that is there. -/
theorem slice_clamp (contents : Bytes) (request : ReadRequest) :
    contents.slice request.offset (request.clamp contents.length) =
      contents.slice request.offset request.size := by
  unfold ReadRequest.clamp
  split
  · next hpast => rw [Bytes.slice_of_length_le hpast, Bytes.slice_of_length_le hpast]
  · rw [Bytes.slice_eq_slice_iff]
    omega

theorem load_holds (h : ByteSource.Holds contents stands fault) {f : Feeder σ}
    (hsource : ∃ place, stands f.source place) (offset size : Nat) :
    (∃ place, stands (f.load offset size).1.source place) ∧
      (f.load offset size).1.total = f.total ∧
      match (f.load offset size).2 with
      | .ok got => (f.load offset size).1.buffer.take got = contents.slice offset size
      | .error e => fault e := by
  obtain ⟨place, hplace⟩ := hsource
  -- The shared buffer has room enough, and only its front is read into.
  have hroom := length_take_grown f.buffer size
  simp only [load]
  split
  · next source e hseek =>
    obtain ⟨hfault, hstays⟩ := h.notSought hplace hseek
    exact ⟨hstays, rfl, hfault⟩
  · next source hseek =>
    obtain ⟨hstays, hfill⟩ :=
      ByteSource.fill_holds h (h.sought hplace hseek) ((grown f.buffer size).take size)
    refine ⟨hstays, rfl, ?_⟩
    dsimp only
    split
    · next got hresult =>
      rw [hresult, hroom] at hfill
      obtain ⟨hgot, hfront⟩ := hfill
      have hfits : got ≤ (ByteSource.fill source ((grown f.buffer size).take size)).2.1.length := by
        rw [ByteSource.length_fill, hroom, hgot, Bytes.length_slice]
        exact Nat.min_le_left ..
      rw [List.take_append_of_le_length hfits, hfront]
    · next e hresult =>
      rw [hresult] at hfill
      exact hfill

/-- Why a feeder may fail to answer: the source fails, or there is no memory for the bytes. -/
def MayFail (contents : Bytes) (fault : IoError → Prop) : Prop :=
  (∃ e, fault e) ∨ allocationLimit ≤ contents.length

/-- A request is answered with the bytes that it is for, cut to the feeder's total. -/
theorem answer_clamped (h : ByteSource.Holds contents stands fault) {f : Feeder σ}
    (hsource : ∃ place, stands f.source place) (request : ReadRequest) :
    (∃ place, stands (f.answer request).1.source place) ∧
      (f.answer request).1.total = f.total ∧
      ((f.answer request).2 = .data (contents.slice request.offset (request.clamp f.total)) ∨
        (f.answer request).2 = .failed ∧
          ((∃ e, fault e) ∨ allocationLimit ≤ request.clamp f.total)) := by
  simp only [answer]
  set size := request.clamp f.total
  split
  · next hnothing =>
    refine ⟨hsource, rfl, .inl ?_⟩
    rw [hnothing]
    rfl
  · split
    · next hmemory => exact ⟨hsource, rfl, .inr ⟨rfl, .inr hmemory.2⟩⟩
    · obtain ⟨hstays, hsame, hload⟩ := load_holds h hsource request.offset size
      split
      · next f' e hresult =>
        rw [hresult] at hstays hsame hload
        exact ⟨hstays, hsame, .inr ⟨rfl, .inl ⟨e, hload⟩⟩⟩
      · next f' got hresult =>
        rw [hresult] at hstays hsame hload
        dsimp only
        refine ⟨?_, ?_, .inl (congrArg Chunk.data hload)⟩
        · split <;> exact hstays
        · split <;> exact hsame

/-- Cut to all that there is, it is not cut. -/
theorem answer_holds (h : ByteSource.Holds contents stands fault) {f : Feeder σ}
    (hsource : ∃ place, stands f.source place) (htotal : f.total = contents.length)
    (request : ReadRequest) :
    (∃ place, stands (f.answer request).1.source place) ∧
      (f.answer request).1.total = f.total ∧
      ((f.answer request).2 = .data (contents.slice request.offset request.size) ∨
        (f.answer request).2 = .failed ∧ MayFail contents fault) := by
  obtain ⟨hstays, hsame, hanswer⟩ := answer_clamped h hsource request
  rw [htotal, slice_clamp] at hanswer
  refine ⟨hstays, hsame, hanswer.imp_right fun ⟨hfailed, hcause⟩ => ⟨hfailed, ?_⟩⟩
  refine hcause.imp_right fun hlarge => Nat.le_trans hlarge ?_
  unfold ReadRequest.clamp
  split <;> omega

end Feeder

namespace RequestReader

variable {σ α γ : Type} [ByteSource σ] {contents : Bytes} {stands : σ → Nat → Prop}
  {fault : IoError → Prop}

/-- A computation that goes on with another is served by serving the two in turn. -/
theorem serve_run_andThen (x : Reading α) (k : α → Reading γ) (f : Feeder σ) (r : RequestReader) :
    f.serve (run (x.andThen k) r) =
      (f.serve (run x r)).1.serve
        (run (k (f.serve (run x r)).2.2) (f.serve (run x r)).2.1) := by
  induction x generalizing f r with
  | done a => rfl
  | read count resume ih =>
    show f.serve ((r.read count).andThen fun a => run ((resume a.2).andThen k) a.1) = _
    rw [Feeder.serve_andThen, ih]
    show _ = (f.serve ((r.read count).andThen fun a => run (resume a.2) a.1)).1.serve _
    simp only [run, Feeder.serve_andThen]
  | seek target resume ih => exact ih (r.seek target).2 f (r.seek target).1

/-- A call of a reader whose requests the feeder answers. -/
def call (served : Feeder σ × RequestReader) :
    InputCall → (Feeder σ × RequestReader) × InputReply
  | .read count =>
    let (feeder, reader, result) := served.1.serve (served.2.read count)
    ((feeder, reader), .read result)
  | .seek target => ((served.1, (served.2.seek target).1), .sought (served.2.seek target).2)

theorem serve_ofCalls (f : Feeder σ) (r : RequestReader) (calls : List InputCall) :
    f.serve (run (.ofCalls calls) r) =
      ((callAll call (f, r) calls).1.1, (callAll call (f, r) calls).1.2,
        (callAll call (f, r) calls).2) := by
  induction calls generalizing f r with
  | nil => rfl
  | cons c calls ih =>
    cases c with
    | read count =>
      show f.serve ((r.read count).andThen fun a => run ((Reading.ofCalls calls).andThen
        fun replies => .done (.read a.2 :: replies)) a.1) = _
      rw [Feeder.serve_andThen, serve_run_andThen, ih]
      rfl
    | seek target =>
      have hrest := serve_run_andThen (.ofCalls calls)
        (fun replies => .done (.sought (r.seek target).2 :: replies)) f (r.seek target).1
      rw [ih] at hrest
      exact hrest

/-- The reader's requests are answered from a source that holds `contents`. -/
structure IsOver (contents : Bytes) (stands : σ → Nat → Prop)
    (served : Feeder σ × RequestReader) : Prop where
  source : ∃ place, stands served.1.source place
  total : served.1.total = contents.length
  length : served.2.length = contents.length
  position : served.2.position < wordCount

theorem read_answers (h : ByteSource.Holds contents stands fault)
    (hsize : contents.length < wordCount) {served : Feeder σ × RequestReader}
    (hserved : IsOver contents stands served) (count : Nat) :
    Answers contents (fun _ => Feeder.MayFail contents fault) served.2.position (.read count)
        (call served (.read count)).2 (call served (.read count)).1.2.position ∧
      (∃ place, stands (call served (.read count)).1.1.source place) ∧
      (call served (.read count)).1.1.total = served.1.total ∧
      (call served (.read count)).1.2.length = served.2.length := by
  obtain ⟨f, r⟩ := served
  by_cases hcount : count = 0
  · -- A read of nothing asks for nothing.
    subst hcount
    have hnothing : Answers contents (fun _ => Feeder.MayFail contents fault) r.position (.read 0)
        (.read (.ok (contents.slice r.position 0)))
        (r.position + (contents.slice r.position 0).length) := .read
    exact ⟨hnothing, hserved.source, rfl, rfl⟩
  · obtain ⟨hstays, htotal, hanswer⟩ :=
      Feeder.answer_holds h hserved.source hserved.total ⟨r.position, count⟩
    have hcall : call (f, r) (.read count) =
        (((f.answer ⟨r.position, count⟩).1,
          (r.receive ⟨r.position, count⟩ (some (f.answer ⟨r.position, count⟩).2)).1),
          .read (r.receive ⟨r.position, count⟩ (some (f.answer ⟨r.position, count⟩).2)).2) := by
      simp only [call, read, if_neg hcount, Feeder.serve_ask]
      rfl
    rw [hcall]
    rcases hanswer with hdata | ⟨hfailed, hcause⟩
    · have htaken : (contents.slice r.position count).take count = contents.slice r.position count :=
        List.take_of_length_le (by rw [Bytes.length_slice]; exact Nat.min_le_left ..)
      have hmoved := advance_slice hsize hserved.position count
      rw [hdata]
      simp only [receive, htaken]
      rw [hmoved]
      exact ⟨.read, hstays, htotal, trivial⟩
    · rw [hfailed]
      exact ⟨.readFailed hcause, hstays, htotal, rfl⟩

theorem call_answers (h : ByteSource.Holds contents stands fault)
    (hsize : contents.length < wordCount) {served : Feeder σ × RequestReader} {c : InputCall}
    (hserved : IsOver contents stands served) (hc : c.IsProper) :
    Answers contents (fun _ => Feeder.MayFail contents fault) served.2.position c
        (call served c).2 (call served c).1.2.position ∧
      IsOver contents stands (call served c).1 := by
  have hanswers : Answers contents (fun _ => Feeder.MayFail contents fault) served.2.position c
        (call served c).2 (call served c).1.2.position ∧
      (∃ place, stands (call served c).1.1.source place) ∧
      (call served c).1.1.total = served.1.total ∧
      (call served c).1.2.length = served.2.length := by
    cases c with
    | read count => exact read_answers h hsize hserved count
    | seek target =>
      have hseek :=
        answers_seek contents (fun _ => Feeder.MayFail contents fault) served.2.position hc
      simp only [call, seek, hserved.length]
      split
      · next e hresult =>
        rw [hresult] at hseek
        exact ⟨hseek, hserved.source, trivial, hserved.length⟩
      · next offset hresult =>
        rw [hresult] at hseek
        exact ⟨hseek, hserved.source, trivial, rfl⟩
  obtain ⟨hrule, hsource, htotal, hlength⟩ := hanswers
  exact ⟨hrule, hsource, htotal.trans hserved.total, hlength.trans hserved.length,
    hrule.inWords hsize hserved.position⟩

end RequestReader

/-! ### Both readers -/

/-- Over sources that hold the same contents, both ways of reading keep to the rule, whatever is
called and however the reader and the feeder take turns; a read fails only because the source failed
or memory was short; and where the same calls succeed, the bytes and positions are the same. -/
theorem readers_faithful {σ : Type} [ByteSource σ] {contents : Bytes} {stands : σ → Nat → Prop}
    {fault : IoError → Prop} (h : ByteSource.Holds contents stands fault)
    (hsize : contents.length < wordCount) {r : SourceReader σ} (hr : r.IsOver contents stands)
    {f : Feeder σ} {q : RequestReader} (hq : RequestReader.IsOver contents stands (f, q))
    (hsame : r.position = q.position) {calls requested : List InputCall}
    (hcalls : ∀ c ∈ calls, c.IsProper) (hrequested : ∀ c ∈ requested, c.IsProper) :
    Faithful contents fault r.position calls (SourceReader.run (.ofCalls calls) r).2
        (SourceReader.run (.ofCalls calls) r).1.position ∧
      ∃ last replies,
        Faithful contents (fun _ => Feeder.MayFail contents fault) q.position requested replies
          last.position ∧
        (∀ moves,
          (∀ a, ((Exchange.start (RequestReader.run (.ofCalls requested) q) f).run moves).result? =
            some a → a = (last, replies)) ∧
          ∃ more, ((Exchange.start (RequestReader.run (.ofCalls requested) q) f).run
            (moves ++ more)).result? = some (last, replies)) ∧
        (succeeded calls (SourceReader.run (.ofCalls calls) r).2 = succeeded requested replies →
          (SourceReader.run (.ofCalls calls) r).2.filter (·.isOk) = replies.filter (·.isOk) ∧
            (SourceReader.run (.ofCalls calls) r).1.position = last.position) := by
  have hdirect : Faithful contents fault r.position calls (SourceReader.run (.ofCalls calls) r).2
      (SourceReader.run (.ofCalls calls) r).1.position := by
    rw [SourceReader.run_ofCalls]
    exact faithful_callAll SourceReader.position
      (fun _ _ => SourceReader.call_answers h hsize) hr hcalls
  have hserved := faithful_callAll (fun served : Feeder σ × RequestReader => served.2.position)
    (fun _ _ => RequestReader.call_answers h hsize) hq hrequested
  refine ⟨hdirect, (callAll RequestReader.call (f, q) requested).1.2,
    (callAll RequestReader.call (f, q) requested).2, hserved, fun moves => ?_, fun hagree => ?_⟩
  · have hresult := Exchange.result_run (RequestReader.run (.ofCalls requested) q) f moves
    rwa [RequestReader.serve_ofCalls] at hresult
  · have hfirst := hdirect.ideal
    rw [hagree, hsame, hserved.ideal] at hfirst
    obtain ⟨hlast, hreplies⟩ := Prod.mk.inj hfirst
    exact ⟨hreplies.symm, hlast.symm⟩

namespace Sketch

/-- Four bytes from a source that gives one, is interrupted, fails, and then gives what there is. -/
def hesitant : ScriptedSource :=
  { ScriptedSource.ofContents #[10, 20, 30, 40] with
    script := [.atMost 1, .fails (.custom .interrupted "again"), .fails (.custom .timedOut "late")] }

theorem hesitant_standsAt :
    ScriptedSource.StandsAt [10, 20, 30, 40] (· = .custom .timedOut "late") hesitant 0 where
  contents := rfl
  position := rfl
  isOpen := rfl
  some_read := by simp [hesitant]
  some_chunk := by simp [hesitant, ScriptedSource.ofContents]
  fault_seek := by simp [hesitant, ScriptedSource.ofContents]
  fault_read := by simp [hesitant, ScriptedSource.ofContents]
  fault_script := by simp [hesitant, IoError.isInterrupted, IoError.kind]

/-- A read that fails, the same read again, and moves before the first byte and past the last
one. -/
def retrying : List InputCall :=
  [.read 3, .read 3, .seek (.current (-4)), .seek (.fromEnd (-1)), .read 5, .seek (.start 100),
    .read 1]

theorem readers_faithful_retrying :
    (SourceReader.run (.ofCalls retrying) (.ofSource hesitant 4)).1.position = 100 ∧
      ∃ replies : List InputReply, replies.map InputReply.isOk =
          [false, true, false, true, true, true, true] ∧
        Faithful [10, 20, 30, 40] (· = .custom .timedOut "late") 0 retrying replies 100 := by
  have hproper : ∀ c ∈ retrying, c.IsProper := by
    simp [retrying, InputCall.IsProper, SeekTarget.IsProper, wordCount]
  have hfaithful := (readers_faithful (ScriptedSource.holds _ _) (by decide)
    (r := .ofSource hesitant 4) ⟨⟨0, hesitant_standsAt⟩, rfl, by decide⟩
    (f := .ofSource hesitant 4) (q := .ofLength 4)
    ⟨⟨0, hesitant_standsAt⟩, rfl, rfl, by decide⟩ rfl hproper hproper).1
  have hposition : (SourceReader.run (.ofCalls retrying)
      (.ofSource hesitant 4)).1.position = 100 := by decide +kernel
  rw [hposition] at hfaithful
  exact ⟨hposition, _, by decide +kernel, hfaithful⟩

end Sketch
end PullStreams
