/-
What becomes of the packets that a demultiplexer reads.

While a track stays enabled and no seek succeeds, its pulls give and its queue holds all
packets of the track that were read, each once and in order, whatever is done with the
other tracks in between.  A pull that gives nothing has found the container ended and
the queue empty, and then it stays like that until a seek succeeds.

* `Worker.Reads` — what a pull does to the log of a recorded reader and to the queues;
* `Demultiplexer.run_buffers` — the sum of what was given and what waits, over a run;
* `Worker.IsDrained` — the invariant of a track that gave nothing;
* `packets_lossless` — both together, for every run of a demultiplexer.
-/
import Mathlib.Data.List.Permutation
import PullStreams.Demux.Script
import PullStreams.Proofs.Demux.Recorded

namespace PullStreams

namespace Track

/-- When a number of ticks have passed on the clock of a track.  Where there is no clock, no time
passes. -/
def timeAt (t : Track) (ticks : Nat) : Duration :=
  t.timeBase.elim .zero fun base => (base.timeOf ticks).toDuration

/-- The buffer that a reply brings a track: the data of a packet of the track, at the time of its
timestamp and for that of its duration. -/
def bufferOf? (t : Track) : ReaderReply → Option Buffer
  | .packet p =>
    if p.track = t.id then
      some { data := p.data, pts := t.timeAt p.ts, duration := t.timeAt p.dur }
    else none
  | _ => none

/-- The buffers that replies bring a track, in their order. -/
def received (t : Track) (replies : List ReaderReply) : List Buffer :=
  replies.filterMap t.bufferOf?

theorem timestamp_eq (t : Track) (ticks : Nat) : t.timestamp ticks = t.timeAt ticks := by
  unfold timestamp timeAt
  cases t.timeBase <;> rfl

/-- What a worker keeps of a packet is what the packet brings its track. -/
theorem bufferOf?_packet (t : Track) (p : Packet) :
    t.bufferOf? (.packet p) = if p.track = t.id then some (t.buffer p) else none := by
  rw [bufferOf?, buffer, timestamp_eq, timestamp_eq]

theorem received_packet (t : Track) (p : Packet) (replies : List ReaderReply) :
    t.received (.packet p :: replies) =
      (if p.track = t.id then [t.buffer p] else []) ++ t.received replies := by
  unfold received
  by_cases hown : p.track = t.id <;> simp [bufferOf?_packet, hown]

end Track

/-- Whether the reader said, since the last seek that succeeded, that there is nothing more. -/
def EndReported (replies : List ReaderReply) : Prop :=
  ∃ before e since, replies = before ++ .failed e :: since ∧ e.isEnd = true ∧
    .sought (.ok ()) ∉ since

theorem EndReported.append {replies more : List ReaderReply} (h : EndReported replies)
    (hmore : .sought (.ok ()) ∉ more) : EndReported (replies ++ more) := by
  obtain ⟨before, e, since, rfl, hend, hsince⟩ := h
  refine ⟨before, e, since ++ more, by simp, hend, ?_⟩
  intro hmem
  rcases List.mem_append.mp hmem with hmem | hmem
  · exact hsince hmem
  · exact hmore hmem

theorem EndReported.prepend {replies : List ReaderReply} (h : EndReported replies)
    (earlier : List ReaderReply) : EndReported (earlier ++ replies) := by
  obtain ⟨before, e, since, rfl, hend, hsince⟩ := h
  exact ⟨earlier ++ before, e, since, by rw [List.append_assoc], hend, hsince⟩

namespace Worker

variable {ρ : Type} {w : Worker ρ} {enabled : List Bool} {track index : Nat}

/-! ### Marks and queues -/

theorem isOn_set {marks : List Bool} {place : Nat} {mark : Bool}
    (h : isOn marks index = true) (hmark : mark = true ∨ place ≠ index) :
    isOn (marks.set place mark) index = true := by
  unfold isOn at h ⊢
  by_cases hsame : place = index
  · subst hsame
    rw [or_iff_left (not_not.mpr rfl)] at hmark
    have hlt : place < marks.length := by
      by_contra hout
      rw [List.getElem?_eq_none (Nat.le_of_not_lt hout)] at h
      cases h
    rw [List.getElem?_set_self hlt, hmark]
    rfl
  · rwa [List.getElem?_set_ne hsame]

/-- The buffers that wait for the pulls of a track. -/
def queue (w : Worker ρ) (index : Nat) : List Buffer := w.queues[index]?.getD []

/-- Every track has an id and a queue of its own. -/
structure IsSound (w : Worker ρ) : Prop where
  ids : (w.tracks.map (·.id)).Nodup
  queues : w.queues.length = w.tracks.length

/-- Two tracks with the same id are one. -/
theorem IsSound.place_unique (hw : w.IsSound) {i j : Nat} {s t : Track}
    (hs : w.tracks[i]? = some s) (ht : w.tracks[j]? = some t) (h : s.id = t.id) : i = j := by
  have hi : i < (w.tracks.map (·.id)).length := by
    rw [List.length_map]
    exact (List.getElem?_eq_some_iff.mp hs).1
  refine (List.getElem?_inj hi hw.ids).mp ?_
  rw [List.getElem?_map, List.getElem?_map, hs, ht, Option.map_some, Option.map_some, h]

theorem takeFront_eq_some {front : Buffer × Worker ρ} (h : w.takeFront track = some front) :
    ∃ rest, w.queues[track]? = some (front.1 :: rest) ∧
      front.2 = { w with queues := w.queues.set track rest } := by
  unfold takeFront at h
  split at h
  · next buffer rest hqueue =>
    obtain rfl := Option.some.inj h
    exact ⟨rest, hqueue, rfl⟩
  · cases h

theorem queue_front {front : Buffer × Worker ρ} (h : w.takeFront track = some front)
    (index : Nat) :
    w.queue index = (if track = index then [front.1] else []) ++ front.2.queue index := by
  obtain ⟨rest, hqueue, hfront⟩ := takeFront_eq_some h
  obtain ⟨hlt, _⟩ := List.getElem?_eq_some_iff.mp hqueue
  rw [hfront]
  by_cases hsame : track = index
  · subst hsame
    simp [queue, hqueue, List.getElem?_set_self hlt]
  · simp [queue, hsame, List.getElem?_set_ne hsame]

theorem queue_of_takeFront (h : w.takeFront track = none) : w.queue track = [] := by
  unfold takeFront at h
  unfold queue
  split at h
  · cases h
  · next hempty =>
    cases hqueue : w.queues[track]? with
    | none => rfl
    | some buffers =>
      cases buffers with
      | nil => rfl
      | cons buffer rest => exact absurd hqueue (hempty buffer rest)

theorem queue_clearDisabled (w : Worker ρ) (enabled : List Bool) (index : Nat) :
    (w.clearDisabled enabled).queue index = if isOn enabled index then w.queue index else [] := by
  simp only [queue, clearDisabled, List.getElem?_mapIdx]
  cases w.queues[index]? with
  | none => simp
  | some buffers => rfl

/-- A packet is kept for its own track only. -/
theorem queue_keep (hw : w.IsSound) {t : Track} (ht : w.tracks[index]? = some t)
    (hon : isOn enabled index = true) (p : Packet) :
    (w.keep enabled p).queue index =
      w.queue index ++ if p.track = t.id then [t.buffer p] else [] := by
  obtain ⟨hindex, hget⟩ := List.getElem?_eq_some_iff.mp ht
  cases hplace : w.tracks.findIdx? (·.id == p.track) with
  | none =>
    have hother : p.track ≠ t.id := by
      intro hid
      have hnone := List.findIdx?_eq_none_iff.mp hplace t (List.mem_of_getElem? ht)
      simp [hid] at hnone
    simp [keep, hplace, hother]
  | some place =>
    obtain ⟨hlt, hid, _⟩ := List.findIdx?_eq_some_iff_getElem.mp hplace
    have hid : w.tracks[place].id = p.track := by simpa using hid
    by_cases hsame : place = index
    · subst hsame
      have hown : p.track = t.id := by rw [← hid, hget]
      have hqueue : place < w.queues.length := hw.queues ▸ hlt
      have hkeep : w.keep enabled p =
          { w with queues := w.queues.modify place fun queue => queue ++ [t.buffer p] } := by
        simp only [keep, hplace, ht, hon]
      rw [hkeep, if_pos hown]
      simp [queue, List.getElem?_eq_getElem hqueue]
    · have hother : p.track ≠ t.id := fun hown =>
        hsame (hw.place_unique (List.getElem?_eq_getElem hlt) ht (hid.trans hown))
      simp only [keep, hplace, hother, if_false, List.append_nil]
      split
      · simp only [queue, List.getElem?_modify_ne _ _ hsame]
      · rfl

theorem keep_same (w : Worker ρ) (enabled : List Bool) (p : Packet) :
    (w.keep enabled p).tracks = w.tracks ∧ (w.keep enabled p).ended = w.ended ∧
      (w.keep enabled p).queues.length = w.queues.length := by
  unfold keep
  split
  · exact ⟨rfl, rfl, rfl⟩
  · split
    · exact ⟨rfl, rfl, List.length_modify ..⟩
    · exact ⟨rfl, rfl, rfl⟩

/-- The container has ended, and nothing waits for the pulls of a track. -/
structure IsDrained (w : Worker ρ) (index : Nat) : Prop where
  ended : w.ended = true
  empty : w.queue index = []

theorem drained_clearDisabled (hw : w.IsDrained index) (enabled : List Bool) :
    (w.clearDisabled enabled).IsDrained index where
  ended := hw.ended
  empty := by rw [queue_clearDisabled, hw.empty, ite_self]

/-! ### Pulls -/

/-- The buffer that a pull gave, if it gave one. -/
def given : Except PullFault (Option Buffer) → List Buffer
  | .ok (some buffer) => [buffer]
  | _ => []

/-- A pull comes to `w'` and gives a result, after the reader said some replies to it. -/
structure Reads (w : Worker (Recorded ρ)) (enabled : List Bool) (track : Nat)
    (w' : Worker (Recorded ρ)) (result : Except PullFault (Option Buffer))
    (replies : List ReaderReply) : Prop where
  tracks : w'.tracks = w.tracks
  length : w'.queues.length = w.queues.length
  log : w'.reader.replies = w.reader.replies ++ replies
  noSeek : ∀ sought, .sought sought ∉ replies
  /-- Nothing is lost: what is given and what waits then is what waited before and what was read. -/
  buffers : ∀ {index t}, w.tracks[index]? = some t → isOn enabled index = true →
    (if track = index then given result else []) ++ w'.queue index =
      w.queue index ++ t.received replies
  ended : w'.ended = true → w.ended = true ∨ EndReported replies
  nothing : result = .ok none → w'.ended = true ∧ w'.queue track = []

section

variable {w w' : Worker (Recorded ρ)} {result : Except PullFault (Option Buffer)}

/-- A pull that reads nothing. -/
theorem reads_nothing (htracks : w'.tracks = w.tracks)
    (hlength : w'.queues.length = w.queues.length) (hreader : w'.reader = w.reader)
    (hended : w'.ended = w.ended)
    (hqueues : ∀ index,
      (if track = index then given result else []) ++ w'.queue index = w.queue index)
    (hnothing : result = .ok none → w'.ended = true ∧ w'.queue track = []) :
    Reads w enabled track w' result [] where
  tracks := htracks
  length := hlength
  log := by rw [hreader, List.append_nil]
  noSeek _ := List.not_mem_nil
  buffers _ _ := (hqueues _).trans (List.append_nil _).symm
  ended h := .inl (hended ▸ h)
  nothing := hnothing

/-- A pull that reads a packet first. -/
theorem Reads.packet (hw : w.IsSound) {p : Packet} {after : ρ} {replies : List ReaderReply}
    (h : Reads { w.keep enabled p with reader := ⟨after, w.reader.replies ++ [.packet p]⟩ } enabled
      track w' result replies) :
    Reads w enabled track w' result (.packet p :: replies) := by
  obtain ⟨htracks, hended, hlength⟩ := keep_same w enabled p
  constructor
  case tracks => exact h.tracks.trans htracks
  case length => exact h.length.trans hlength
  case log => rw [h.log, List.append_assoc, List.singleton_append]
  case noSeek =>
    intro sought hmem
    rcases List.mem_cons.mp hmem with heq | hmem
    · cases heq
    · exact h.noSeek sought hmem
  case buffers =>
    intro index t ht hon
    have hkept := queue_keep hw ht hon p
    rw [Track.received_packet, ← List.append_assoc, ← hkept]
    exact h.buffers (htracks ▸ ht) hon
  case ended =>
    intro hw'
    rcases h.ended hw' with hbefore | hreported
    · exact .inl (hended.symm.trans hbefore)
    · exact .inr (hreported.prepend [.packet p])
  case nothing => exact h.nothing

/-- A pull that the reader fails. -/
theorem reads_failed (hempty : w.queue track = []) (e : DemuxError) (after : ρ) {ended : Bool}
    (hended : ended = true → e.isEnd = true ∨ w.ended = true)
    (hgiven : given result = []) (hnothing : result = .ok none → ended = true) :
    Reads w enabled track
      { w with reader := ⟨after, w.reader.replies ++ [.failed e]⟩, ended } result [.failed e] where
  tracks := rfl
  length := rfl
  log := rfl
  noSeek _ hmem := by simp at hmem
  buffers {index t} _ _ := by
    rw [hgiven, ite_self]
    exact (List.append_nil _).symm
  ended h := by
    rcases hended h with hend | hbefore
    · exact .inr ⟨[], e, [], rfl, hend, List.not_mem_nil⟩
    · exact .inl hbefore
  nothing h := ⟨hnothing h, hempty⟩

end

variable [FormatReader ρ Id]

theorem reads_readOn {w : Worker (Recorded ρ)} (hw : w.IsSound) (enabled : List Bool)
    (track : Nat) : ∃ replies,
      Reads w enabled track (w.readOn enabled track).1 (w.readOn enabled track).2 replies := by
  -- Only a packet makes the loop go on, and then the reader has less to say.
  induction hn : FormatReader.remaining w.reader using Nat.strongRecOn generalizing w with
  | ind n ih =>
    cases htaken : w.takeFront track with
    | some front =>
      obtain ⟨rest, _, hfront⟩ := takeFront_eq_some htaken
      have hlength : front.2.queues.length = w.queues.length := by rw [hfront, List.length_set]
      rw [readOn_front htaken]
      exact ⟨[], reads_nothing (by rw [hfront]) hlength (by rw [hfront]) (by rw [hfront])
        (fun index => (queue_front htaken index).symm) nofun⟩
    | none =>
      have hempty := queue_of_takeFront htaken
      cases hended : w.ended with
      | true =>
        rw [readOn_ended htaken hended]
        refine ⟨[], reads_nothing rfl rfl rfl rfl (fun index => ?_) fun _ => ⟨hended, hempty⟩⟩
        show (if track = index then [] else []) ++ w.queue index = w.queue index
        rw [ite_self, List.nil_append]
      | false =>
        cases hnext : (FormatReader.next w.plain.reader).run with
        | packet p after less =>
          have hless : FormatReader.remaining after < FormatReader.remaining w.reader := less
          obtain ⟨htracks, _, hlength⟩ := keep_same w enabled p
          let kept : Worker (Recorded ρ) :=
            { w.keep enabled p with reader := ⟨after, w.reader.replies ++ [.packet p]⟩ }
          have hkept : kept.IsSound :=
            ⟨by rw [show kept.tracks = w.tracks from htracks]; exact hw.ids,
              hlength.trans (hw.queues.trans (congrArg List.length htracks.symm))⟩
          obtain ⟨replies, hreads⟩ := ih (FormatReader.remaining after) (hn ▸ hless) hkept rfl
          rw [readOn_packet htaken hended (Recorded.next_packet hnext)]
          exact ⟨_, hreads.packet hw⟩
        | failed e after =>
          rw [readOn_failed htaken hended (Recorded.next_failed hnext)]
          split
          · next hend => exact ⟨_, reads_failed hempty e after (fun _ => .inl hend) rfl fun _ => rfl⟩
          · exact ⟨_, reads_failed hempty e after .inr rfl nofun⟩

theorem reads_pull {w : Worker (Recorded ρ)} (hw : w.IsSound) (enabled : List Bool) (track : Nat) :
    ∃ replies, Reads w enabled track (w.pull enabled track).1 (w.pull enabled track).2 replies := by
  unfold pull
  split
  · have hlength : (w.clearDisabled enabled).queues.length = w.queues.length := List.length_mapIdx
    have hcleared : (w.clearDisabled enabled).IsSound := ⟨hw.ids, hlength.trans hw.queues⟩
    obtain ⟨replies, hreads⟩ := reads_readOn hcleared enabled track
    refine ⟨replies, hreads.tracks, hreads.length.trans hlength, hreads.log, hreads.noSeek, ?_,
      hreads.ended, hreads.nothing⟩
    intro index t ht hon
    have hqueue := queue_clearDisabled w enabled index
    rw [if_pos hon] at hqueue
    rw [← hqueue]
    exact hreads.buffers ht hon
  · refine ⟨[], reads_nothing rfl rfl rfl rfl (fun index => ?_) nofun⟩
    show (if track = index then [] else []) ++ w.queue index = w.queue index
    rw [ite_self, List.nil_append]

/-! ### After the end -/

theorem drained_readOn (hw : w.IsDrained index) (enabled : List Bool) (track : Nat) :
    (w.readOn enabled track).1.IsDrained index := by
  cases htaken : w.takeFront track with
  | none =>
    rw [readOn_ended htaken hw.ended]
    exact hw
  | some front =>
    obtain ⟨rest, _, hfront⟩ := takeFront_eq_some htaken
    have hqueue := queue_front htaken index
    rw [hw.empty] at hqueue
    rw [readOn_front htaken]
    constructor
    case ended =>
      rw [hfront]
      exact hw.ended
    case empty => exact (List.append_eq_nil_iff.mp hqueue.symm).2

theorem drained_pull (hw : w.IsDrained index) (enabled : List Bool) (track : Nat) :
    (w.pull enabled track).1.IsDrained index := by
  unfold pull
  split
  · exact drained_readOn (drained_clearDisabled hw enabled) enabled track
  · exact hw

/-- A drained track has nothing to give. -/
theorem pull_of_drained (hw : w.IsDrained index) (hon : isOn enabled index = true) :
    (w.pull enabled index).2 = .ok none := by
  have hcleared := drained_clearDisabled hw enabled
  have hfront : (w.clearDisabled enabled).takeFront index = none := by
    by_contra hsome
    obtain ⟨front, hfront⟩ := Option.ne_none_iff_exists'.mp hsome
    have hqueue := queue_front hfront index
    rw [hcleared.empty, if_pos rfl] at hqueue
    cases hqueue
  unfold pull
  rw [if_pos hon, readOn_ended hfront hcleared.ended]

theorem drained_seek (hw : w.IsDrained index) {position : Duration}
    (hfails : (w.seek position).2 ≠ .ok ()) : (w.seek position).1.IsDrained index := by
  cases hsought : (FormatReader.seek w.reader (.ofDuration position)).run with
  | mk reader result =>
    cases result with
    | error e =>
      rw [seek_failed hsought]
      exact ⟨hw.ended, hw.empty⟩
    | ok _ =>
      rw [seek_done hsought] at hfails
      exact absurd rfl hfails

end Worker

/-! ### Runs -/

namespace Demultiplexer

open Worker (isOn given)

variable {ρ : Type} {index : Nat}

/-- The buffer that a call gave to whoever pulls a track. -/
def share (index : Nat) : DemuxCall → DemuxAnswer → List Buffer
  | .pull track, .pulled result => if track = index then given result else []
  | _, _ => []

/-- The buffers that the pulls of a track gave, in order. -/
def pulled (index : Nat) (calls : List DemuxCall) (answers : List DemuxAnswer) : List Buffer :=
  (List.zipWith (share index) calls answers).flatten

/-- What one call does, when the reader says some replies to it. -/
structure Serves (d : Demultiplexer (Recorded ρ)) (c : DemuxCall)
    (d' : Demultiplexer (Recorded ρ)) (answer : DemuxAnswer) (replies : List ReaderReply) :
    Prop where
  tracks : d'.worker.tracks = d.worker.tracks
  length : d'.worker.queues.length = d.worker.queues.length
  log : d'.worker.reader.replies = d.worker.reader.replies ++ replies
  enabled : ∀ {index}, isOn d.enabled index = true → c ≠ .disable index →
    isOn d'.enabled index = true
  buffers : ∀ {index t}, d.worker.tracks[index]? = some t → isOn d.enabled index = true →
    answer ≠ .sought (.ok ()) →
      share index c answer ++ d'.worker.queue index = d.worker.queue index ++ t.received replies
  ended : d'.worker.ended = true →
    d.worker.ended = true ∧ .sought (.ok ()) ∉ replies ∨ EndReported replies

theorem serves_mark (d : Demultiplexer (Recorded ρ)) {c : DemuxCall} {track : Nat} {mark : Bool}
    (hshare : ∀ index, share index c .marked = [])
    (hmark : ∀ index, c ≠ .disable index → mark = true ∨ track ≠ index) :
    d.Serves c (d.mark track mark) .marked [] where
  tracks := rfl
  length := rfl
  log := (List.append_nil _).symm
  enabled hon hc := Worker.isOn_set hon (hmark _ hc)
  buffers _ _ _ := by
    rw [hshare, List.nil_append]
    exact (List.append_nil _).symm
  ended h := .inl ⟨h, List.not_mem_nil⟩

theorem sound_ofReader (reader : ρ) {tracks : List Track} (hids : (tracks.map (·.id)).Nodup) :
    (ofReader reader tracks).recorded.worker.IsSound :=
  ⟨hids, List.length_map _⟩

variable [FormatReader ρ Id]

theorem serves_pull {d : Demultiplexer (Recorded ρ)} (hd : d.worker.IsSound) (track : Nat) :
    ∃ replies, d.Serves (.pull track) (d.call (.pull track)).1 (d.call (.pull track)).2 replies := by
  obtain ⟨replies, hreads⟩ := Worker.reads_pull hd d.enabled track
  refine ⟨replies, hreads.tracks, hreads.length, hreads.log, fun hon _ => hon,
    fun ht hon _ => hreads.buffers ht hon, fun hended => ?_⟩
  rcases hreads.ended hended with hbefore | hreported
  · exact .inl ⟨hbefore, hreads.noSeek _⟩
  · exact .inr hreported

theorem serves_seek (d : Demultiplexer (Recorded ρ)) (position : Duration) :
    ∃ replies,
      d.Serves (.seek position) (d.call (.seek position)).1 (d.call (.seek position)).2 replies := by
  cases hsought : (FormatReader.seek d.worker.reader.reader (.ofDuration position)).run with
  | mk reader result =>
    have hrecorded := Recorded.seek_of hsought
    refine ⟨[.sought result], ?_⟩
    cases result with
    | error e =>
      have hcall : d.call (.seek position) =
          ({ d with worker := { d.worker with
              reader := ⟨reader, d.worker.reader.replies ++ [.sought (.error e)]⟩ } },
            .sought (.error e)) := by
        show (({ d with worker := (d.worker.seek position).1 } : Demultiplexer (Recorded ρ)),
          DemuxAnswer.sought (d.worker.seek position).2) = _
        rw [Worker.seek_failed hrecorded]
      rw [hcall]
      refine ⟨rfl, rfl, rfl, fun hon _ => hon, fun _ _ _ => (List.append_nil _).symm,
        fun hended => .inl ⟨hended, by simp⟩⟩
    | ok _ =>
      have hcall : d.call (.seek position) =
          ({ d with worker := { d.worker with
              reader := ⟨reader, d.worker.reader.replies ++ [.sought (.ok ())]⟩
              queues := d.worker.queues.map fun _ => [], ended := false } },
            .sought (.ok ())) := by
        show (({ d with worker := (d.worker.seek position).1 } : Demultiplexer (Recorded ρ)),
          DemuxAnswer.sought (d.worker.seek position).2) = _
        rw [Worker.seek_done hrecorded]
      rw [hcall]
      exact ⟨rfl, List.length_map _, rfl, fun hon _ => hon, fun _ _ hok => absurd rfl hok, nofun⟩

theorem serves_call {d : Demultiplexer (Recorded ρ)} (hd : d.worker.IsSound) (c : DemuxCall) :
    ∃ replies, d.Serves c (d.call c).1 (d.call c).2 replies := by
  cases c with
  | enable track => exact ⟨[], serves_mark d (fun _ => rfl) fun _ _ => .inl rfl⟩
  | disable track =>
    refine ⟨[], serves_mark d (fun _ => rfl) fun index hc => .inr ?_⟩
    rintro rfl
    exact hc rfl
  | pull track => exact serves_pull hd track
  | seek position => exact serves_seek d position

theorem sound_call {d : Demultiplexer (Recorded ρ)} (hd : d.worker.IsSound) (c : DemuxCall) :
    (d.call c).1.worker.IsSound ∧ (d.call c).1.worker.tracks = d.worker.tracks := by
  obtain ⟨replies, hserves⟩ := serves_call hd c
  have htracks := hserves.tracks
  refine ⟨⟨?_, ?_⟩, htracks⟩
  · rw [htracks]
    exact hd.ids
  · rw [htracks, hserves.length, hd.queues]

theorem sound_run {d : Demultiplexer (Recorded ρ)} (hd : d.worker.IsSound)
    (calls : List DemuxCall) :
    (d.run calls).1.worker.IsSound ∧ (d.run calls).1.worker.tracks = d.worker.tracks := by
  induction calls generalizing d with
  | nil => exact ⟨hd, rfl⟩
  | cons c calls ih =>
    obtain ⟨hsound, htracks⟩ := sound_call hd c
    obtain ⟨hrun, htracks'⟩ := ih hsound
    exact ⟨hrun, htracks'.trans htracks⟩

/-- While a track stays enabled and no seek succeeds, nothing of it is lost. -/
theorem run_buffers {d : Demultiplexer (Recorded ρ)} (hd : d.worker.IsSound) {t : Track}
    (ht : d.worker.tracks[index]? = some t) (hon : isOn d.enabled index = true)
    {calls : List DemuxCall} (hstays : .disable index ∉ calls)
    (hseeks : .sought (.ok ()) ∉ (d.run calls).2) :
    ∃ replies,
      (d.run calls).1.worker.reader.replies = d.worker.reader.replies ++ replies ∧
      pulled index calls (d.run calls).2 ++ (d.run calls).1.worker.queue index =
        d.worker.queue index ++ t.received replies := by
  induction calls generalizing d with
  | nil => exact ⟨[], (List.append_nil _).symm, (List.append_nil _).symm⟩
  | cons c calls ih =>
    obtain ⟨hc, hcalls⟩ := not_or.mp (List.mem_cons.not.mp hstays)
    rw [run_cons] at hseeks ⊢
    obtain ⟨hanswer, hrest⟩ := not_or.mp (List.mem_cons.not.mp hseeks)
    obtain ⟨said, hserves⟩ := serves_call hd c
    obtain ⟨hsound, htracks⟩ := sound_call hd c
    obtain ⟨later, hlog, hbuffers⟩ :=
      ih hsound (htracks ▸ ht) (hserves.enabled hon (Ne.symm hc)) hcalls hrest
    have hcall := hserves.buffers ht hon (Ne.symm hanswer)
    refine ⟨said ++ later, ?_, ?_⟩
    · rw [hlog, hserves.log, List.append_assoc]
    · calc pulled index (c :: calls) ((d.call c).2 :: ((d.call c).1.run calls).2) ++
            ((d.call c).1.run calls).1.worker.queue index
          = share index c (d.call c).2 ++ (pulled index calls ((d.call c).1.run calls).2 ++
              ((d.call c).1.run calls).1.worker.queue index) := List.append_assoc ..
        _ = share index c (d.call c).2 ++ ((d.call c).1.worker.queue index ++
              t.received later) := by rw [hbuffers]
        _ = d.worker.queue index ++ t.received said ++ t.received later := by
            rw [← List.append_assoc, hcall]
        _ = d.worker.queue index ++ t.received (said ++ later) := by
            rw [List.append_assoc, Track.received, Track.received, Track.received,
              List.filterMap_append]

/-- A demultiplexer takes the container for ended only when its reader said so. -/
theorem ended_run {d : Demultiplexer (Recorded ρ)} (hd : d.worker.IsSound)
    (hreported : d.worker.ended = true → EndReported d.worker.reader.replies)
    (calls : List DemuxCall) (hended : (d.run calls).1.worker.ended = true) :
    EndReported (d.run calls).1.worker.reader.replies := by
  induction calls generalizing d with
  | nil => exact hreported hended
  | cons c calls ih =>
    obtain ⟨said, hserves⟩ := serves_call hd c
    have hcall : (d.call c).1.worker.ended = true →
        EndReported (d.call c).1.worker.reader.replies := by
      intro hcall
      rw [hserves.log]
      rcases hserves.ended hcall with ⟨hbefore, hsaid⟩ | hsaid
      · exact (hreported hbefore).append hsaid
      · exact hsaid.prepend d.worker.reader.replies
    exact ih (sound_call hd c).1 hcall hended

/-- A drained track stays drained until a seek succeeds. -/
theorem drained_run {d : Demultiplexer ρ} (hd : d.worker.IsDrained index)
    {calls : List DemuxCall} (hseeks : .sought (.ok ()) ∉ (d.run calls).2) :
    (d.run calls).1.worker.IsDrained index := by
  induction calls generalizing d with
  | nil => exact hd
  | cons c calls ih =>
    rw [run_cons] at hseeks ⊢
    obtain ⟨hanswer, hrest⟩ := not_or.mp (List.mem_cons.not.mp hseeks)
    refine ih ?_ hrest
    cases c with
    | enable track | disable track => exact ⟨hd.ended, hd.empty⟩
    | pull track => exact Worker.drained_pull hd d.enabled track
    | seek position =>
      refine Worker.drained_seek hd fun hok => hanswer ?_
      show DemuxAnswer.sought (.ok ()) = .sought (d.worker.seek position).2
      rw [hok]

/-- Over any period in which a track stays enabled and no seek succeeds, the buffers that its pulls
gave, followed by what waits for them at the end, are what waited at the start, followed by the
packets of the track that were read in the period.  A pull gives nothing only when the reader has
reported its end and nothing waits for the track; after that its pulls give nothing until a seek
succeeds. -/
theorem packets_lossless {reader : ρ} {tracks : List Track} (hids : (tracks.map (·.id)).Nodup)
    {t : Track} (ht : tracks[index]? = some t) {history : List DemuxCall} {d : Demultiplexer ρ}
    (hd : d = ((ofReader reader tracks).run history).1) :
    (∀ period, isOn d.enabled index = true → .disable index ∉ period →
      .sought (.ok ()) ∉ (d.run period).2 →
        pulled index period (d.run period).2 ++ (d.run period).1.worker.queue index =
          d.worker.queue index ++ t.received (d.replies period)) ∧
    ((d.call (.pull index)).2 = .pulled (.ok none) →
      EndReported ((ofReader reader tracks).replies (history ++ [.pull index])) ∧
      (d.call (.pull index)).1.worker.queue index = [] ∧
      ∀ later, .sought (.ok ()) ∉ ((d.call (.pull index)).1.run later).2 →
        isOn ((d.call (.pull index)).1.run later).1.enabled index = true →
        (((d.call (.pull index)).1.run later).1.call (.pull index)).2 = .pulled (.ok none)) := by
  have hstart := sound_ofReader reader hids
  -- What the recorded run came to is `d`, but for the log.
  set reached := ((ofReader reader tracks).recorded.run history).1
  obtain rfl : d = reached.plain :=
    hd.trans (congrArg Prod.fst (plain_run (ofReader reader tracks).recorded history))
  obtain ⟨hsound, htracks⟩ := sound_run hstart history
  constructor
  · intro period hon hstays hseeks
    have hperiod : reached.plain.run period = _ := plain_run reached.plain.recorded period
    have hfresh : reached.plain.recorded.worker.IsSound := ⟨hsound.ids, hsound.queues⟩
    have hplace : reached.plain.recorded.worker.tracks[index]? = some t := htracks ▸ ht
    rw [hperiod] at hseeks ⊢
    obtain ⟨replies, hlog, hbuffers⟩ := run_buffers hfresh hplace hon hstays hseeks
    rw [Demultiplexer.replies, hlog]
    exact hbuffers
  · intro hnothing
    have hpull := plain_call reached (.pull index)
    rw [hpull] at hnothing ⊢
    obtain ⟨_, hreads⟩ := Worker.reads_pull hsound reached.enabled index
    obtain ⟨hended, hempty⟩ := hreads.nothing (DemuxAnswer.pulled.inj hnothing)
    refine ⟨?_, hempty, fun later hseeks hon => ?_⟩
    · have hrun : ((ofReader reader tracks).recorded.run (history ++ [.pull index])).1 =
          (reached.call (.pull index)).1 := run_append _ history [.pull index]
      refine ended_run hstart nofun (history ++ [.pull index]) ?_
      rw [hrun]
      exact hended
    · have hdrained := drained_run (d := (reached.call (.pull index)).1.plain)
        ⟨hended, hempty⟩ hseeks
      exact congrArg DemuxAnswer.pulled (Worker.pull_of_drained hdrained hon)

end Demultiplexer

namespace Sketch

def trackOn (clock : Option TimeBase) (id : UInt32) : Track := ⟨id, .unknown, none, clock, none⟩

/-- A track whose clock ticks a thousand times a second. -/
def track : UInt32 → Track := trackOn (some ⟨1, 1000⟩)

/-- Packets of two tracks and of an unknown one, with a failure among them. -/
def packets : PacketScript :=
  .ofEntries [.ok ⟨9, 20, 40, [1, 10]⟩, .ok ⟨5, 0, 0, [2]⟩, .ok ⟨7, 1500, 250, [3, 30, 33]⟩,
    .ok ⟨9, 60, 40, [4, 40]⟩, .error (.malformed "page"), .ok ⟨7, 1750, 125, [5, 50]⟩]

def demultiplexerOn (clock : Option TimeBase) : Demultiplexer PacketScript :=
  .ofReader packets [trackOn clock 7, trackOn clock 9]

def demultiplexer : Demultiplexer PacketScript := demultiplexerOn (some ⟨1, 1000⟩)

/-- Both tracks are enabled. -/
def enabling : List DemuxCall := [.enable 0, .enable 1]

/-- The second track is pulled, disabled and enabled while the first one is pulled. -/
def interleaved : List DemuxCall :=
  [.pull 0, .pull 1, .disable 1, .pull 0, .enable 1, .pull 0]

/-- What the calls come to does not depend on the clocks, but for the times. -/
theorem answers_interleaved (clock : Option TimeBase) :
    (((demultiplexerOn clock).run enabling).1.run interleaved).2 =
      [.pulled (.ok (some ((trackOn clock 7).buffer ⟨7, 1500, 250, [3, 30, 33]⟩))),
        .pulled (.ok (some ((trackOn clock 9).buffer ⟨9, 20, 40, [1, 10]⟩))), .marked,
        .pulled (.error (.unreadable (.malformed "page"))), .marked,
        .pulled (.ok (some ((trackOn clock 7).buffer ⟨7, 1750, 125, [5, 50]⟩)))] := by cbv

theorem nothing_interleaved (clock : Option TimeBase) :
    ((((demultiplexerOn clock).run (enabling ++ interleaved)).1 :
      Demultiplexer PacketScript).call (.pull 0)).2 = .pulled (.ok none) := by cbv

/-- Of the packets that were read, those of the first track come with their data and at their times,
whatever was done with the second one. -/
theorem packets_lossless_interleaved :
    ∃ d : Demultiplexer PacketScript, d = (demultiplexer.run enabling).1 ∧
      Demultiplexer.pulled 0 interleaved (d.run interleaved).2 =
        [⟨[3, 30, 33], ⟨1500000000⟩, ⟨250000000⟩⟩, ⟨[5, 50], ⟨1750000000⟩, ⟨125000000⟩⟩] ∧
      Demultiplexer.pulled 0 interleaved (d.run interleaved).2 ++
          (d.run interleaved).1.worker.queue 0 =
        d.worker.queue 0 ++ (track 7).received (d.replies interleaved) ∧
      EndReported (demultiplexer.replies (enabling ++ interleaved ++ [.pull 0])) := by
  have hids : ([track 7, track 9].map (·.id)).Nodup := by decide
  have htrack : [track 7, track 9][0]? = some (track 7) := rfl
  have hstart : (demultiplexer.run enabling).1 = (demultiplexer.run enabling).1 := rfl
  have hend : (demultiplexer.run (enabling ++ interleaved)).1 =
      (demultiplexer.run (enabling ++ interleaved)).1 := rfl
  obtain ⟨hlossless, _⟩ := Demultiplexer.packets_lossless hids htrack hstart
  obtain ⟨_, hnothing⟩ := Demultiplexer.packets_lossless hids htrack hend
  have hanswers := answers_interleaved (some ⟨1, 1000⟩)
  have hseeks : .sought (.ok ()) ∉ ((demultiplexer.run enabling).1.run interleaved).2 := by
    rw [demultiplexer, hanswers]
    simp
  refine ⟨_, rfl, ?_, hlossless interleaved rfl (by decide) hseeks,
    (hnothing (nothing_interleaved _)).1⟩
  rw [demultiplexer, hanswers]
  decide +kernel

end Sketch
end PullStreams
