/-
What a demultiplexer does not deliver.

Packets wait in the queues of their tracks until they are pulled.  A seek that succeeds
empties all queues at once; a track that is disabled keeps its queue until the next pull of
any other track, which empties it before it reads.  Either way nothing that was read before
is delivered afterwards, even if the track is enabled again.

One inequality carries it (`pulled_sublist`), for every state and whatever is called: what a
track's pulls give and what waits for it in the end is part of what waited at first and of
what was read, in this order.  Where nothing waited at first, only what was read is left.

* `Worker.takes_readOn` — one pull, by induction on what the reader still has to say;
* `Demultiplexer.pulled_sublist` — any calls;
* `Demultiplexer.no_stale_packets` — seeks, failed seeks, refused pulls and all other pulls.
-/
import PullStreams.Proofs.Demux.Buffering

namespace PullStreams

/-- The buffers that replies bring the track at a place, if there is a track. -/
def receivedAt (tracks : List Track) (index : Nat) (replies : List ReaderReply) : List Buffer :=
  (tracks[index]?.map (·.received replies)).getD []

theorem receivedAt_eq {tracks : List Track} {index : Nat} {t : Track}
    (ht : tracks[index]? = some t) (replies : List ReaderReply) :
    receivedAt tracks index replies = t.received replies := by
  rw [receivedAt, ht, Option.map_some, Option.getD_some]

theorem receivedAt_append (tracks : List Track) (index : Nat) (first second : List ReaderReply) :
    receivedAt tracks index (first ++ second) =
      receivedAt tracks index first ++ receivedAt tracks index second := by
  unfold receivedAt
  cases tracks[index]? with
  | none => rfl
  | some t => exact List.filterMap_append

namespace Worker

variable {ρ : Type}

/-! ### Keeping a packet -/

/-- A packet changes nothing, or comes last in the queue of a track that is on and has its id. -/
theorem keep_cases (w : Worker ρ) (enabled : List Bool) (p : Packet) :
    w.keep enabled p = w ∨
      ∃ (place : Nat) (t : Track), w.tracks[place]? = some t ∧ t.id = p.track ∧
        isOn enabled place = true ∧
        w.keep enabled p =
          { w with queues := w.queues.modify place fun queue => queue ++ [t.buffer p] } := by
  unfold keep
  split
  · exact .inl rfl
  · next place hplace =>
    obtain ⟨hlt, hid, _⟩ := List.findIdx?_eq_some_iff_getElem.mp hplace
    split
    · next t ht hon =>
      obtain ⟨_, hget⟩ := List.getElem?_eq_some_iff.mp ht
      rw [hget] at hid
      exact .inr ⟨place, t, ht, by simpa using hid, hon, rfl⟩
    · exact .inl rfl

theorem queue_modify (w : Worker ρ) (place index : Nat) (f : List Buffer → List Buffer) :
    ({ w with queues := w.queues.modify place f } : Worker ρ).queue index =
      if place = index then (w.queues[index]?.map f).getD [] else w.queue index := by
  by_cases hsame : place = index
  · subst hsame
    simp [queue]
  · simp [queue, hsame, List.getElem?_modify_ne _ _ hsame]

theorem queue_of_emptied {w : Worker ρ} {queues : List (List Buffer)}
    (h : w.queues = queues.map fun _ => []) {index : Nat} : w.queue index = [] := by
  rw [queue, h, List.getElem?_map]
  cases queues[index]? <;> rfl

/-- Nothing is kept for a track but packets of its own. -/
theorem queue_keep_sublist (w : Worker ρ) (enabled : List Bool) (p : Packet) (index : Nat) :
    ((w.keep enabled p).queue index).Sublist
      (w.queue index ++ receivedAt w.tracks index [.packet p]) := by
  rcases keep_cases w enabled p with hsame | ⟨place, t, ht, hid, _, hkeep⟩
  · rw [hsame]
    exact List.sublist_append_left ..
  · rw [hkeep, queue_modify]
    split
    · next hplace =>
      subst hplace
      have hown : receivedAt w.tracks place [.packet p] = [t.buffer p] := by
        rw [receivedAt_eq ht, Track.received_packet, if_pos hid.symm]
        rfl
      rw [hown, queue]
      cases w.queues[place]? with
      | none => exact List.nil_sublist _
      | some waiting => exact List.Sublist.refl _
    · exact List.sublist_append_left ..

/-- Nothing is kept for a track that is off. -/
theorem queue_keep_off {enabled : List Bool} {index : Nat} (hoff : isOn enabled index = false)
    (w : Worker ρ) (p : Packet) : (w.keep enabled p).queue index = w.queue index := by
  rcases keep_cases w enabled p with hsame | ⟨place, t, _, _, hon, hkeep⟩
  · rw [hsame]
  · have hother : place ≠ index := by
      rintro rfl
      rw [hoff] at hon
      cases hon
    rw [hkeep, queue_modify, if_neg hother]

/-! ### One pull -/

/-- A pull comes to `w'` and gives a result, after the reader said some replies to it: nothing is
given and nothing waits but what waited before and what was read, and what waits for the tracks that
are off stays as it is. -/
structure Takes (w : Worker (Recorded ρ)) (enabled : List Bool) (track : Nat)
    (w' : Worker (Recorded ρ)) (result : Except PullFault (Option Buffer))
    (replies : List ReaderReply) : Prop where
  tracks : w'.tracks = w.tracks
  log : w'.reader.replies = w.reader.replies ++ replies
  buffers : ∀ index, ((if track = index then given result else []) ++ w'.queue index).Sublist
    (w.queue index ++ receivedAt w.tracks index replies)
  off : ∀ index, isOn enabled index = false → track ≠ index → w'.queue index = w.queue index

/-- A pull that gives nothing and leaves the queues alone. -/
theorem takes_nothing {w w' : Worker (Recorded ρ)} {result : Except PullFault (Option Buffer)}
    {replies : List ReaderReply} (htracks : w'.tracks = w.tracks)
    (hlog : w'.reader.replies = w.reader.replies ++ replies) (hqueues : w'.queues = w.queues)
    (hgiven : given result = []) (enabled : List Bool) (track : Nat) :
    Takes w enabled track w' result replies where
  tracks := htracks
  log := hlog
  buffers index := by
    rw [hgiven, ite_self, List.nil_append, queue, queue, hqueues]
    exact List.sublist_append_left ..
  off _ _ _ := by rw [queue, queue, hqueues]

/-- A pull that reads a packet first. -/
theorem Takes.packet {w w' : Worker (Recorded ρ)} {enabled : List Bool} {track : Nat}
    {result : Except PullFault (Option Buffer)} {replies : List ReaderReply} {p : Packet}
    {after : ρ}
    (h : Takes { w.keep enabled p with reader := ⟨after, w.reader.replies ++ [.packet p]⟩ } enabled
      track w' result replies) :
    Takes w enabled track w' result (.packet p :: replies) := by
  have htracks := (keep_same w enabled p).1
  constructor
  case tracks => exact h.tracks.trans htracks
  case log => rw [h.log, List.append_assoc, List.singleton_append]
  case buffers =>
    intro index
    have hkept : ((w.keep enabled p).queue index ++
        receivedAt (w.keep enabled p).tracks index replies).Sublist
          (w.queue index ++ receivedAt w.tracks index (.packet p :: replies)) := by
      rw [htracks, ← List.singleton_append, receivedAt_append, ← List.append_assoc]
      exact (queue_keep_sublist w enabled p index).append_right _
    exact (h.buffers index).trans hkept
  case off =>
    intro index hoff hother
    exact (h.off index hoff hother).trans (queue_keep_off hoff w p)

variable [FormatReader ρ Id]

theorem takes_readOn (w : Worker (Recorded ρ)) (enabled : List Bool) (track : Nat) :
    ∃ replies,
      Takes w enabled track (w.readOn enabled track).1 (w.readOn enabled track).2 replies := by
  -- As for `reads_readOn`, only a packet makes the loop go on.
  induction hn : FormatReader.remaining w.reader using Nat.strongRecOn generalizing w with
  | ind n ih =>
    cases htaken : w.takeFront track with
    | some front =>
      obtain ⟨rest, _, hfront⟩ := takeFront_eq_some htaken
      rw [readOn_front htaken]
      refine ⟨[], by rw [hfront], by rw [hfront, List.append_nil], fun index => ?_,
        fun index _ hother => ?_⟩
      · have hqueue := queue_front htaken index
        rw [hqueue]
        exact List.sublist_append_left ..
      · rw [queue_front htaken index, if_neg hother, List.nil_append]
    | none =>
      cases hended : w.ended with
      | true =>
        rw [readOn_ended htaken hended]
        exact ⟨[], takes_nothing rfl (List.append_nil _).symm rfl rfl enabled track⟩
      | false =>
        cases hnext : (FormatReader.next w.plain.reader).run with
        | packet p after less =>
          have hless : FormatReader.remaining after < FormatReader.remaining w.reader := less
          let kept : Worker (Recorded ρ) :=
            { w.keep enabled p with reader := ⟨after, w.reader.replies ++ [.packet p]⟩ }
          obtain ⟨replies, htakes⟩ := ih (FormatReader.remaining after) (hn ▸ hless) kept rfl
          rw [readOn_packet htaken hended (Recorded.next_packet hnext)]
          exact ⟨_, htakes.packet⟩
        | failed e after =>
          rw [readOn_failed htaken hended (Recorded.next_failed hnext)]
          refine ⟨[.failed e], ?_⟩
          split
          · refine takes_nothing ?_ ?_ ?_ ?_ enabled track <;> rfl
          · refine takes_nothing ?_ ?_ ?_ ?_ enabled track <;> rfl

theorem pull_sublist (w : Worker (Recorded ρ)) (enabled : List Bool) (track : Nat) :
    ∃ replies, (w.pull enabled track).1.tracks = w.tracks ∧
      (w.pull enabled track).1.reader.replies = w.reader.replies ++ replies ∧
      ∀ index, ((if track = index then given (w.pull enabled track).2 else []) ++
        (w.pull enabled track).1.queue index).Sublist
          (w.queue index ++ receivedAt w.tracks index replies) := by
  unfold pull
  split
  · obtain ⟨replies, htakes⟩ := takes_readOn (w.clearDisabled enabled) enabled track
    refine ⟨replies, htakes.tracks, htakes.log, fun index => (htakes.buffers index).trans ?_⟩
    have hcleared : ((w.clearDisabled enabled).queue index).Sublist (w.queue index) := by
      rw [queue_clearDisabled]
      split
      · exact List.Sublist.refl _
      · exact List.nil_sublist _
    exact hcleared.append_right _
  · have hnothing : Takes w enabled track w (.error (.notEnabled track)) [] :=
      takes_nothing rfl (List.append_nil _).symm rfl rfl enabled track
    exact ⟨[], rfl, hnothing.log, hnothing.buffers⟩

/-- A pull that is not refused leaves nothing waiting for the tracks that are off. -/
theorem queue_pull_off (w : Worker (Recorded ρ)) {enabled : List Bool} {track index : Nat}
    (hon : isOn enabled track = true) (hoff : isOn enabled index = false) :
    (w.pull enabled track).1.queue index = [] := by
  have hpull : w.pull enabled track = (w.clearDisabled enabled).readOn enabled track := if_pos hon
  have hother : track ≠ index := by
    rintro rfl
    rw [hoff] at hon
    cases hon
  obtain ⟨replies, htakes⟩ := takes_readOn (w.clearDisabled enabled) enabled track
  rw [hpull, htakes.off index hoff hother, queue_clearDisabled, hoff]
  rfl

end Worker

namespace Demultiplexer

open Worker (isOn given)

variable {ρ : Type}

/-- There is a mark for every track, and none besides. -/
def IsFitted (d : Demultiplexer ρ) : Prop := d.enabled.length = d.worker.tracks.length

theorem fitted_ofReader (reader : ρ) (tracks : List Track) : (ofReader reader tracks).IsFitted :=
  List.length_map _

theorem IsFitted.isOn_of_none {d : Demultiplexer ρ} (hd : d.IsFitted) {track : Nat}
    (hnone : d.worker.tracks[track]? = none) : isOn d.enabled track = false := by
  have hout : d.enabled.length ≤ track := hd ▸ List.getElem?_eq_none_iff.mp hnone
  rw [isOn, List.getElem?_eq_none hout]
  rfl

variable [FormatReader ρ Id]

/-! ### Any calls -/

theorem call_sublist (d : Demultiplexer (Recorded ρ)) (c : DemuxCall) :
    ∃ replies, (d.call c).1.worker.tracks = d.worker.tracks ∧
      (d.call c).1.worker.reader.replies = d.worker.reader.replies ++ replies ∧
      ∀ index, (share index c (d.call c).2 ++ (d.call c).1.worker.queue index).Sublist
        (d.worker.queue index ++ receivedAt d.worker.tracks index replies) := by
  cases c with
  | enable track | disable track =>
    exact ⟨[], rfl, (List.append_nil _).symm, fun _ => List.sublist_append_left ..⟩
  | pull track => exact Worker.pull_sublist d.worker d.enabled track
  | seek position =>
    obtain ⟨replies, hserves⟩ := serves_seek d position
    refine ⟨replies, hserves.tracks, hserves.log, fun index => ?_⟩
    show ((d.worker.seek position).1.queue index).Sublist _
    cases hsought : (FormatReader.seek d.worker.reader.reader (.ofDuration position)).run with
    | mk reader result =>
      cases result with
      | error e =>
        rw [Worker.seek_failed (Recorded.seek_of hsought)]
        exact List.sublist_append_left ..
      | ok _ =>
        rw [Worker.seek_done (Recorded.seek_of hsought)]
        rw [Worker.queue_of_emptied rfl]
        exact List.nil_sublist _

theorem run_sublist (d : Demultiplexer (Recorded ρ)) (index : Nat) (calls : List DemuxCall) :
    ∃ replies,
      (d.run calls).1.worker.reader.replies = d.worker.reader.replies ++ replies ∧
      (pulled index calls (d.run calls).2 ++ (d.run calls).1.worker.queue index).Sublist
        (d.worker.queue index ++ receivedAt d.worker.tracks index replies) := by
  induction calls generalizing d with
  | nil => exact ⟨[], (List.append_nil _).symm, List.sublist_append_left ..⟩
  | cons c calls ih =>
    obtain ⟨said, htracks, hlog, hcall⟩ := call_sublist d c
    obtain ⟨later, hlater, hrest⟩ := ih (d.call c).1
    rw [htracks] at hrest
    rw [run_cons]
    refine ⟨said ++ later, by rw [hlater, hlog, List.append_assoc], ?_⟩
    have hpulled : pulled index (c :: calls) ((d.call c).2 :: ((d.call c).1.run calls).2) =
        share index c (d.call c).2 ++ pulled index calls ((d.call c).1.run calls).2 := rfl
    rw [hpulled, receivedAt_append, List.append_assoc, ← List.append_assoc (d.worker.queue index)]
    refine ((List.Sublist.refl _).append hrest).trans ?_
    rw [← List.append_assoc]
    exact (hcall index).append_right _

/-- What the pulls of a track give and what waits for it in the end is part of what waited for it
and of what was read, in this order. -/
theorem pulled_sublist (d : Demultiplexer ρ) (index : Nat) (calls : List DemuxCall) :
    (pulled index calls (d.run calls).2 ++ (d.run calls).1.worker.queue index).Sublist
      (d.worker.queue index ++ receivedAt d.worker.tracks index (d.replies calls)) := by
  have hplain : d.run calls = _ := plain_run d.recorded calls
  obtain ⟨replies, hlog, hsublist⟩ := run_sublist d.recorded index calls
  have hreplies : d.replies calls = replies := hlog
  rw [hplain, hreplies]
  exact hsublist

/-- Where nothing waits for a track, its pulls give only what is read from then on. -/
theorem pulled_of_empty {d : Demultiplexer ρ} {index : Nat} (hempty : d.worker.queue index = [])
    (calls : List DemuxCall) :
    (pulled index calls (d.run calls).2).Sublist
      (receivedAt d.worker.tracks index (d.replies calls)) := by
  have hsublist := pulled_sublist d index calls
  rw [hempty, List.nil_append] at hsublist
  exact (List.sublist_append_left ..).trans hsublist

/-! ### One call -/

theorem call_same (d : Demultiplexer ρ) (c : DemuxCall) :
    d.call c = ((d.recorded.call c).1.plain, (d.recorded.call c).2) := plain_call d.recorded c

theorem tracks_call (d : Demultiplexer ρ) (c : DemuxCall) :
    (d.call c).1.worker.tracks = d.worker.tracks := by
  obtain ⟨_, htracks, _⟩ := call_sublist d.recorded c
  rw [call_same]
  exact htracks

theorem fitted_call {d : Demultiplexer ρ} (hd : d.IsFitted) (c : DemuxCall) :
    (d.call c).1.IsFitted := by
  have hmarks : (d.call c).1.enabled.length = d.enabled.length := by
    cases c with
    | enable track | disable track => exact List.length_set
    | pull track | seek position => rfl
  rw [IsFitted, hmarks, tracks_call]
  exact hd

theorem fitted_run {d : Demultiplexer ρ} (hd : d.IsFitted) (calls : List DemuxCall) :
    (d.run calls).1.IsFitted := by
  induction calls generalizing d with
  | nil => exact hd
  | cons c calls ih => exact ih (fitted_call hd c)

theorem pull_refused {d : Demultiplexer ρ} {track : Nat} (hoff : isOn d.enabled track = false) :
    d.call (.pull track) = (d, .pulled (.error (.notEnabled track))) := by
  have hpull : d.worker.pull d.enabled track = (d.worker, .error (.notEnabled track)) :=
    if_neg (by rw [hoff]; decide)
  show (({ d with worker := (d.worker.pull d.enabled track).1 } : Demultiplexer ρ),
    DemuxAnswer.pulled (d.worker.pull d.enabled track).2) = _
  rw [hpull]

theorem seek_cases (d : Demultiplexer ρ) (position : Duration) :
    (∃ reader e, d.call (.seek position) =
        ({ d with worker := { d.worker with reader } }, .sought (.error e))) ∨
    ∃ reader, d.call (.seek position) =
        ({ d with worker := { d.worker with
            reader, queues := d.worker.queues.map fun _ => [], ended := false } },
          .sought (.ok ())) := by
  have hcall : d.call (.seek position) =
      ({ d with worker := (d.worker.seek position).1 }, .sought (d.worker.seek position).2) := rfl
  cases hsought : (FormatReader.seek d.worker.reader (.ofDuration position)).run with
  | mk reader result =>
    cases result with
    | error e =>
      rw [Worker.seek_failed hsought] at hcall
      exact .inl ⟨reader, e, hcall⟩
    | ok _ =>
      rw [Worker.seek_done hsought] at hcall
      exact .inr ⟨reader, hcall⟩

/-- After a seek that succeeds, the container goes on and the pulls give only what is read from then
on, for whichever track and whatever else is called; a seek that fails moves the reader at most.  A
pull of a track that is off or does not exist is refused without any effect.  After any other pull
nothing waits for the tracks that were off at it, and their pulls give only what is read from then
on, even if they are enabled again. -/
theorem no_stale_packets {d : Demultiplexer ρ} (hd : d.IsFitted) :
    (∀ position, (d.call (.seek position)).2 = .sought (.ok ()) →
      (d.call (.seek position)).1.worker.ended = false ∧
      ∀ index later,
        (pulled index later ((d.call (.seek position)).1.run later).2).Sublist
          (receivedAt d.worker.tracks index ((d.call (.seek position)).1.replies later))) ∧
    (∀ position e, (d.call (.seek position)).2 = .sought (.error e) →
      ∃ reader, (d.call (.seek position)).1 = { d with worker := { d.worker with reader } }) ∧
    (∀ track, isOn d.enabled track = false ∨ d.worker.tracks[track]? = none →
      d.call (.pull track) = (d, .pulled (.error (.notEnabled track))) ∧
        d.replies [.pull track] = []) ∧
    ∀ track result, (d.call (.pull track)).2 = .pulled result →
      result ≠ .error (.notEnabled track) →
        ∀ index, isOn d.enabled index = false →
          (d.call (.pull track)).1.worker.queue index = [] ∧
          ∀ later,
            (pulled index later ((d.call (.pull track)).1.run later).2).Sublist
              (receivedAt d.worker.tracks index ((d.call (.pull track)).1.replies later)) := by
  refine ⟨fun position hok => ?_, fun position e herror => ?_, fun track hoff => ?_,
    fun track result hresult hserved index hoff => ?_⟩
  · rcases seek_cases d position with ⟨reader, e, hcall⟩ | ⟨reader, hcall⟩
    · rw [hcall] at hok
      cases hok
    · rw [hcall]
      exact ⟨rfl, fun index later => pulled_of_empty (Worker.queue_of_emptied rfl) later⟩
  · rcases seek_cases d position with ⟨reader, _, hcall⟩ | ⟨_, hcall⟩
    · exact ⟨reader, congrArg Prod.fst hcall⟩
    · rw [hcall] at herror
      cases herror
  · have hrefused : isOn d.enabled track = false := hoff.elim id hd.isOn_of_none
    have hrecorded : isOn d.recorded.enabled track = false := hrefused
    refine ⟨pull_refused hrefused, ?_⟩
    rw [replies, run_cons, pull_refused hrecorded]
    rfl
  · have hon : isOn d.enabled track = true := by
      by_contra hrefused
      rw [pull_refused (Bool.eq_false_iff.mpr hrefused)] at hresult
      exact hserved (DemuxAnswer.pulled.inj hresult).symm
    have hempty : (d.call (.pull track)).1.worker.queue index = [] := by
      rw [call_same]
      exact Worker.queue_pull_off d.recorded.worker hon hoff
    refine ⟨hempty, fun later => ?_⟩
    rw [← tracks_call d (.pull track)]
    exact pulled_of_empty hempty later

end Demultiplexer

namespace Sketch

/-- Both tracks are enabled, and the first one was pulled. -/
def pulledOnce (clock : Option TimeBase) : Demultiplexer PacketScript :=
  ((demultiplexerOn clock).run (enabling ++ [.pull 0])).1

/-- A packet of the second track was read before a seek, and another one waited for it when it was
disabled.  Neither is delivered later. -/
theorem no_stale_packets_rewound :
    ∃ d : Demultiplexer PacketScript, d = (demultiplexer.run (enabling ++ [.pull 0])).1 ∧
      d.worker.queue 1 = [⟨[1, 10], ⟨20000000⟩, ⟨40000000⟩⟩] ∧
      (Demultiplexer.pulled 1 [.pull 1] ((d.call (.seek .zero)).1.run [.pull 1]).2).Sublist
        ((track 9).received ((d.call (.seek .zero)).1.replies [.pull 1])) ∧
      ∃ e : Demultiplexer PacketScript, e = ((d.call (.disable 1)).1.call (.pull 0)).1 ∧
        e.worker.queue 1 = [] ∧
        (Demultiplexer.pulled 1 [.enable 1, .pull 1] (e.run [.enable 1, .pull 1]).2).Sublist
          ((track 9).received (e.replies [.enable 1, .pull 1])) := by
  -- Whatever the clocks are, so much is known of the run.
  have hplace : ∀ clock, (pulledOnce clock).worker.tracks[1]? = some (trackOn clock 9) :=
    fun clock => by cbv
  have hscript : ∀ clock, (pulledOnce clock).worker.reader.seekTurn = .ok 0 :=
    fun clock => by cbv
  have hfails : ∀ clock, (((pulledOnce clock).call (.disable 1)).1.call (.pull 0)).2 =
      .pulled (.error (.unreadable (.malformed "page"))) := fun clock => by cbv
  have hmarks : ∀ clock, Worker.isOn ((pulledOnce clock).call (.disable 1)).1.enabled 1 = false :=
    fun clock => by cbv
  have hkept : ∀ clock, (pulledOnce clock).worker.queue 1 =
      [(trackOn clock 9).buffer ⟨9, 20, 40, [1, 10]⟩] := fun clock => by cbv
  obtain ⟨d, hd⟩ : ∃ d, d = pulledOnce (some ⟨1, 1000⟩) := ⟨_, rfl⟩
  have hfitted : d.IsFitted := by
    rw [hd]
    exact Demultiplexer.fitted_run (Demultiplexer.fitted_ofReader packets [track 7, track 9]) _
  have htrack : d.worker.tracks[1]? = some (track 9) := hd ▸ hplace _
  have hsought : (d.call (.seek .zero)).2 = .sought (.ok ()) := by
    have hturn : d.worker.reader.seekTurn = .ok 0 := hd ▸ hscript _
    have hreader : (FormatReader.seek d.worker.reader (.ofDuration .zero)).run =
        ((PacketScript.seek d.worker.reader (.ofDuration .zero)).1, .ok ()) := by
      refine Prod.ext rfl ?_
      show (PacketScript.seek d.worker.reader (.ofDuration .zero)).2 = .ok ()
      simp only [PacketScript.seek, hturn]
    show DemuxAnswer.sought (d.worker.seek .zero).2 = _
    rw [Worker.seek_done hreader]
  have hpulled : ((d.call (.disable 1)).1.call (.pull 0)).2 =
      .pulled (.error (.unreadable (.malformed "page"))) := hd ▸ hfails _
  have hoff : Worker.isOn (d.call (.disable 1)).1.enabled 1 = false := hd ▸ hmarks _
  have hwaits : d.worker.queue 1 = [⟨[1, 10], ⟨20000000⟩, ⟨40000000⟩⟩] := by
    rw [hd, hkept]
    decide +kernel
  obtain ⟨hseek, _⟩ := Demultiplexer.no_stale_packets hfitted
  obtain ⟨_, _, _, hpull⟩ := Demultiplexer.no_stale_packets
    (Demultiplexer.fitted_call hfitted (.disable 1))
  obtain ⟨_, hafter⟩ := hseek .zero hsought
  obtain ⟨hempty, hlater⟩ := hpull 0 _ hpulled (fun hrefused => by cases hrefused) 1 hoff
  rw [Demultiplexer.tracks_call] at hlater
  refine ⟨d, hd, hwaits, ?_, _, rfl, hempty, ?_⟩
  · rw [← receivedAt_eq htrack]
    exact hafter 1 [.pull 1]
  · rw [← receivedAt_eq htrack]
    exact hlater [.enable 1, .pull 1]

end Sketch
end PullStreams
