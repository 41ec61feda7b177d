/-
Every request that was accepted is in one place.

A request waits as a command, is put off, was answered or was given up; whatever the
parties of a session do, and in whatever order, it is in exactly one of these places,
and once it was answered or given up it stays there.

* `Ledger.Balanced` — the invariant on ledgers: the accepted requests are those of
  all places together, and no two have the same ticket;
* `balanced_turn` — every turn keeps it;
* `requests_accounted` — so it holds of whatever can be reached; besides, an answer is
  told on its request's own stream and carries its token, and a start that resumes moves
  what was put off behind the commands that wait.
-/
import PullStreams.Proofs.Requests.Turn
import PullStreams.Proofs.Session.Telling

namespace PullStreams

variable {τ : Type}

/-! ### Requests of commands -/

@[simp] theorem requestsOf_append (first second : List (Envelope τ)) :
    requestsOf (first ++ second) = requestsOf first ++ requestsOf second :=
  List.filterMap_append

theorem requestsOf_cons (envelope : Envelope τ) (rest : List (Envelope τ)) :
    requestsOf (envelope :: rest) = envelope.command.request?.toList ++ requestsOf rest := by
  unfold requestsOf
  rw [List.filterMap_cons]
  cases envelope.command.request? <;> rfl

@[simp] theorem requestsOf_resubmitted (submitted : Nat) (requests : List (Nat × Request τ)) :
    requestsOf (resubmitted submitted requests) = requests := by
  induction requests generalizing submitted with
  | nil => rfl
  | cons a requests ih =>
    obtain ⟨stream, request⟩ := a
    rw [resubmitted, requestsOf_cons, ih]
    rfl

namespace Ledger

/-- The requests of the commands that are not executed yet. -/
def queued (l : Ledger τ) : List (Nat × Request τ) := requestsOf l.line

theorem queued_enqueue (l : Ledger τ) (command : Command τ) :
    (l.enqueue command).queued = l.queued ++ command.request?.toList := by
  have hline : (l.enqueue command).line = l.line ++ [⟨l.submitted + 1, command⟩] := by
    simp [line, enqueue]
  rw [queued, hline, requestsOf_append, requestsOf_cons]
  exact congrArg (l.queued ++ ·) (List.append_nil _)

/-- What is in hand is the first of the line. -/
theorem queued_of_hand {l : Ledger τ} {envelope : Envelope τ} (hhand : l.inHand = some envelope) :
    l.queued = envelope.command.request?.toList ++ requestsOf l.waiting := by
  rw [queued, line, hhand]
  exact requestsOf_cons envelope l.waiting

@[simp] theorem queued_giveUp (l : Ledger τ) : l.giveUp.queued = l.queued := rfl

@[simp] theorem queued_putBack (l : Ledger τ) :
    l.putBack.queued = l.queued ++ l.deferredRequests := by
  have hline : l.putBack.line = l.line ++ resubmitted l.submitted l.deferredRequests := by
    simp [line, putBack]
  rw [queued, hline, requestsOf_append, requestsOf_resubmitted]
  rfl

/-! ### Requests that are put off -/

theorem deferredRequests_eq_nil {l : Ledger τ} (h : ∀ requests ∈ l.deferred, requests = []) :
    l.deferredRequests = [] := by
  refine List.flatten_eq_nil_iff.mpr fun requests hrequests => ?_
  obtain ⟨i, hi, rfl⟩ := List.mem_mapIdx.mp hrequests
  rw [h _ (List.getElem_mem hi), List.map_nil]

@[simp] theorem deferredRequests_giveUp (l : Ledger τ) : l.giveUp.deferredRequests = [] :=
  deferredRequests_eq_nil (by simp [giveUp])

@[simp] theorem deferredRequests_putBack (l : Ledger τ) : l.putBack.deferredRequests = [] :=
  deferredRequests_eq_nil (by simp [putBack])

/-- A list that grows in one place of a list of lists grows by one among all. -/
theorem perm_flatten_modify {α γ : Type} (f : Nat → α → γ) (lists : List (List α)) {index : Nat}
    (hindex : index < lists.length) (a : α) :
    ((lists.modify index (· ++ [a])).mapIdx fun i list => list.map (f i)).flatten.Perm
      ((lists.mapIdx fun i list => list.map (f i)).flatten ++ [f index a]) := by
  induction lists generalizing index f with
  | nil => simp at hindex
  | cons list lists ih =>
    cases index with
    | zero =>
      simp only [List.modify_zero_cons, List.mapIdx_cons, List.flatten_cons, List.map_append,
        List.map_cons, List.map_nil, List.append_assoc]
      exact List.perm_append_comm.append_left _
    | succ index =>
      have hrest := ih (fun i => f (i + 1)) (Nat.lt_of_succ_lt_succ hindex)
      simp only [List.modify_succ_cons, List.mapIdx_cons, List.flatten_cons, List.append_assoc]
      exact hrest.append_left _

theorem deferredRequests_defer (l : Ledger τ) {index : Nat} (hindex : index < l.deferred.length)
    (request : Request τ) :
    (l.defer index request).deferredRequests.Perm (l.deferredRequests ++ [(index, request)]) :=
  perm_flatten_modify Prod.mk l.deferred hindex request

/-! ### The invariant -/

/-- The requests of all places. -/
def places (l : Ledger τ) : List (Nat × Request τ) :=
  l.queued ++ l.deferredRequests ++ l.answered ++ l.dropped

/-- Every request that was accepted is in one place, and tells itself from all others. -/
structure Balanced (l : Ledger τ) : Prop where
  balance : l.accepted.Perm l.places
  /-- Tickets grow in the order of the acceptances. -/
  tickets : l.accepted.Pairwise fun a b => a.2.ticket < b.2.ticket
  issued : ∀ a ∈ l.accepted, a.2.ticket ≤ l.submitted
  /-- The streams of requests exist. -/
  streams : ∀ a ∈ l.accepted, a.1 < l.deferred.length
  /-- Only a pause puts requests off. -/
  calm : l.phase ≠ .paused → l.deferredRequests = []

/-- Requests that only change places stay accounted for. -/
theorem Balanced.moved {l l' : Ledger τ} (hl : l.Balanced) (haccepted : l'.accepted = l.accepted)
    (hsubmitted : l.submitted ≤ l'.submitted) (hstreams : l'.deferred.length = l.deferred.length)
    (hplaces : l.places.Perm l'.places) (hcalm : l'.phase ≠ .paused → l'.deferredRequests = []) :
    l'.Balanced where
  balance := haccepted ▸ hl.balance.trans hplaces
  tickets := haccepted ▸ hl.tickets
  issued a ha := Nat.le_trans (hl.issued a (haccepted ▸ ha)) hsubmitted
  streams a ha := hstreams ▸ hl.streams a (haccepted ▸ ha)
  calm := hcalm

theorem balanced_submit {l : Ledger τ} (hl : l.Balanced) {command : Command τ}
    (hrequest : command.request? = none) : (l.enqueue command).Balanced := by
  refine hl.moved rfl (Nat.le_succ _) rfl ?_ hl.calm
  have hqueued : (l.enqueue command).queued = l.queued := by
    rw [queued_enqueue, hrequest]
    exact List.append_nil _
  rw [places, places, hqueued]
  exact .refl _

theorem balanced_receive {l : Ledger τ} (hl : l.Balanced) {index : Nat} {token : Option τ}
    (hindex : index < l.deferred.length) : (l.receive index token).Balanced := by
  set a : Nat × Request τ := (index, ⟨l.submitted + 1, token⟩) with ha
  have haccepted : (l.receive index token).accepted = l.accepted ++ [a] := rfl
  have hqueued : (l.receive index token).queued = l.queued ++ [a] := queued_enqueue l _
  have hmem : ∀ b ∈ (l.receive index token).accepted, b ∈ l.accepted ∨ b = a := fun b hb => by
    simpa [haccepted] using hb
  constructor
  case balance =>
    have hplaces : (l.receive index token).places =
        l.queued ++ [a] ++ l.deferredRequests ++ l.answered ++ l.dropped := by
      rw [places, hqueued]
      rfl
    -- The new request joins the accepted ones and the line alike.
    rw [haccepted, hplaces]
    classical
    refine (hl.balance.append_right [a]).trans (List.perm_iff_count.mpr fun b => ?_)
    simp only [places, List.count_append]
    omega
  case tickets =>
    rw [haccepted]
    refine List.pairwise_append.mpr ⟨hl.tickets, List.pairwise_singleton _ _, fun b hb c hc => ?_⟩
    rw [List.mem_singleton.mp hc]
    exact Nat.lt_succ_of_le (hl.issued b hb)
  case issued =>
    intro b hb
    rcases hmem b hb with hb | rfl
    · exact Nat.le_trans (hl.issued b hb) (Nat.le_succ _)
    · exact Nat.le_refl _
  case streams =>
    intro b hb
    rcases hmem b hb with hb | rfl
    · exact hl.streams b hb
    · exact hindex
  case calm => exact hl.calm

/-- A command that is no request is executed. -/
theorem balanced_finish {l : Ledger τ} (hl : l.Balanced) {envelope : Envelope τ} {phase : Phase}
    (hhand : l.inHand = some envelope) (hrequest : envelope.command.request? = none)
    (hphase : phase = l.phase ∨ l.phase = .running ∧ phase = .paused) :
    (l.finish phase).Balanced := by
  refine hl.moved rfl (Nat.le_refl _) rfl ?_ fun hne => ?_
  · rw [places, queued_of_hand hhand, hrequest]
    exact .refl _
  · rcases hphase with rfl | ⟨_, rfl⟩
    · exact hl.calm hne
    · exact absurd rfl hne

/-- What was put off may be given up at any time. -/
theorem balanced_giveUp {l : Ledger τ} (hl : l.Balanced) : l.giveUp.Balanced := by
  refine hl.moved rfl (Nat.le_refl _) (List.length_map ..) ?_ fun _ => deferredRequests_giveUp l
  -- The second place is emptied into the last one.
  rw [places, places, queued_giveUp, deferredRequests_giveUp]
  show (l.queued ++ l.deferredRequests ++ l.answered ++ l.dropped).Perm
    (l.queued ++ [] ++ l.answered ++ (l.dropped ++ l.deferredRequests))
  classical
  refine List.perm_iff_count.mpr fun a => ?_
  simp only [List.count_append, List.count_nil]
  omega

/-- What was put off may be put back at any time. -/
theorem balanced_putBack {l : Ledger τ} (hl : l.Balanced) : l.putBack.Balanced := by
  refine hl.moved rfl (Nat.le_add_right _ _) (List.length_map ..) ?_
    fun _ => deferredRequests_putBack l
  rw [places, places, queued_putBack, deferredRequests_putBack, List.append_nil]
  exact .refl _

/-- The request in hand was accepted, so it has a stream. -/
theorem Balanced.mem_of_hand {l : Ledger τ} (hl : l.Balanced) {envelope : Envelope τ}
    {a : Nat × Request τ} (hhand : l.inHand = some envelope)
    (hrequest : envelope.command.request? = some a) : a ∈ l.accepted := by
  refine hl.balance.mem_iff.mpr ?_
  simp [places, queued_of_hand hhand, hrequest]

theorem balanced_defer {l : Ledger τ} (hl : l.Balanced) {envelope : Envelope τ} {index : Nat}
    {request : Request τ} (hhand : l.inHand = some envelope)
    (hrequest : envelope.command.request? = some (index, request)) (hphase : l.phase = .paused) :
    ((l.finish l.phase).defer index request).Balanced := by
  refine hl.moved rfl (Nat.le_refl _) (List.length_modify ..) ?_ fun hne => absurd hphase hne
  have hindex : index < (l.finish l.phase).deferred.length :=
    hl.streams _ (hl.mem_of_hand hhand hrequest)
  have hdeferred := deferredRequests_defer _ hindex request
  rw [places, queued_of_hand hhand, hrequest]
  -- The request leaves the line at its front and joins what was put off.
  show ([(index, request)] ++ requestsOf l.waiting ++ l.deferredRequests ++ l.answered ++
      l.dropped).Perm
    (requestsOf l.waiting ++ ((l.finish l.phase).defer index request).deferredRequests ++
      l.answered ++ l.dropped)
  classical
  refine List.perm_iff_count.mpr fun a => ?_
  have hcount := hdeferred.count_eq a
  simp only [List.count_append] at hcount ⊢
  have hsame : (l.finish l.phase).deferredRequests = l.deferredRequests := rfl
  rw [hcount, hsame]
  omega

theorem balanced_answer {l : Ledger τ} (hl : l.Balanced) {envelope : Envelope τ} {index : Nat}
    {request : Request τ} (hhand : l.inHand = some envelope)
    (hrequest : envelope.command.request? = some (index, request)) :
    ((l.finish l.phase).answer index request).Balanced := by
  refine hl.moved rfl (Nat.le_refl _) rfl ?_ hl.calm
  rw [places, queued_of_hand hhand, hrequest]
  show ([(index, request)] ++ requestsOf l.waiting ++ l.deferredRequests ++ l.answered ++
      l.dropped).Perm
    (requestsOf l.waiting ++ l.deferredRequests ++ (l.answered ++ [(index, request)]) ++ l.dropped)
  classical
  refine List.perm_iff_count.mpr fun a => ?_
  simp only [List.count_append]
  omega

theorem balanced_drop {l : Ledger τ} (hl : l.Balanced) {envelope : Envelope τ} {index : Nat}
    {request : Request τ} (hhand : l.inHand = some envelope)
    (hrequest : envelope.command.request? = some (index, request)) :
    ((l.finish l.phase).drop index request).Balanced := by
  refine hl.moved rfl (Nat.le_refl _) rfl ?_ hl.calm
  rw [places, queued_of_hand hhand, hrequest]
  show ([(index, request)] ++ requestsOf l.waiting ++ l.deferredRequests ++ l.answered ++
      l.dropped).Perm
    (requestsOf l.waiting ++ l.deferredRequests ++ l.answered ++ (l.dropped ++ [(index, request)]))
  classical
  refine List.perm_iff_count.mpr fun a => ?_
  simp only [List.count_append]
  omega

/-- Every turn keeps the accounts. -/
theorem balanced_turn {l l' : Ledger τ} {action : Action τ} {resumes : Bool} (hl : l.Balanced)
    (h : l.Turn action resumes l') : l'.Balanced := by
  cases h with
  | rest => exact hl
  | submit hrequest => exact balanced_submit hl hrequest
  | skip => exact hl.moved rfl (Nat.le_succ _) rfl (.refl _) hl.calm
  | receive _ hindex => exact balanced_receive hl hindex
  | take hhand hwaiting =>
    refine hl.moved rfl (Nat.le_refl _) rfl ?_ hl.calm
    simp only [places, queued, line, hhand, hwaiting]
    exact .refl _
  | close =>
    -- The phase after it matters to none of the accounts, as nothing is put off any more.
    have hgiven := balanced_giveUp hl
    exact hgiven.moved rfl (Nat.le_refl _) rfl (.refl _) fun _ => deferredRequests_giveUp l
  | finish hhand hrequest hphase => exact balanced_finish hl hhand hrequest hphase
  | giveUp hhand hrequest hphase =>
    have hgiven := balanced_giveUp (balanced_finish hl hhand hrequest (.inl rfl))
    exact hgiven.moved rfl (Nat.le_refl _) rfl (.refl _) fun _ => deferredRequests_giveUp l
  | putBack hhand hrequest =>
    have hback := balanced_putBack (balanced_finish hl hhand hrequest (.inl rfl))
    exact hback.moved rfl (Nat.le_refl _) rfl (.refl _) fun _ => deferredRequests_putBack l
  | defer hhand hrequest hphase => exact balanced_defer hl hhand hrequest hphase
  | answer hhand hrequest _ => exact balanced_answer hl hhand hrequest
  | drop hhand hrequest => exact balanced_drop hl hhand hrequest

theorem deferredRequests_fresh {σ β : Type} (config : SourceConfig) (info : MediaInfo)
    (layout : Layout) (source : σ) :
    (Session.fresh config info layout source : Session σ β τ).ledger.deferredRequests = [] := by
  refine deferredRequests_eq_nil fun requests hrequests => ?_
  obtain ⟨stream, hstream, rfl⟩ := List.mem_map.mp hrequests
  obtain ⟨_, _, rfl⟩ := List.mem_map.mp hstream
  rfl

theorem balanced_fresh {σ β : Type} (config : SourceConfig) (info : MediaInfo) (layout : Layout)
    (source : σ) : (Session.fresh config info layout source : Session σ β τ).ledger.Balanced := by
  have hdeferred := @deferredRequests_fresh τ σ β config info layout source
  constructor
  case balance =>
    rw [places, hdeferred]
    exact .refl _
  case tickets => exact List.Pairwise.nil
  case issued | streams => exact fun a ha => absurd ha List.not_mem_nil
  case calm => exact fun _ => hdeferred

/-- What was answered or given up stays so. -/
theorem Turn.resolved {l l' : Ledger τ} {action : Action τ} {resumes : Bool}
    (h : l.Turn action resumes l') :
    l.answered <+: l'.answered ∧ l.dropped <+: l'.dropped := by
  cases h with
  | close | giveUp => exact ⟨List.prefix_rfl, List.prefix_append ..⟩
  | answer => exact ⟨List.prefix_append .., List.prefix_rfl⟩
  | drop => exact ⟨List.prefix_rfl, List.prefix_append ..⟩
  | _ => exact ⟨List.prefix_rfl, List.prefix_rfl⟩

/-- Only who asks for a sample adds a request. -/
theorem Turn.accepts {l l' : Ledger τ} {action : Action τ} {resumes : Bool}
    (h : l.Turn action resumes l') :
    l'.accepted = l.accepted ∨ ∃ index token, action = .requestSample index token ∧
      l'.accepted = l.accepted ++ [(index, ⟨l.submitted + 1, token⟩)] := by
  cases h with
  | receive haction _ => exact .inr ⟨_, _, haction, rfl⟩
  | _ => exact .inl rfl

end Ledger

namespace Session

variable {σ β : Type}

/-- The requests of the commands that are not executed yet. -/
def queuedRequests (s : Session σ β τ) : List (Nat × Request τ) :=
  requestsOf (s.commands.inHand.toList ++ s.commands.waiting)

/-- The accounts of a session's requests. -/
structure IsAccounted (s : Session σ β τ) : Prop where
  /-- Every accepted request is in one place. -/
  balance : s.acceptedRequests.Perm
    (s.queuedRequests ++ s.deferredRequests ++ s.answeredRequests ++ s.droppedRequests)
  /-- No two requests are the same. -/
  tickets : (s.acceptedRequests.map fun a => a.2.ticket).Nodup
  streams : ∀ a ∈ s.acceptedRequests, a.1 < s.streams.length
  /-- What a line tells a stream suits its request. -/
  sound : ∀ e ∈ s.journal, e.IsSound

theorem balanced_of_reachable [ByteSource σ] {E : Engine σ β} {s : Session σ β τ}
    (h : Reachable E s) : s.ledger.Balanced :=
  ledger_induction Ledger.balanced_fresh Ledger.balanced_turn h

theorem accounted_of_reachable [ByteSource σ] {E : Engine σ β} {s : Session σ β τ}
    (h : Reachable E s) : s.IsAccounted := by
  have hbalanced := balanced_of_reachable h
  constructor
  case balance => exact deferredRequests_ledger s ▸ hbalanced.balance
  case tickets =>
    refine List.pairwise_map.mpr (hbalanced.tickets.imp fun hlt heq => ?_)
    exact absurd heq (Nat.ne_of_lt hlt)
  case streams =>
    intro a ha
    have hindex := hbalanced.streams a ha
    rwa [ledger, List.length_map] at hindex
  case sound => exact sound_of_reachable h

/-- A request for a sample passes exactly if it is accepted. -/
theorem requestSample_ok_iff (s : Session σ β τ) (index : Nat) (token : Option τ) :
    (s.requestSample index token).2 = .ok () ↔
      (s.requestSample index token).1.acceptedRequests =
        s.acceptedRequests ++ [(index, ⟨s.commands.nextNumber, token⟩)] := by
  have hadds (request : Nat × Request τ) :
      s.acceptedRequests ≠ s.acceptedRequests ++ [request] := by simp
  obtain ⟨e, hsame⟩ | ⟨_, _, haccept⟩ := requestSample_cases s index token
  · rw [hsame]
    exact ⟨nofun, fun h => absurd h (hadds _)⟩
  · rw [haccept, acceptRequest_eq]
    split
    · exact ⟨fun _ => congrArg Ledger.accepted (ledger_receive s index token), fun _ => rfl⟩
    · exact ⟨nofun, fun h => absurd h (hadds _)⟩

/-- Every request that was accepted is in one place: it waits as a command or is in the executor's
hand, it is put off, it was answered, or it was given up.  Only a call for a sample adds one, and
just when it passes, and no action takes back what was answered or given up.  An action tells a
stream what its lines say, and a start that resumes puts what was put off behind the commands that
wait, in order, and touches no other place. -/
theorem requests_accounted [ByteSource σ] {E : Engine σ β} {s : Session σ β τ}
    (h : Reachable E s) :
    s.IsAccounted ∧ ∀ action,
      ((s.step E action).acceptedRequests = s.acceptedRequests ∨
        ∃ index token, action = .requestSample index token ∧
          (s.step E action).acceptedRequests =
            s.acceptedRequests ++ [(index, ⟨s.commands.nextNumber, token⟩)]) ∧
      (∀ index token, action = .requestSample index token →
        ((s.act E action).2 = .ok () ↔ (s.step E action).acceptedRequests =
          s.acceptedRequests ++ [(index, ⟨s.commands.nextNumber, token⟩)])) ∧
      s.answeredRequests <+: (s.step E action).answeredRequests ∧
      s.droppedRequests <+: (s.step E action).droppedRequests ∧
      (∀ index, ∃ told, (s.step E action).toldTo index = s.toldTo index ++ told ∧
        if action.touchesQueues then told = []
        else (s.step E action).streams[index]?.map (·.events) =
          s.streams[index]?.map fun stream => told.foldl EventQueue.post stream.events) ∧
      (s.resumes action = true →
        (s.step E action).commands.inHand = none ∧
        (s.step E action).commands.waiting = s.commands.waiting ++
          resubmitted s.commands.submitted s.deferredRequests ∧
        (s.step E action).deferredRequests = [] ∧
        (s.step E action).acceptedRequests = s.acceptedRequests ∧
        (s.step E action).answeredRequests = s.answeredRequests ∧
        (s.step E action).droppedRequests = s.droppedRequests) := by
  refine ⟨accounted_of_reachable h, fun action => ?_⟩
  have hturn := turn_step h action
  obtain ⟨hanswered, hdropped⟩ := hturn.resolved
  have hpasses : ∀ index token, action = .requestSample index token →
      ((s.act E action).2 = .ok () ↔ (s.step E action).acceptedRequests =
        s.acceptedRequests ++ [(index, ⟨s.commands.nextNumber, token⟩)]) := by
    rintro index token rfl
    exact requestSample_ok_iff s index token
  refine ⟨hturn.accepts, hpasses, hanswered, hdropped, step_tells E s action, fun hresumes => ?_⟩
  -- A turn that puts requests back is of one kind only.
  rw [hresumes] at hturn
  generalize hafter : (s.step E action).ledger = l' at hturn
  cases hturn with
  | putBack hhand hrequest =>
    have hdeferred : (s.step E action).ledger.deferredRequests = [] := by
      rw [hafter, Ledger.deferredRequests_putBack]
    rw [deferredRequests_ledger] at hdeferred
    have hwaiting : (s.step E action).commands.waiting =
        s.commands.waiting ++ resubmitted s.commands.submitted s.ledger.deferredRequests :=
      congrArg Ledger.waiting hafter
    rw [deferredRequests_ledger] at hwaiting
    exact ⟨congrArg Ledger.inHand hafter, hwaiting, hdeferred, congrArg Ledger.accepted hafter,
      congrArg Ledger.answered hafter, congrArg Ledger.dropped hafter⟩

end Session

namespace Sketch

/-- Two requests are put off in a pause, and a start is in hand. -/
def resuming : List (Action Nat) :=
  paused ++ [.requestSample 1 (some 5), .take, .execute, .requestSample 1 (some 6), .take,
    .execute, start [true, true], .take]

theorem requests_accounted_resuming :
    (play resuming).IsAccounted ∧
      ((play resuming).step engine .execute).commands.waiting =
        resubmitted 5 [(1, ⟨3, some 5⟩), (1, ⟨4, some 6⟩)] := by
  have h := Session.requests_accounted (reachable resuming)
  have hresumes : (play resuming).resumes .execute = true := rfl
  exact ⟨h.1, ((h.2 .execute).2.2.2.2.2 hresumes).2.1⟩

end Sketch
end PullStreams
