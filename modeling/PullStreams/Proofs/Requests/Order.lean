/-
In which order the samples of a stream come.

Requests of one stream wait behind each other, and a request that is answered goes
before those that are not: `Ledger.history` lists the requests of a stream that were
answered, then those that are put off, then those that wait.  Of two requests the one
that was accepted first comes first, and nothing but a start that resumes ever turns
two of them: it puts what was put off behind what waits.  A start that finds one of
the two put off and the other one waiting makes one overtake the other.

* `Ledger.history_turn` — what a turn does to the history of a stream;
* `Session.overtakings` — how often, in a run, one of two requests overtakes the other;
* `samples_in_order_iff` — two samples come in the order of their requests if and only
  if that number is even;
* `samples_out_of_order` — a run in which it is one.
-/
import Mathlib.Algebra.Group.Nat.Even
import PullStreams.Proofs.Requests.Accounting

namespace PullStreams

/-! ### Pairs in lists -/

section Pairs

variable {α : Type} {m n : α} {as bs cs : List α}

theorem pair_sublist_append :
    [m, n].Sublist (as ++ bs) ↔
      [m, n].Sublist as ∨ [m, n].Sublist bs ∨ m ∈ as ∧ n ∈ bs := by
  rw [List.sublist_append_iff]
  constructor
  · rintro ⟨first, second, heq, hfirst, hsecond⟩
    rcases List.cons_eq_append_iff.mp heq with ⟨rfl, rfl⟩ | ⟨middle, rfl, hmiddle⟩
    · exact .inr (.inl hsecond)
    · rcases List.cons_eq_append_iff.mp hmiddle with ⟨rfl, rfl⟩ | ⟨last, rfl, hlast⟩
      · exact .inr (.inr ⟨List.singleton_sublist.mp hfirst, List.singleton_sublist.mp hsecond⟩)
      · obtain ⟨rfl, -⟩ := List.append_eq_nil_iff.mp hlast.symm
        exact .inl hfirst
  · rintro (h | h | ⟨hm, hn⟩)
    · exact ⟨[m, n], [], rfl, h, List.nil_sublist _⟩
    · exact ⟨[], [m, n], rfl, List.nil_sublist _, h⟩
    · exact ⟨[m], [n], rfl, List.singleton_sublist.mpr hm, List.singleton_sublist.mpr hn⟩

theorem mem_of_pair_sublist (h : [m, n].Sublist as) : m ∈ as ∧ n ∈ as :=
  ⟨h.subset (by simp), h.subset (by simp)⟩

/-- Two members of a list stand in one order or the other. -/
theorem pair_sublist_or (hne : m ≠ n) (hm : m ∈ as) (hn : n ∈ as) :
    [m, n].Sublist as ∨ [n, m].Sublist as := by
  obtain ⟨front, back, rfl⟩ := List.append_of_mem hm
  rcases List.mem_append.mp hn with hfront | hback
  · exact .inr (pair_sublist_append.mpr (.inr (.inr ⟨hfront, by simp⟩)))
  · rcases List.mem_cons.mp hback with rfl | hback
    · exact absurd rfl hne
    · refine .inl (pair_sublist_append.mpr (.inr (.inl ?_)))
      exact List.Sublist.cons_cons m (List.singleton_sublist.mpr hback)

/-- Where nothing stands twice, two members stand in one order only. -/
theorem not_pair_sublist (has : as.Nodup) (h : [m, n].Sublist as) : ¬[n, m].Sublist as := by
  -- By induction on the list: whichever of the two is its first member, the other is behind it.
  induction as with
  | nil => cases h
  | cons a as ih =>
    obtain ⟨ha, has⟩ := List.nodup_cons.mp has
    intro hback
    cases h with
    | cons _ h =>
      cases hback with
      | cons _ hback => exact ih has h hback
      | cons_cons _ _ => exact ha (mem_of_pair_sublist h).2
    | cons_cons _ h =>
      cases hback with
      | cons _ hback => exact ha (mem_of_pair_sublist hback).2
      | cons_cons _ _ => exact ha (List.singleton_sublist.mp h)

/-- Leaving members out turns no two of the others. -/
theorem pair_sublist_iff_of_sublist (hbs : bs.Nodup) (h : as.Sublist bs) (hne : m ≠ n)
    (hm : m ∈ as) (hn : n ∈ as) : [m, n].Sublist as ↔ [m, n].Sublist bs := by
  refine ⟨fun hpair => hpair.trans h, fun hpair => ?_⟩
  rcases pair_sublist_or hne hm hn with hright | hback
  · exact hright
  · exact absurd (hback.trans h) (not_pair_sublist hbs hpair)

/-- Exchanging the last two parts of a list turns those two members of which one is in each. -/
theorem pair_sublist_exchange (h : (as ++ bs ++ cs).Nodup) :
    [m, n].Sublist (as ++ cs ++ bs) ↔
      ([m, n].Sublist (as ++ bs ++ cs) ↔ ¬(m ∈ bs ∧ n ∈ cs ∨ n ∈ bs ∧ m ∈ cs)) := by
  obtain ⟨hab, _, hdisjoint⟩ := List.nodup_append.mp h
  obtain ⟨_, _, hab⟩ := List.nodup_append.mp hab
  have hapart : ∀ x, (x ∈ as → x ∉ bs) ∧ (x ∈ as → x ∉ cs) ∧ (x ∈ bs → x ∉ cs) := fun x =>
    ⟨fun ha hb => hab x ha x hb rfl, fun ha hc => hdisjoint x (by simp [ha]) x hc rfl,
      fun hb hc => hdisjoint x (by simp [hb]) x hc rfl⟩
  have hpairs : ∀ {ds : List α}, [m, n].Sublist ds → m ∈ ds ∧ n ∈ ds := mem_of_pair_sublist
  -- Each of the two is in one part at most, so that only the parts they are in matter.
  simp only [pair_sublist_append, List.mem_append]
  obtain ⟨hm1, hm2, hm3⟩ := hapart m
  obtain ⟨hn1, hn2, hn3⟩ := hapart n
  have ha := @hpairs as
  have hb := @hpairs bs
  have hc := @hpairs cs
  grind

end Pairs

/-! ### The history of a stream -/

variable {τ : Type}

/-- The tickets of the requests for one stream. -/
def ticketsOn (index : Nat) (requests : List (Nat × Request τ)) : List Nat :=
  (requests.filter fun a => a.1 == index).map fun a => a.2.ticket

@[simp] theorem ticketsOn_append (index : Nat) (first second : List (Nat × Request τ)) :
    ticketsOn index (first ++ second) = ticketsOn index first ++ ticketsOn index second := by
  rw [ticketsOn, List.filter_append, List.map_append]
  rfl

theorem ticketsOn_sublist {first second : List (Nat × Request τ)} (h : first.Sublist second)
    (index : Nat) : (ticketsOn index first).Sublist (ticketsOn index second) :=
  (h.filter _).map _

theorem ticketsOn_singleton (index : Nat) (a : Nat × Request τ) :
    ticketsOn index [a] = if a.1 = index then [a.2.ticket] else [] := by
  by_cases h : a.1 = index <;> simp [ticketsOn, h]

/-- Of a list of lists, what is picked by the number of its list is one list. -/
theorem flatten_pick {α γ : Type} (f : List α → List γ) (lists : List (List α)) (index : Nat) :
    (lists.mapIdx fun i list => if i = index then f list else []).flatten =
      (lists[index]?.map f).getD [] := by
  induction lists generalizing index with
  | nil => rfl
  | cons list lists ih =>
    rw [List.mapIdx_cons, List.flatten_cons]
    cases index with
    | zero =>
      have hrest : (lists.mapIdx fun i list => if i + 1 = 0 then f list else []).flatten = [] := by
        refine List.flatten_eq_nil_iff.mpr fun picked hpicked => ?_
        obtain ⟨i, _, rfl⟩ := List.mem_mapIdx.mp hpicked
        rfl
      rw [hrest]
      simp
    | succ index =>
      have hrest := ih index
      simpa using hrest

namespace Ledger

theorem ticketsOn_deferred (l : Ledger τ) (index : Nat) :
    ticketsOn index l.deferredRequests =
      (l.deferred[index]?.map fun requests => requests.map (·.ticket)).getD [] := by
  rw [ticketsOn, deferredRequests, List.filter_flatten, List.map_flatten, ← flatten_pick]
  congr 1
  refine List.ext_getElem? fun i => ?_
  simp only [List.getElem?_map, List.getElem?_mapIdx, Option.map_map]
  congr 1
  funext requests
  simp only [Function.comp_apply]
  split
  · next h =>
    rw [List.filter_eq_self.mpr, List.map_map]
    · rfl
    · intro a ha
      obtain ⟨_, _, rfl⟩ := List.mem_map.mp ha
      exact beq_iff_eq.mpr h
  · next h =>
    rw [List.filter_eq_nil_iff.mpr, List.map_nil]
    intro a ha
    obtain ⟨_, _, rfl⟩ := List.mem_map.mp ha
    exact fun heq => h (beq_iff_eq.mp heq)

theorem ticketsOn_defer (l : Ledger τ) {place : Nat} (hplace : place < l.deferred.length)
    (request : Request τ) (index : Nat) :
    ticketsOn index (l.defer place request).deferredRequests =
      ticketsOn index l.deferredRequests ++ ticketsOn index [(place, request)] := by
  rw [ticketsOn_deferred, ticketsOn_deferred, ticketsOn_singleton]
  simp only [defer, List.getElem?_modify]
  by_cases h : place = index
  · subst h
    rw [List.getElem?_eq_getElem hplace]
    simp
  · simp [h]

/-- The requests for a stream that were answered, those that are put off, and those that wait. -/
def history (l : Ledger τ) (index : Nat) : List Nat :=
  ticketsOn index (l.answered ++ l.deferredRequests ++ l.queued)

theorem nodup_history {l : Ledger τ} (hl : l.Balanced) (index : Nat) : (l.history index).Nodup := by
  have haccepted : (ticketsOn index l.accepted).Nodup := by
    refine List.pairwise_map.mpr ((hl.tickets.filter _).imp fun hlt heq => ?_)
    exact absurd heq (Nat.ne_of_lt hlt)
  have hplaces : (ticketsOn index l.places).Nodup :=
    ((hl.balance.filter _).map _).nodup_iff.mp haccepted
  -- The history is what is left of all places without the requests that were given up.
  have hperm : (ticketsOn index l.places).Perm
      (l.history index ++ ticketsOn index l.dropped) := by
    refine List.perm_iff_count.mpr fun ticket => ?_
    simp only [history, places, ticketsOn_append, List.count_append]
    omega
  exact (List.nodup_append.mp (hperm.nodup_iff.mp hplaces)).1

theorem history_issued {l : Ledger τ} (hl : l.Balanced) {index ticket : Nat}
    (h : ticket ∈ l.history index) : ticket ≤ l.submitted := by
  obtain ⟨a, ha, rfl⟩ := List.mem_map.mp h
  refine hl.issued a (hl.balance.mem_iff.mpr ?_)
  have hmem := (List.mem_filter.mp ha).1
  simp only [places, List.mem_append] at hmem ⊢
  tauto

/-- When nothing is put back, requests leave the history of a stream, and a new one may join at its
end. -/
theorem history_quiet {l l' : Ledger τ} {action : Action τ} (hl : l.Balanced)
    (h : l.Turn action false l') (index : Nat) :
    (l'.history index).Sublist (l.history index ++ [l.submitted + 1]) ∧
      l.submitted ≤ l'.submitted := by
  have hkept : ∀ {r r' : List (Nat × Request τ)}, r'.Sublist r →
      (ticketsOn index r').Sublist (ticketsOn index r ++ [l.submitted + 1]) := fun h =>
    (ticketsOn_sublist h index).trans (List.sublist_append_left _ _)
  cases h with
  | rest => exact ⟨hkept (.refl _), Nat.le_refl _⟩
  | skip => exact ⟨hkept (.refl _), Nat.le_succ _⟩
  | @submit command hrequest =>
    have hqueued : (l.enqueue command).queued = l.queued := by
      rw [queued_enqueue, hrequest]
      exact List.append_nil _
    refine ⟨?_, Nat.le_succ _⟩
    rw [history, hqueued]
    exact hkept (.refl _)
  | @receive place token _ _ =>
    have hqueued : (l.receive place token).queued =
        l.queued ++ [(place, ⟨l.submitted + 1, token⟩)] := queued_enqueue l _
    refine ⟨?_, Nat.le_succ _⟩
    rw [history, hqueued, ← List.append_assoc, ticketsOn_append]
    refine List.Sublist.append (.refl _) ?_
    rw [ticketsOn_singleton]
    split
    · exact .refl _
    · exact List.nil_sublist _
  | take hhand hwaiting =>
    refine ⟨?_, Nat.le_refl _⟩
    simp only [history, queued, line, hhand, hwaiting]
    exact hkept (.refl _)
  | close =>
    refine ⟨?_, Nat.le_refl _⟩
    rw [history, deferredRequests_giveUp, queued_giveUp]
    exact hkept (((List.Sublist.refl _).append (List.nil_sublist _)).append (.refl _))
  | giveUp hhand hrequest _ =>
    refine ⟨?_, Nat.le_refl _⟩
    rw [history, deferredRequests_giveUp, queued_giveUp, history, queued_of_hand hhand, hrequest]
    exact hkept (((List.Sublist.refl _).append (List.nil_sublist _)).append (.refl _))
  | finish hhand hrequest _ =>
    refine ⟨?_, Nat.le_refl _⟩
    rw [history, history, queued_of_hand hhand, hrequest]
    exact hkept (.refl _)
  | @defer _ place request hhand hrequest _ =>
    -- The request in hand is the first that waits, and becomes the last that is put off.
    have hplace : place < (l.finish l.phase).deferred.length :=
      hl.streams _ (hl.mem_of_hand hhand hrequest)
    have hsame : ((l.finish l.phase).defer place request).history index = l.history index := by
      rw [history, history, queued_of_hand hhand, hrequest]
      simp only [ticketsOn_append, ticketsOn_defer _ hplace, List.append_assoc]
      rfl
    refine ⟨?_, Nat.le_refl _⟩
    rw [hsame]
    exact List.sublist_append_left _ _
  | @answer _ place request hhand hrequest hphase =>
    -- Nothing is put off while the session runs.
    have hcalm : l.deferredRequests = [] := hl.calm (by rw [hphase]; decide)
    have hsame : ((l.finish l.phase).answer place request).history index = l.history index := by
      rw [history, history, queued_of_hand hhand, hrequest, hcalm]
      have hcalm' : ((l.finish l.phase).answer place request).deferredRequests = [] := hcalm
      rw [hcalm']
      show ticketsOn index (l.answered ++ [(place, request)] ++ [] ++ requestsOf l.waiting) =
        ticketsOn index (l.answered ++ [] ++ ([(place, request)] ++ requestsOf l.waiting))
      simp only [List.append_nil, List.append_assoc]
    refine ⟨?_, Nat.le_refl _⟩
    rw [hsame]
    exact List.sublist_append_left _ _
  | @drop _ place request hhand hrequest =>
    refine ⟨?_, Nat.le_refl _⟩
    rw [history, history, queued_of_hand hhand, hrequest]
    exact hkept ((List.Sublist.refl _).append (List.sublist_append_right _ _))

/-- When the requests that are put off are put back, they come behind those that wait. -/
theorem history_putBack {l l' : Ledger τ} {action : Action τ}
    (h : l.Turn action true l') (index : Nat) :
    l'.history index = ticketsOn index l.answered ++ ticketsOn index l.queued ++
        ticketsOn index l.deferredRequests ∧ l.submitted ≤ l'.submitted := by
  cases h with
  | putBack hhand hrequest =>
    refine ⟨?_, Nat.le_add_right _ _⟩
    rw [history, deferredRequests_putBack, queued_putBack, queued_of_hand hhand, hrequest]
    simp only [List.append_nil, ticketsOn_append, List.append_assoc]
    rfl

/-- Whether one of two requests of a stream is put off and the other one waits. -/
def divides (l : Ledger τ) (index m n : Nat) : Prop :=
  m ∈ ticketsOn index l.deferredRequests ∧ n ∈ ticketsOn index l.queued ∨
    n ∈ ticketsOn index l.deferredRequests ∧ m ∈ ticketsOn index l.queued

instance (l : Ledger τ) (index m n : Nat) : Decidable (l.divides index m n) :=
  inferInstanceAs (Decidable (_ ∨ _))

/-! ### The order of two requests -/

/-- Two requests of a stream are in order when one has overtaken the other an even number of
times. -/
structure Ordered (l : Ledger τ) (index m n count : Nat) : Prop where
  unissued : l.submitted < n → count = 0
  order : m ∈ l.history index → n ∈ l.history index →
    ([m, n].Sublist (l.history index) ↔ Even count)

theorem ordered_quiet {l l' : Ledger τ} {action : Action τ} {index m n count : Nat}
    (hl : l.Balanced) (h : l.Turn action false l') (hlt : m < n)
    (ho : l.Ordered index m n count) : l'.Ordered index m n count := by
  obtain ⟨hsub, hsubmitted⟩ := history_quiet hl h index
  have hgrown : (l.history index ++ [l.submitted + 1]).Nodup := by
    refine List.nodup_append.mpr ⟨nodup_history hl index, List.pairwise_singleton _ _, ?_⟩
    rintro a ha b hb rfl
    have hissued := history_issued hl ha
    rw [List.mem_singleton.mp hb] at hissued
    exact Nat.not_succ_le_self _ hissued
  refine ⟨fun hn => ho.unissued (Nat.lt_of_le_of_lt hsubmitted hn), fun hm hn => ?_⟩
  rw [pair_sublist_iff_of_sublist hgrown hsub (Nat.ne_of_lt hlt) hm hn]
  have hm' : m ∈ l.history index := by
    rcases List.mem_append.mp (hsub.subset hm) with hm | hm
    · exact hm
    · -- The newest ticket is not the smaller one.
      have hn' : n ≤ l.submitted + 1 := by
        rcases List.mem_append.mp (hsub.subset hn) with hn | hn
        · exact Nat.le_succ_of_le (history_issued hl hn)
        · exact Nat.le_of_eq (List.mem_singleton.mp hn)
      have hm' := List.mem_singleton.mp hm
      omega
  rcases List.mem_append.mp (hsub.subset hn) with hn | hn
  · -- Both were there before, and none of them was turned.
    rw [← pair_sublist_iff_of_sublist hgrown (List.sublist_append_left _ _) (Nat.ne_of_lt hlt) hm'
      hn]
    exact ho.order hm' hn
  · -- The second one has just come, behind all others.
    have hnew := List.mem_singleton.mp hn
    have hzero : count = 0 := ho.unissued (by omega)
    refine iff_of_true (pair_sublist_append.mpr (.inr (.inr ⟨hm', hn⟩))) ?_
    rw [hzero]
    exact Even.zero

theorem ordered_putBack {l l' : Ledger τ} {action : Action τ} {index m n count : Nat}
    (hl : l.Balanced) (h : l.Turn action true l') (ho : l.Ordered index m n count) :
    l'.Ordered index m n (count + if l.divides index m n then 1 else 0) := by
  obtain ⟨hhistory, hsubmitted⟩ := history_putBack h index
  have hbefore : l.history index = ticketsOn index l.answered ++
      ticketsOn index l.deferredRequests ++ ticketsOn index l.queued := by
    rw [history, ticketsOn_append, ticketsOn_append]
  have hmem : ∀ ticket, ticket ∈ l'.history index ↔ ticket ∈ l.history index := fun ticket => by
    rw [hhistory, hbefore]
    simp only [List.mem_append]
    tauto
  refine ⟨fun hn => ?_, fun hm hn => ?_⟩
  · have hnone : ¬l.divides index m n := by
      -- A ticket that was not issued is nowhere.
      intro hdivides
      have hn' : n ∈ l.history index := by
        rw [hbefore]
        simp only [List.mem_append]
        rcases hdivides with ⟨_, hn'⟩ | ⟨hn', _⟩
        · exact .inr hn'
        · exact .inl (.inr hn')
      have := history_issued hl hn'
      omega
    rw [if_neg hnone]
    exact ho.unissued (Nat.lt_of_le_of_lt hsubmitted hn)
  · have horder := ho.order ((hmem m).mp hm) ((hmem n).mp hn)
    have hnodup := nodup_history hl index
    rw [hbefore] at horder hnodup
    have hexchange : [m, n].Sublist (l'.history index) ↔ (Even count ↔ ¬l.divides index m n) := by
      rw [hhistory, ← horder]
      exact pair_sublist_exchange hnodup
    rw [hexchange]
    -- The two change places if and only if the exchanged parts divide them.
    by_cases hdivides : l.divides index m n
    · rw [if_pos hdivides, Nat.even_add_one]
      exact ⟨fun heven h => heven.mp h hdivides, fun hodd => iff_of_false hodd fun h => h hdivides⟩
    · rw [if_neg hdivides]
      exact ⟨fun heven => heven.mpr hdivides, fun heven => iff_of_true heven hdivides⟩

end Ledger

namespace Session

variable {σ β : Type}

/-- Whether an action makes one of two requests of a stream overtake the other: it puts back what
was put off, and that is one of the two while the other one waits. -/
def overtakes (s : Session σ β τ) (action : Action τ) (index m n : Nat) : Bool :=
  s.resumes action && decide (s.ledger.divides index m n)

/-- How often one of two requests of a stream overtakes the other in a run. -/
def overtakings [ByteSource σ] (E : Engine σ β) (index m n : Nat) :
    Session σ β τ → List (Action τ) → Nat
  | _, [] => 0
  | s, action :: actions =>
    (if s.overtakes action index m n then 1 else 0) +
      overtakings E index m n (s.step E action) actions

theorem ordered_step [ByteSource σ] {E : Engine σ β} {s : Session σ β τ} (h : Reachable E s)
    {index m n count : Nat} (hlt : m < n) (ho : s.ledger.Ordered index m n count)
    (action : Action τ) :
    (s.step E action).ledger.Ordered index m n
      (count + if s.overtakes action index m n then 1 else 0) := by
  have hturn := turn_step h action
  have hbalanced := balanced_of_reachable h
  unfold overtakes
  cases hresumes : s.resumes action with
  | false =>
    rw [hresumes] at hturn
    exact Ledger.ordered_quiet hbalanced hturn hlt ho
  | true =>
    rw [hresumes] at hturn
    simpa using Ledger.ordered_putBack hbalanced hturn ho

theorem ordered_run [ByteSource σ] {E : Engine σ β} {s : Session σ β τ} (h : Reachable E s)
    {index m n count : Nat} (hlt : m < n) (ho : s.ledger.Ordered index m n count)
    (actions : List (Action τ)) :
    (s.run E actions).ledger.Ordered index m n (count + overtakings E index m n s actions) := by
  induction actions generalizing s count with
  | nil => exact ho
  | cons action actions ih =>
    have hrun := ih (h.step action) (ordered_step h hlt ho action)
    rwa [Nat.add_assoc] at hrun

/-! ### Samples -/

/-- The ticket of a request of a stream that a line answers with a sample. -/
def sampledTicket? (index : Nat) : Entry τ → Option Nat
  | .answered stream request (.sample _) => if stream = index then some request.ticket else none
  | _ => none

/-- The tickets of the requests of a stream that were answered with samples, in the order of the
samples. -/
def sampledTickets (s : Session σ β τ) (index : Nat) : List Nat :=
  s.journal.filterMap (sampledTicket? index)

theorem sampledTickets_sublist (s : Session σ β τ) (index : Nat) :
    (s.sampledTickets index).Sublist (ticketsOn index s.answeredRequests) := by
  unfold sampledTickets answeredRequests
  induction s.journal with
  | nil => exact .refl _
  | cons e journal ih =>
    cases e with
    | answered stream request event =>
      have hrest : ticketsOn index ((Entry.answered stream request event :: journal).filterMap
            Entry.answered?) =
          ticketsOn index [(stream, request)] ++
            ticketsOn index (journal.filterMap Entry.answered?) :=
        ticketsOn_append index [(stream, request)] _
      rw [hrest, ticketsOn_singleton]
      cases event with
      | sample given =>
        by_cases h : stream = index
        · have hsampled : sampledTicket? index (.answered stream request (.sample given)) =
              some request.ticket := if_pos h
          rw [List.filterMap_cons_some hsampled, if_pos h]
          exact ih.cons_cons _
        · have hsampled : sampledTicket? index (.answered stream request (.sample given)) =
              none := if_neg h
          rw [List.filterMap_cons_none hsampled, if_neg h]
          exact ih
      | _ => exact ih.trans (List.sublist_append_right _ _)
    | _ => exact ih

theorem sampledTickets_history (s : Session σ β τ) (index : Nat) :
    (s.sampledTickets index).Sublist (s.ledger.history index) := by
  rw [Ledger.history, ticketsOn_append, ticketsOn_append, List.append_assoc]
  exact (sampledTickets_sublist s index).trans (List.sublist_append_left _ _)

/-- Two samples of a stream come in the order of their requests if and only if one of the requests
overtook the other an even number of times. -/
theorem samples_in_order_iff [ByteSource σ] {E : Engine σ β} {config : SourceConfig} {source : σ}
    {s : Session σ β τ} (h : ofSource E config source = .ok s) (actions : List (Action τ))
    {index m n : Nat} (hlt : m < n) (hm : m ∈ (s.run E actions).sampledTickets index)
    (hn : n ∈ (s.run E actions).sampledTickets index) :
    [m, n].Sublist ((s.run E actions).sampledTickets index) ↔
      Even (overtakings E index m n s actions) := by
  have hreach : Reachable E s := .opened h
  have hfresh : s.ledger.Ordered index m n 0 := by
    obtain ⟨info, layout, after, heq⟩ := gist_ofSource h
    rw [← ledger_gist, heq, ledger_gist]
    have hempty : (fresh config info layout after : Session σ β τ).ledger.history index = [] := by
      rw [Ledger.history, Ledger.deferredRequests_fresh]
      rfl
    refine ⟨fun _ => rfl, fun hm => ?_⟩
    rw [hempty] at hm
    cases hm
  have hordered := ordered_run hreach hlt hfresh actions
  rw [Nat.zero_add] at hordered
  have hsub := sampledTickets_history (s.run E actions) index
  have hnodup := Ledger.nodup_history (balanced_of_reachable (hreach.run actions)) index
  -- The samples of a stream come as in its history, where other requests may stand between.
  rw [pair_sublist_iff_of_sublist hnodup hsub (Nat.ne_of_lt hlt) hm hn]
  exact hordered.order (hsub.subset hm) (hsub.subset hn)

end Session

namespace Sketch

/-- A request is put off in a pause; a start is called, another request is made before the start is
executed, and all three commands are carried out. -/
def crossing : List (Action Nat) :=
  paused ++ [.requestSample 1 (some 5), .take, .execute, start [true, true],
    .requestSample 1 (some 6), .take, .execute, .take, .execute, .take, .execute]

theorem sampledTickets_crossing : (play crossing).sampledTickets 1 = [5, 3] := rfl

/-- The request that was accepted first gets its sample last. -/
theorem samples_out_of_order :
    (play crossing).acceptedRequests = [(1, ⟨3, some 5⟩), (1, ⟨5, some 6⟩)] ∧
      3 ∈ (play crossing).sampledTickets 1 ∧ 5 ∈ (play crossing).sampledTickets 1 ∧
      ¬[3, 5].Sublist ((play crossing).sampledTickets 1) := by
  rw [sampledTickets_crossing]
  exact ⟨rfl, by decide, by decide, by decide⟩

theorem samples_in_order_iff_crossing :
    [3, 5].Sublist ((play crossing).sampledTickets 1) ↔
      Even (Session.overtakings engine 1 3 5 opened crossing) := by
  have hfirst : 3 ∈ (play crossing).sampledTickets 1 := by
    rw [sampledTickets_crossing]
    decide
  have hsecond : 5 ∈ (play crossing).sampledTickets 1 := by
    rw [sampledTickets_crossing]
    decide
  exact Session.samples_in_order_iff opened_eq crossing (by decide) hfirst hsecond

end Sketch
end PullStreams
