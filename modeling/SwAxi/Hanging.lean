import SwAxi.Matching

/-! Which futures are left hanging once both threads of a bridge have returned. Nothing but the reader sets promises,
and each of its exits leaves those alone that are still to be set. -/

namespace SwAxi
open Wire (Flatbuffers)
open Transition

namespace Ledger

/-- The promise is to be set when a response comes, now or once the writer has dealt with its request. -/
def Pending (l : Ledger) (p : Nat) : Prop :=
  (∃ tx ∈ l.waiting, tx.promise = some p) ∨ ∃ m id tx, (l.masters m).txns id = some tx ∧ tx.promise = some p

/-- Every issued request has its promise set or pending. -/
def Tracked (l : Ledger) : Prop := ∀ p < l.issued.length, l.futures p = none → l.Pending p

/-- Every issued request has its promise set. -/
def AllSet (l : Ledger) : Prop := ∀ p < l.issued.length, l.futures p ≠ none

/-- No request waits for the writer or for its response. -/
def Settled (l : Ledger) : Prop :=
  (∀ tx ∈ l.waiting, tx.isRequest = false) ∧ ∀ m id, (l.masters m).txns id = none

/-- The request that the writer comes to next gets an id under which no other request of its master is outstanding. -/
def Fits (l : Ledger) : Prop := ∀ tx rest, l.waiting = tx :: rest → tx.isRequest = true →
  (l.masters tx.txn.initiator).txns (l.masters tx.txn.initiator).lastTxnId = none

/-- Nothing will set the promise. -/
structure Lost (l : Ledger) (p : Nat) : Prop where
  issued : p < l.issued.length
  unset : l.futures p = none
  pending : ¬l.Pending p

section
variable {l l' : Ledger} {p : Nat}

/-! ### Unset promises -/

theorem Booked.unset_of_not_assigned (h : l.Booked) (hp : p ∉ l.assigned.map Prod.fst) : l.futures p = none := by
  cases hf : l.futures p with
  | none => rfl
  | some st =>
    obtain ⟨response, hr, -⟩ := h.resolved p st hf
    exact absurd (List.mem_map_of_mem (f := Prod.fst) (h.matched p response hr).1) hp

theorem Booked.unset_of_pending (h : l.Booked) (hp : l.Pending p) : p < l.issued.length ∧ l.futures p = none := by
  rcases hp with ⟨tx, htx, hp⟩ | ⟨m, id, tx, htx, hp⟩
  · have hmem : p ∈ l.waiting.filterMap (·.promise) := List.mem_filterMap.mpr ⟨tx, htx, hp⟩
    refine ⟨h.lt_issued (List.mem_append_left _ hmem), h.unset_of_not_assigned fun ha => ?_⟩
    exact (List.nodup_append.mp h.promises).2.2 p hmem p ha rfl
  · obtain ⟨q, hq, ha, hf⟩ := h.outstanding m id tx htx
    rw [hp] at hq
    cases hq
    exact ⟨h.lt_issued (List.mem_append_right _ (List.mem_map_of_mem ha)), hf⟩

/-- Where every unset promise is pending, all are set once nothing is left to deal with. -/
theorem Tracked.allSet (ht : l.Tracked) (h : l.Booked) (hs : l.Settled) : l.AllSet := by
  intro p hp hf
  rcases ht p hp hf with ⟨tx, htx, hpromise⟩ | ⟨m, id, tx, htx, -⟩
  · rcases h.waiting tx htx with ⟨hreq, -⟩ | ⟨-, hnone⟩
    · rw [hs.1 tx htx] at hreq
      cases hreq
    · rw [hpromise] at hnone
      cases hnone
  · rw [hs.2 m id] at htx
    cases htx

theorem Booked.settled (h : l.Booked) (hset : l.AllSet) : l.Settled := by
  have hno : ∀ p, ¬l.Pending p := fun p hp => hset p (h.unset_of_pending hp).1 (h.unset_of_pending hp).2
  refine ⟨fun tx htx => ?_, fun m id => ?_⟩
  · rcases h.waiting tx htx with ⟨-, p, hp, -⟩ | ⟨hreq, -⟩
    · exact absurd (Or.inl ⟨tx, htx, hp⟩) (hno p)
    · exact hreq
  · cases htx : (l.masters m).txns id with
    | none => rfl
    | some tx =>
      obtain ⟨p, hp, -⟩ := h.outstanding m id tx htx
      exact absurd (Or.inr ⟨m, id, tx, htx, hp⟩) (hno p)

/-! ### What the steps do to them -/

theorem assign_txns {tx : Master.Txn} {rest : List Master.Txn} {m id : UInt64} :
    ((l.assign tx rest).masters m).txns id =
      if m = tx.txn.initiator ∧ id = (l.masters tx.txn.initiator).lastTxnId then
        some { tx with txn := { tx.txn with id := (l.masters tx.txn.initiator).lastTxnId } }
      else (l.masters m).txns id := by
  by_cases hm : m = tx.txn.initiator
  · subst hm
    rw [assign_masters_self]
    by_cases hid : id = (l.masters tx.txn.initiator).lastTxnId
    · subst hid
      simp
    · simp [hid]
  · simp [assign_masters_ne hm, hm]

theorem Tracked.work (ht : l.Tracked) (h : l.Booked) (hw : Work l l') (hfit : l'.assigned = l.assigned ∨ l.Fits) :
    l'.Tracked := by
  cases hw with
  | stay => exact ht
  | issue txn buffer hreq =>
    intro p hp hf
    rw [List.length_append, List.length_singleton] at hp
    by_cases hlt : p < l.issued.length
    · rcases ht p hlt hf with ⟨tx, htx, hpromise⟩ | hout
      · exact Or.inl ⟨tx, List.mem_append_left _ htx, hpromise⟩
      · exact Or.inr hout
    · obtain rfl : l.issued.length = p := by omega
      exact Or.inl ⟨_, List.mem_append_right _ (List.mem_singleton_self _), rfl⟩
  | push tx hreq hp =>
    intro p hlt hf
    rcases ht p hlt hf with ⟨x, hx, hpromise⟩ | hout
    · exact Or.inl ⟨x, List.mem_append_left _ hx, hpromise⟩
    · exact Or.inr hout
  | drop tx rest hw hreq =>
    intro p hlt hf
    rcases ht p hlt hf with ⟨x, hx, hpromise⟩ | hout
    · rw [hw] at hx
      rcases List.mem_cons.mp hx with rfl | hx
      · rcases h.waiting x (hw ▸ List.mem_cons_self) with ⟨hr, -⟩ | ⟨-, hnone⟩
        · rw [hreq] at hr
          cases hr
        · rw [hpromise] at hnone
          cases hnone
      · exact Or.inl ⟨x, hx, hpromise⟩
    · exact Or.inr hout
  | assign tx rest hw hreq =>
    obtain ⟨q, hq, -⟩ : ∃ q, tx.promise = some q ∧ l.issued[q]? = some tx.txn := by
      simpa [hreq] using h.waiting tx (hw ▸ List.mem_cons_self)
    have hfree : (l.masters tx.txn.initiator).txns (l.masters tx.txn.initiator).lastTxnId = none := by
      rcases hfit with heq | hfit
      · rw [assign_assigned hq] at heq
        simp at heq
      · exact hfit tx rest hw hreq
    intro p hlt hf
    rcases ht p hlt hf with ⟨x, hx, hpromise⟩ | ⟨m, id, x, hx, hpromise⟩
    · rw [hw] at hx
      rcases List.mem_cons.mp hx with rfl | hx
      · exact Or.inr ⟨x.txn.initiator, _, _, assign_txns.trans (if_pos ⟨rfl, rfl⟩), hpromise⟩
      · exact Or.inl ⟨x, hx, hpromise⟩
    · refine Or.inr ⟨m, id, x, assign_txns.trans ?_, hpromise⟩
      rw [if_neg]
      · exact hx
      · rintro ⟨rfl, rfl⟩
        rw [hfree] at hx
        cases hx

theorem Tracked.resolve (ht : l.Tracked) {response : Transaction} {tx : Master.Txn}
    (htx : (l.masters response.initiator).txns response.id = some tx) (hp : tx.promise = some p) :
    (l.resolve p response).Tracked := by
  intro q hlt hf
  have hne : q ≠ p := by
    rintro rfl
    rw [resolve_futures_self] at hf
    cases hf
  rw [resolve_futures_of_ne hne] at hf
  rcases ht q hlt hf with hwaits | ⟨m, id, x, hx, hpromise⟩
  · exact Or.inl hwaits
  · refine Or.inr ⟨m, id, x, (erase_txns_of_ne ?_).trans hx, hpromise⟩
    rintro ⟨⟩
    rw [htx] at hx
    cases hx
    rw [hp] at hpromise
    exact hne (Option.some.inj hpromise).symm

/-- A request that loses its entry to another one is lost. -/
theorem Booked.lost_of_assign (h : l.Booked) {tx x : Master.Txn} {rest : List Master.Txn} (hw : l.waiting = tx :: rest)
    (hreq : tx.isRequest = true)
    (hx : (l.masters tx.txn.initiator).txns (l.masters tx.txn.initiator).lastTxnId = some x) :
    ∃ p, (l.assign tx rest).Lost p := by
  obtain ⟨q, hq, -⟩ : ∃ q, tx.promise = some q ∧ l.issued[q]? = some tx.txn := by
    simpa [hreq] using h.waiting tx (hw ▸ List.mem_cons_self)
  obtain ⟨p, hp, ha, hf⟩ := h.outstanding _ _ _ hx
  have hlt : p < l.issued.length := h.lt_issued (List.mem_append_right _ (List.mem_map_of_mem (f := Prod.fst) ha))
  have hwaits : ∀ y ∈ l.waiting, y.promise ≠ some p := fun y hy hpromise =>
    (List.nodup_append.mp h.promises).2.2 p (List.mem_filterMap.mpr ⟨y, hy, hpromise⟩) p
      (List.mem_map_of_mem (f := Prod.fst) ha) rfl
  refine ⟨p, hlt, hf, ?_⟩
  rintro (⟨y, hy, hpromise⟩ | ⟨m, id, y, hy, hpromise⟩)
  · exact hwaits y (hw ▸ List.mem_cons_of_mem _ hy) hpromise
  · rw [assign_txns] at hy
    split at hy
    · cases hy
      exact hwaits tx (hw ▸ List.mem_cons_self) hpromise
    · rename_i hne
      -- Both entries have the promise `p`, so they are one.
      obtain ⟨p', hp', ha', -⟩ := h.outstanding m id y hy
      rw [hpromise] at hp'
      cases hp'
      have hnodup : (l.assigned.map Prod.fst).Nodup := List.Nodup.of_append_right h.promises
      cases List.inj_on_of_nodup_map hnodup ha' ha rfl
      exact hne ⟨rfl, rfl⟩

theorem Lost.step (hl : l.Lost p) (hs : Step l l') : l'.Lost p := by
  have hno := hl.pending
  cases hs with
  | work hw =>
    cases hw with
    | stay => exact hl
    | issue txn buffer hreq =>
      refine ⟨by simpa using Nat.lt_succ_of_lt hl.issued, hl.unset, ?_⟩
      rintro (⟨x, hx, hpromise⟩ | hout)
      · rcases List.mem_append.mp hx with hx | hx
        · exact hno (Or.inl ⟨x, hx, hpromise⟩)
        · rw [List.mem_singleton.mp hx] at hpromise
          exact absurd (Option.some.inj hpromise) (Nat.ne_of_gt hl.issued)
      · exact hno (Or.inr hout)
    | push tx hreq hp =>
      refine ⟨hl.issued, hl.unset, ?_⟩
      rintro (⟨x, hx, hpromise⟩ | hout)
      · rcases List.mem_append.mp hx with hx | hx
        · exact hno (Or.inl ⟨x, hx, hpromise⟩)
        · rw [List.mem_singleton.mp hx, hp] at hpromise
          cases hpromise
      · exact hno (Or.inr hout)
    | drop tx rest hw hreq =>
      refine ⟨hl.issued, hl.unset, ?_⟩
      rintro (⟨x, hx, hpromise⟩ | hout)
      · exact hno (Or.inl ⟨x, hw ▸ List.mem_cons_of_mem _ hx, hpromise⟩)
      · exact hno (Or.inr hout)
    | assign tx rest hw hreq =>
      refine ⟨hl.issued, hl.unset, ?_⟩
      rintro (⟨x, hx, hpromise⟩ | ⟨m, id, x, hx, hpromise⟩)
      · exact hno (Or.inl ⟨x, hw ▸ List.mem_cons_of_mem _ hx, hpromise⟩)
      · rw [assign_txns] at hx
        split at hx
        · cases hx
          exact hno (Or.inl ⟨tx, hw ▸ List.mem_cons_self, hpromise⟩)
        · exact hno (Or.inr ⟨m, id, x, hx, hpromise⟩)
  | erase m id =>
    refine ⟨hl.issued, hl.unset, ?_⟩
    rintro (hwaits | ⟨n, k, x, hx, hpromise⟩)
    · exact hno (Or.inl hwaits)
    · exact hno (Or.inr ⟨n, k, x, (erase_txns hx).1, hpromise⟩)
  | resolve q response tx htx hq hf =>
    have hne : p ≠ q := by
      rintro rfl
      exact hno (Or.inr ⟨_, _, tx, htx, hq⟩)
    refine ⟨hl.issued, (resolve_futures_of_ne hne).trans hl.unset, ?_⟩
    rintro (hwaits | ⟨n, k, x, hx, hpromise⟩)
    · exact hno (Or.inl hwaits)
    · exact hno (Or.inr ⟨n, k, x, (erase_txns hx).1, hpromise⟩)

end

end Ledger

namespace Bridge
variable {S Buf : Type} {b t : Bridge S}

/-! ### What the steps of the bridge do -/

/-- The call is a `read` or `write` of a master. -/
def Event.issues : Event Buf → Bool
  | .read _ _ | .write _ _ => true
  | _ => false

theorem readerResponse_log (txn : Transaction) : (b.readerResponse txn).ledger.issued = b.ledger.issued ∧
    (b.readerResponse txn).ledger.assigned = b.ledger.assigned := by
  rcases readerResponse_cases (b := b) txn with ⟨-, heq, -⟩ | ⟨mTxn, -, ⟨heq, -⟩ | ⟨p, -, -, heq, -⟩⟩
  all_goals rw [heq]; exact ⟨rfl, rfl⟩

variable [Slave S]

theorem readerProcess_log (txn : Transaction) : (b.readerProcess txn).ledger.issued = b.ledger.issued ∧
    (b.readerProcess txn).ledger.assigned = b.ledger.assigned := by
  unfold readerProcess
  split
  · unfold readerRequest
    split <;> exact ⟨rfl, rfl⟩
  · exact readerResponse_log txn

variable [Flatbuffers Buf] {e : Event Buf}

/-- Masters issue requests, and the writer gives out ids. -/
theorem step_log (h : b.step e = some t) : (t.ledger.issued = b.ledger.issued ∨ e.issues = true) ∧
    (t.ledger.assigned = b.ledger.assigned ∨ e = .dispatch) := by
  cases moves_of_step h with
  | read m buffer => exact ⟨Or.inr rfl, Or.inl rfl⟩
  | write m buffer => exact ⟨Or.inr rfl, Or.inl rfl⟩
  | terminate m => exact ⟨Or.inl rfl, Or.inl rfl⟩
  | notify q hq => exact ⟨Or.inl rfl, Or.inl rfl⟩
  | spurious q hq => exact ⟨Or.inl rfl, Or.inl rfl⟩
  | pop q r hw hq => cases r <;> exact ⟨Or.inl rfl, Or.inl rfl⟩
  | resume q r hw hq => cases r <;> exact ⟨Or.inl rfl, Or.inl rfl⟩
  | dispatch tx hw =>
    refine ⟨Or.inl ?_, Or.inr rfl⟩
    rcases writerDispatch_cases (b := b) tx with ⟨-, heq⟩ | ⟨-, heq⟩ | ⟨-, -, heq⟩ <;> rw [heq] <;> rfl
  | sent out write hw =>
    rw [writerSent_ledger hw]
    exact ⟨Or.inl rfl, Or.inl rfl⟩
  | receive read hr =>
    rw [readerReceive_ledger]
    exact ⟨Or.inl rfl, Or.inl rfl⟩
  | process txn hr => exact ⟨Or.inl (readerProcess_log txn).1, Or.inl (readerProcess_log txn).2⟩

/-- Only the reader's own steps move it. -/
theorem readerThread_step (h : b.step e = some t) : t.readerThread = b.readerThread ∨
    (∃ read, e = .receive read ∧ b.readerThread = some .receiving ∧ t = b.readerReceive read) ∨
    ∃ txn, e = .process ∧ b.readerThread = some (.holding txn) ∧ t = b.readerProcess txn := by
  cases moves_of_step h with
  | read m buffer => exact Or.inl rfl
  | write m buffer => exact Or.inl rfl
  | terminate m => exact Or.inl rfl
  | notify q hq => exact Or.inl rfl
  | spurious q hq => exact Or.inl rfl
  | pop q r hw hq => cases r <;> exact Or.inl rfl
  | resume q r hw hq => cases r <;> exact Or.inl rfl
  | dispatch tx hw =>
    rcases writerDispatch_cases (b := b) tx with ⟨-, heq⟩ | ⟨-, heq⟩ | ⟨-, -, heq⟩ <;> rw [heq] <;> exact Or.inl rfl
  | sent out write hw =>
    unfold writerSent writerReturn
    split
    split
    · exact Or.inl rfl
    · split <;> exact Or.inl rfl
  | receive read hr => exact Or.inr (Or.inl ⟨read, rfl, hr, rfl⟩)
  | process txn hr => exact Or.inr (Or.inr ⟨txn, rfl, hr, rfl⟩)

/-- A reader that has returned stays so, and so does one that has crashed. -/
theorem readerThread_stays {th : ReaderThread} (h : b.step e = some t) (hb : b.readerThread = some th)
    (hth : th = .returned ∨ th = .crashed) : t.readerThread = some th := by
  rcases readerThread_step h with heq | ⟨read, -, hr, -⟩ | ⟨txn, -, hr, -⟩
  · exact heq.trans hb
  · rw [hb] at hr
    rcases hth with rfl | rfl <;> cases hr
  · rw [hb] at hr
    rcases hth with rfl | rfl <;> cases hr

/-- The reader leaves its loop in this step: the message does not come, is `DONE` or is no transaction, or it has
    one for an unknown slave, master or request. -/
def ReaderLeaves (b : Bridge S) : Event Buf → Prop
  | .receive read => b.readerThread = some .receiving ∧
      ∃ client txn st, b.client.receiveTransaction read = some (client, txn, st) ∧ st.isError = true
  | .process => ∃ txn, b.readerThread = some (.holding txn) ∧
      if txn.type.isRequest then b.slaveMap txn.target = none else ¬b.Outstanding txn.initiator txn.id
  | _ => False

theorem readerLeaves_of_returned (h : b.step e = some t) (hb : b.readerThread ≠ some .returned)
    (ht : t.readerThread = some .returned) : b.ReaderLeaves e := by
  rcases readerThread_step h with heq | ⟨read, rfl, hr, rfl⟩ | ⟨txn, rfl, hr, rfl⟩
  · exact absurd (heq.symm.trans ht) hb
  · refine ⟨hr, ?_⟩
    unfold readerReceive readerReturn at ht
    split at ht
    · cases ht
    · rename_i client txn st hreceive
      refine ⟨client, txn, st, hreceive, ?_⟩
      by_contra hst
      simp only [hst, if_false] at ht
      split at ht <;> cases ht
  · refine ⟨txn, hr, ?_⟩
    unfold readerProcess at ht
    split at ht
    · rename_i hreq
      rw [if_pos hreq]
      unfold readerRequest at ht
      split at ht
      · assumption
      · cases ht
    · rename_i hreq
      rw [if_neg hreq]
      rcases readerResponse_cases (b := b) txn with ⟨hnone, -⟩ | ⟨mTxn, -, ⟨-, hcrash⟩ | ⟨p, -, -, -, hrec⟩⟩
      · rintro ⟨md, tx, hm, hid⟩
        rw [outstanding_masters hm hid] at hnone
        cases hnone
      · rw [hcrash] at ht
        cases ht
      · rw [hrec] at ht
        cases ht

theorem returned_of_readerLeaves (h : b.step e = some t) (hl : b.ReaderLeaves e) :
    t.readerThread = some .returned ∧ t.ledger = b.ledger := by
  cases moves_of_step h with
  | receive read hr =>
    obtain ⟨-, client, txn, st, hreceive, hst⟩ := hl
    refine ⟨?_, readerReceive_ledger read⟩
    simp only [readerReceive, readerReturn, hreceive, hst, if_true]
    rfl
  | process txn hr =>
    obtain ⟨txn', hr', hl⟩ := hl
    rw [hr] at hr'
    cases hr'
    unfold readerProcess
    split at hl
    · rename_i hreq
      simp only [hreq, if_true, readerRequest, hl]
      exact ⟨rfl, rfl⟩
    · rename_i hreq
      obtain ⟨msg, heq⟩ := readerResponse_unmatched hl
      rw [if_neg hreq, heq]
      exact ⟨rfl, rfl⟩
  | _ => exact hl.elim

/-- Promises are set by a reader that has not returned. -/
theorem futures_of_returned (h : b.step e = some t) (hb : b.readerThread = some .returned) :
    t.ledger.futures = b.ledger.futures := by
  rcases step_work h with hw | ⟨response, -, hr, -, -⟩
  · exact hw.promises.1
  · rw [hb] at hr
    cases hr

/-! ### Runs -/

/-- Both threads have returned, so that `waitForCompletion` can. -/
structure Completed (b : Bridge S) : Prop where
  reader : b.readerThread = some .returned
  writer : b.writerThread = some .returned

/-- Every request accepted so far has had its promise set, with the status of a response. -/
def Answered (b : Bridge S) : Prop := ∀ p < b.history.issued.length, ∃ st response,
  b.futures p = some st ∧ (p, response) ∈ b.history.fulfilled ∧ st = responseStatus response

/-- The step leaves no future hanging: the reader does not leave its loop while a request is unanswered, no request
    is issued after it did, and none is given the id of another one of its master that still waits for its response. -/
structure Answerable (b : Bridge S) (e : Event Buf) : Prop where
  leaves : b.ReaderLeaves e → b.ledger.Settled
  issues : e.issues = true → b.readerThread ≠ some .returned
  fits : e = .dispatch → b.ledger.Fits

/-- No future hangs so far. -/
structure Accounted (b : Bridge S) : Prop where
  booked : b.ledger.Booked
  tracked : b.readerThread ≠ some .crashed → b.ledger.Tracked
  allSet : b.readerThread = some .returned → b.ledger.AllSet

/-- The promise of a request will never be set. -/
def Doomed (b : Bridge S) (p : Nat) : Prop := b.ledger.Lost p ∨
  b.readerThread = some .returned ∧ p < b.ledger.issued.length ∧ b.ledger.futures p = none

omit [Slave S] in
theorem answered_iff (h : b.ledger.Booked) : b.Answered ↔ b.ledger.AllSet := by
  refine forall_congr' fun p => forall_congr' fun hp => ?_
  constructor
  · rintro ⟨st, response, hf, -⟩ hnone
    rw [show b.futures p = none from hnone] at hf
    cases hf
  · intro hset
    cases hf : b.futures p with
    | none => exact absurd hf hset
    | some st =>
      obtain ⟨response, hr, hst⟩ := h.resolved p st hf
      exact ⟨st, response, rfl, hr, hst⟩

theorem Accounted.step (h : b.Accounted) (hc : b.Answerable e) (hs : b.step e = some t) : t.Accounted := by
  have hcrashed : t.readerThread ≠ some .crashed → b.readerThread ≠ some .crashed :=
    fun ht hb => ht (readerThread_stays hs hb (Or.inr rfl))
  refine ⟨h.booked.step (step_ledger hs), fun ht => ?_, fun ht => ?_⟩
  · have htracked := h.tracked (hcrashed ht)
    rcases step_work hs with hw | ⟨response, -, -, -, rfl⟩
    · exact htracked.work h.booked hw ((step_log hs).2.imp_right hc.fits)
    · rcases readerResponse_cases (b := b) response with ⟨-, heq, -⟩ | ⟨mTxn, htx, ⟨-, hcrash⟩ | ⟨p, hp, -, heq, -⟩⟩
      · exact heq ▸ htracked
      · exact absurd hcrash ht
      · exact heq ▸ htracked.resolve htx hp
  · by_cases hb : b.readerThread = some .returned
    · have hissued := (step_log hs).1.resolve_right fun hi => hc.issues hi hb
      have hset := h.allSet hb
      unfold Ledger.AllSet
      rw [hissued, futures_of_returned hs hb]
      exact hset
    · have hl := readerLeaves_of_returned hs hb ht
      have hlive : b.readerThread ≠ some .crashed := hcrashed (by rw [ht]; simp)
      rw [(returned_of_readerLeaves hs hl).2]
      exact (h.tracked hlive).allSet h.booked (hc.leaves hl)

theorem Doomed.step {p : Nat} (h : b.Doomed p) (hs : b.step e = some t) : t.Doomed p := by
  have hledger := step_ledger hs
  rcases h with hlost | ⟨hb, hp, hf⟩
  · exact Or.inl (hlost.step hledger)
  · refine Or.inr ⟨readerThread_stays hs hb (Or.inl rfl), lt_of_lt_of_le hp ?_, ?_⟩
    · exact hledger.issued_le
    · rw [futures_of_returned hs hb]
      exact hf

omit [Slave S] in
theorem Doomed.not_allSet {p : Nat} (h : b.Doomed p) : ¬b.ledger.AllSet := by
  rcases h with hlost | ⟨-, hp, hf⟩
  · exact fun hset => hset p hlost.issued hlost.unset
  · exact fun hset => hset p hp hf

/-- A step that meets the condition not leaves a promise that will never be set. -/
theorem answerable_of_not_doomed (h : b.ledger.Booked) (hs : b.step e = some t) (hno : ∀ p, ¬t.Doomed p) :
    b.Answerable e where
  leaves hl := by
    obtain ⟨ht, heq⟩ := returned_of_readerLeaves hs hl
    refine h.settled fun p hp hf => hno p (Or.inr ⟨ht, ?_, ?_⟩)
    · rw [heq]
      exact hp
    · rw [heq]
      exact hf
  issues hi hb := by
    have hunset : b.ledger.futures b.ledger.issued.length = none :=
      h.unset_of_not_assigned fun ha => lt_irrefl _ (h.lt_issued (List.mem_append_right _ ha))
    have hlen : t.ledger.issued.length = b.ledger.issued.length + 1 := by
      cases moves_of_step hs with
      | read m buffer => exact List.length_append
      | write m buffer => exact List.length_append
      | _ => cases hi
    refine hno b.ledger.issued.length (Or.inr ⟨readerThread_stays hs hb (Or.inl rfl), by omega, ?_⟩)
    rw [futures_of_returned hs hb]
    exact hunset
  fits he := by
    subst he
    intro tx rest hw hreq
    by_contra hsome
    obtain ⟨x, hx⟩ := Option.ne_none_iff_exists'.mp hsome
    cases moves_of_step hs with
    | dispatch tx' hholds =>
      rw [waiting_holding hholds] at hw
      obtain ⟨rfl, rfl⟩ := List.cons.inj hw
      obtain ⟨p, hlost⟩ := h.lost_of_assign (waiting_holding hholds) hreq hx
      refine hno p (Or.inl ?_)
      rcases writerDispatch_cases (b := b) tx' with ⟨hterm, -⟩ | ⟨-, heq⟩ | ⟨-, hno, -⟩
      · simp [Master.Txn.isRequest, hterm] at hreq
      · rw [heq, assign_ledger]
        exact hlost
      · simp [Master.Txn.isRequest, hno] at hreq

/-- When both threads of a started bridge have returned, every request has had its promise set exactly when every step
    of the session left no future hanging. -/
theorem answered_iff_everyStep {b t : Bridge S} (hb : b.Started) {es : List (Event Buf)} (hr : run step b es = some t)
    (hc : t.Completed) : t.Answered ↔ EveryStep step Answerable b es := by
  have hbooked : b.ledger.Booked := hb.inv.toBooked
  have keep : ∀ (s : Bridge S) (e : Event Buf) u, s.ledger.Booked → s.step e = some u → u.ledger.Booked :=
    fun _ _ _ h hs => h.step (step_ledger hs)
  rw [answered_iff (run_invariant keep hbooked hr)]
  constructor
  · intro hset
    clear hb
    induction es generalizing b with
    | nil => trivial
    | cons e es ih =>
      intro u hu
      obtain ⟨u', hu', hr⟩ := run_cons_inv hr
      cases hu.symm.trans hu'
      refine ⟨answerable_of_not_doomed hbooked hu fun p hp => ?_, ih hr (keep b e u hbooked hu)⟩
      have hdoomed : t.Doomed p := run_invariant (fun _ _ _ h hs => Doomed.step h hs) hp hr
      exact hdoomed.not_allSet hset
  · intro hsteps
    have hstart : b.Accounted := by
      refine ⟨hbooked, fun _ p hp => ?_, fun hret => ?_⟩
      · rw [show b.ledger.issued = [] from congrArg History.issued hb.history] at hp
        cases hp
      · rw [hb.reader] at hret
        cases hret
    exact (run_invariant_of_everyStep (fun _ _ _ h hc hs => h.step hc hs) hstart hsteps hr).allSet hc.reader

/-- A read is answered before a forged response ends the session. -/
def answeredInTime : List (Event Wire.Message) := duplicated ++ [.pop, .notify, .resume, .sent (.ok ())]

theorem answered_answeredInTime : ∃ t, run step session answeredInTime = some t ∧ t.Completed ∧ t.Answered ∧
    EveryStep step Answerable session answeredInTime := by
  have hrun : ∃ t, run step session answeredInTime = some t ∧ t.Completed ∧ t.history.issued.length = 1 ∧
      t.futures 0 = some {} ∧
      t.history.fulfilled = [(0, { type := .readResp, initiator := 1, data := [7, 8], ok := true })] :=
    ⟨_, rfl, ⟨rfl, rfl⟩, rfl, rfl, rfl⟩
  obtain ⟨t, ht, hc, hlen, hset, hful⟩ := hrun
  have hanswered : t.Answered := by
    intro p hp
    obtain rfl : p = 0 := by omega
    exact ⟨{}, _, hset, hful ▸ List.mem_singleton_self _, rfl⟩
  exact ⟨t, ht, hc, hanswered, (answered_iff_everyStep session_started ht hc).mp hanswered⟩

/-- The connection fails after a read was issued: both threads return, and the future of the read hangs. -/
theorem read_hangs : session.Started ∧ ∃ t, run step session
    ([.read 1 { data := [0, 0], size := 2, address := 0x1000 }, .receive (.error "Connection reset by peer"), .pop,
      .dispatch, .sent (.ok ())] : List (Event Wire.Message)) = some t ∧ t.Completed ∧ ¬t.Answered := by
  refine ⟨session_started, _, rfl, ⟨rfl, rfl⟩, fun h => ?_⟩
  obtain ⟨st, response, hf, -⟩ := h 0 (by decide)
  cases hf

end Bridge

end SwAxi
