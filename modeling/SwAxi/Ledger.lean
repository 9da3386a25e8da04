import SwAxi.Threads
import Mathlib.Data.List.Nodup

/-! The ledger of a bridge: its requests by the stage they are in, waiting for the writer, outstanding under
the pair that the writer gave them, or resolved. The steps of the ledger are what a bridge can do to its
requests, whatever its router sends. -/

namespace SwAxi

/-- The item is a request of a master. -/
def Master.Txn.isRequest (tx : Master.Txn) : Bool := decide (tx.type = .transaction) && tx.txn.type.isRequest

structure Ledger where
  /-- What the writer has not dealt with, the item it holds first. -/
  waiting : List Master.Txn
  masters : UInt64 → MasterMd
  futures : Nat → Option Status
  issued : List Transaction
  assigned : List (Nat × UInt64 × UInt64)
  fulfilled : List (Nat × Transaction)

namespace Ledger
open Bridge (responseStatus)

/-- The entry under the pair is gone. -/
def erase (l : Ledger) (master id : UInt64) : Ledger :=
  { l with
    masters := Function.update l.masters master
      { l.masters master with txns := Function.update (l.masters master).txns id none } }

/-- The promise `p` is set by the response, whose entry is gone. -/
def resolve (l : Ledger) (p : Nat) (response : Transaction) : Ledger :=
  { l.erase response.initiator response.id with
    futures := Function.update l.futures p (some (responseStatus response))
    fulfilled := l.fulfilled ++ [(p, response)] }

/-- The request gets the next id of its master and becomes outstanding. -/
def assign (l : Ledger) (tx : Master.Txn) (rest : List Master.Txn) : Ledger :=
  let m := tx.txn.initiator
  let id := (l.masters m).lastTxnId
  { l with
    waiting := rest
    masters := Function.update l.masters m
      { txns := Function.update (l.masters m).txns id (some { tx with txn := { tx.txn with id } })
        lastTxnId := id + 1 }
    assigned := l.assigned ++ tx.promise.toList.map fun p => (p, m, id) }

/-- The steps that set no promise. -/
inductive Work : Ledger → Ledger → Prop where
  | stay (l) : Work l l
  | issue (l) (txn : Transaction) (buffer : Option Nat) (hreq : txn.type.isRequest = true) :
      Work l { l with
        waiting := l.waiting ++ [{ type := .transaction, buffer, txn, promise := some l.issued.length }]
        issued := l.issued ++ [txn] }
  | push (l) (tx : Master.Txn) (hreq : tx.isRequest = false) (hp : tx.promise = none) :
      Work l { l with waiting := l.waiting ++ [tx] }
  | drop (l) (tx : Master.Txn) (rest : List Master.Txn) (hw : l.waiting = tx :: rest) (hreq : tx.isRequest = false) :
      Work l { l with waiting := rest }
  | assign (l) (tx : Master.Txn) (rest : List Master.Txn) (hw : l.waiting = tx :: rest) (hreq : tx.isRequest = true) :
      Work l (l.assign tx rest)

inductive Step : Ledger → Ledger → Prop where
  | work {l l'} (h : Work l l') : Step l l'
  | erase (l) (master id : UInt64) : Step l (l.erase master id)
  | resolve (l) (p : Nat) (response : Transaction) (tx : Master.Txn)
      (htx : (l.masters response.initiator).txns response.id = some tx) (hp : tx.promise = some p)
      (hf : l.futures p = none) : Step l (l.resolve p response)

/-! ### What the steps keep -/

/-- How many of the issued requests are the master's. -/
def requests (l : Ledger) (m : UInt64) : Nat := l.issued.countP fun txn => txn.initiator = m

/-- Every master has issued fewer than `2^64` requests, so no id wraps around. -/
def Bounded (l : Ledger) : Prop := ∀ m, l.requests m < 2 ^ 64

/-- How many ids of the master are given away. -/
def given (l : Ledger) (m : UInt64) : Nat := l.assigned.countP fun a => a.2.1 = m

/-- Every request is kept track of, whatever ids the requests have. -/
structure Booked (l : Ledger) : Prop where
  /-- A waiting request has the promise of its place in `issued`; nothing else that waits has one. -/
  waiting : ∀ tx ∈ l.waiting, (tx.isRequest = true ∧ ∃ p, tx.promise = some p ∧ l.issued[p]? = some tx.txn) ∨
    (tx.isRequest = false ∧ tx.promise = none)
  /-- A promise is in one place only. -/
  promises : (l.waiting.filterMap (·.promise) ++ l.assigned.map Prod.fst).Nodup
  owner : ∀ p m id, (p, m, id) ∈ l.assigned → ∃ txn, l.issued[p]? = some txn ∧ txn.initiator = m
  outstanding : ∀ m id tx, (l.masters m).txns id = some tx →
    ∃ p, tx.promise = some p ∧ (p, m, id) ∈ l.assigned ∧ l.futures p = none
  /-- A set promise comes from a response to its pair. -/
  resolved : ∀ p st, l.futures p = some st →
    ∃ response, (p, response) ∈ l.fulfilled ∧ st = responseStatus response
  matched : ∀ p response, (p, response) ∈ l.fulfilled →
    (p, response.initiator, response.id) ∈ l.assigned ∧ l.futures p ≠ none
  once : (l.fulfilled.map Prod.fst).Nodup

/-- No id is given twice by a master. -/
structure Inv (l : Ledger) : Prop extends Booked l where
  /-- The requests given an id and the waiting ones are among those issued. -/
  counts : ∀ m, l.given m + l.waiting.countP (fun tx => tx.isRequest && decide (tx.txn.initiator = m)) ≤ l.requests m
  /-- The ids given are those below the next one. -/
  next : ∀ m, (l.masters m).lastTxnId.toNat = l.given m
  below : ∀ p m id, (p, m, id) ∈ l.assigned → id < (l.masters m).lastTxnId
  pairs : (l.assigned.map Prod.snd).Nodup

section
variable {l l' : Ledger}

theorem Step.requests_le (h : Step l l') (m : UInt64) : l.requests m ≤ l'.requests m := by
  cases h with
  | work h =>
    cases h with
    | issue txn => simp [requests]
    | stay => exact le_rfl
    | push => exact le_rfl
    | drop => exact le_rfl
    | assign => exact le_rfl
  | erase => exact le_rfl
  | resolve => exact le_rfl

theorem Step.issued_le (h : Step l l') : l.issued.length ≤ l'.issued.length := by
  cases h with
  | work h =>
    cases h with
    | issue txn => simp
    | stay => exact le_rfl
    | push => exact le_rfl
    | drop => exact le_rfl
    | assign => exact le_rfl
  | erase => exact le_rfl
  | resolve => exact le_rfl

theorem Work.promises (h : Work l l') : l'.futures = l.futures ∧ l'.fulfilled = l.fulfilled := by
  cases h <;> exact ⟨rfl, rfl⟩

theorem Step.bounded (h : Step l l') (hb : l'.Bounded) : l.Bounded :=
  fun m => lt_of_le_of_lt (h.requests_le m) (hb m)

theorem Booked.push {tx : Master.Txn} (h : l.Booked) (hreq : tx.isRequest = false) (hp : tx.promise = none) :
    Booked { l with waiting := l.waiting ++ [tx] } :=
  { h with
    waiting := fun x hx => by
      rcases List.mem_append.mp hx with hx | hx
      · exact h.waiting x hx
      · rw [List.mem_singleton.mp hx]
        exact Or.inr ⟨hreq, hp⟩
    promises := by simpa [List.filterMap_append, hp] using h.promises }

theorem Inv.push {tx : Master.Txn} (h : l.Inv) (hreq : tx.isRequest = false) (hp : tx.promise = none) :
    Inv { l with waiting := l.waiting ++ [tx] } :=
  { h with
    toBooked := h.toBooked.push hreq hp
    counts := fun m => by simpa [given, requests, List.countP_append, hreq] using h.counts m }

theorem Booked.drop {tx : Master.Txn} {rest : List Master.Txn} (h : l.Booked) (hw : l.waiting = tx :: rest)
    (hreq : tx.isRequest = false) : Booked { l with waiting := rest } :=
  { h with
    waiting := fun x hx => h.waiting x (hw ▸ List.mem_cons_of_mem _ hx)
    promises := by
      have hp : tx.promise = none := by simpa [hreq] using h.waiting tx (hw ▸ List.mem_cons_self)
      have hn := h.promises
      rwa [hw, List.filterMap_cons_none hp] at hn }

theorem Inv.drop {tx : Master.Txn} {rest : List Master.Txn} (h : l.Inv) (hw : l.waiting = tx :: rest)
    (hreq : tx.isRequest = false) : Inv { l with waiting := rest } :=
  { h with
    toBooked := h.toBooked.drop hw hreq
    counts := fun m => by
      have hc := h.counts m
      rwa [hw, List.countP_cons_of_neg (by simp [hreq])] at hc }

theorem Booked.lt_issued {p : Nat} (h : l.Booked)
    (hp : p ∈ l.waiting.filterMap (·.promise) ++ l.assigned.map Prod.fst) : p < l.issued.length := by
  have hget : ∃ txn, l.issued[p]? = some txn := by
    rcases List.mem_append.mp hp with hp | hp
    · obtain ⟨tx, htx, heq⟩ := List.mem_filterMap.mp hp
      rcases h.waiting tx htx with ⟨-, q, hq, hget⟩ | ⟨-, hnone⟩
      · rw [heq] at hq
        cases hq
        exact ⟨_, hget⟩
      · rw [heq] at hnone
        cases hnone
    · obtain ⟨⟨q, m, id⟩, ha, rfl⟩ := List.mem_map.mp hp
      obtain ⟨txn, hget, -⟩ := h.owner q m id ha
      exact ⟨txn, hget⟩
  obtain ⟨txn, hget⟩ := hget
  exact (List.getElem?_eq_some_iff.mp hget).1

theorem getElem?_issue {txn x : Transaction} {p : Nat} (h : l.issued[p]? = some x) :
    (l.issued ++ [txn])[p]? = some x := by
  rw [List.getElem?_append_left (List.getElem?_eq_some_iff.mp h).1, h]

theorem Booked.issue {txn : Transaction} {buffer : Option Nat} (h : l.Booked) (hreq : txn.type.isRequest = true) :
    Booked { l with
      waiting := l.waiting ++ [{ type := .transaction, buffer, txn, promise := some l.issued.length }]
      issued := l.issued ++ [txn] } :=
  { h with
    waiting := fun x hx => by
      rcases List.mem_append.mp hx with hx | hx
      · rcases h.waiting x hx with ⟨hr, p, hp, hget⟩ | hnone
        · exact Or.inl ⟨hr, p, hp, getElem?_issue hget⟩
        · exact Or.inr hnone
      · rw [List.mem_singleton.mp hx]
        exact Or.inl ⟨by simp [Master.Txn.isRequest, hreq], l.issued.length, rfl, by simp⟩
    promises := by
      -- The new promise lies beyond all issued requests.
      have hfresh : l.issued.length ∉ l.waiting.filterMap (·.promise) ++ l.assigned.map Prod.fst :=
        fun hmem => lt_irrefl _ (h.lt_issued hmem)
      rw [List.filterMap_append, List.append_assoc]
      refine (List.perm_middle.nodup_iff).mpr ?_
      exact List.nodup_cons.mpr ⟨hfresh, h.promises⟩
    owner := fun p m id ha => by
      obtain ⟨x, hget, hm⟩ := h.owner p m id ha
      exact ⟨x, getElem?_issue hget, hm⟩ }

theorem Inv.issue {txn : Transaction} {buffer : Option Nat} (h : l.Inv) (hreq : txn.type.isRequest = true) :
    Inv { l with
      waiting := l.waiting ++ [{ type := .transaction, buffer, txn, promise := some l.issued.length }]
      issued := l.issued ++ [txn] } :=
  { h with
    toBooked := h.toBooked.issue hreq
    counts := fun m => by
      have hc := h.counts m
      unfold given requests at *
      have hnew : Master.Txn.isRequest { type := .transaction, buffer, txn, promise := some l.issued.length } = true := by
        simp [Master.Txn.isRequest, hreq]
      simp only [List.countP_append, List.countP_singleton, hnew, Bool.true_and]
      omega }

/-! #### Giving an id -/

@[simp] theorem assign_waiting {tx : Master.Txn} {rest : List Master.Txn} : (l.assign tx rest).waiting = rest := rfl
@[simp] theorem assign_issued {tx : Master.Txn} {rest : List Master.Txn} : (l.assign tx rest).issued = l.issued := rfl
@[simp] theorem assign_futures {tx : Master.Txn} {rest : List Master.Txn} : (l.assign tx rest).futures = l.futures := rfl

theorem assign_assigned {tx : Master.Txn} {rest : List Master.Txn} {p : Nat} (hp : tx.promise = some p) :
    (l.assign tx rest).assigned = l.assigned ++ [(p, tx.txn.initiator, (l.masters tx.txn.initiator).lastTxnId)] := by
  simp [assign, hp]

theorem assign_given {tx : Master.Txn} {rest : List Master.Txn} {p : Nat} (hp : tx.promise = some p) (m : UInt64) :
    (l.assign tx rest).given m = l.given m + if tx.txn.initiator = m then 1 else 0 := by
  simp [given, assign_assigned hp, List.countP_append, List.countP_singleton]

theorem assign_masters_self {tx : Master.Txn} {rest : List Master.Txn} :
    (l.assign tx rest).masters tx.txn.initiator =
      { txns := Function.update (l.masters tx.txn.initiator).txns (l.masters tx.txn.initiator).lastTxnId
          (some { tx with txn := { tx.txn with id := (l.masters tx.txn.initiator).lastTxnId } })
        lastTxnId := (l.masters tx.txn.initiator).lastTxnId + 1 } := by
  simp [assign]

theorem assign_masters_ne {tx : Master.Txn} {rest : List Master.Txn} {m : UInt64} (hm : m ≠ tx.txn.initiator) :
    (l.assign tx rest).masters m = l.masters m := by
  simp [assign, hm]

/-- The next id of the master does not wrap: the request itself is one of fewer than `2^64`. -/
theorem Inv.next_toNat (h : l.Inv) (hb : l.Bounded) {tx : Master.Txn} {rest : List Master.Txn}
    (hw : l.waiting = tx :: rest) (hreq : tx.isRequest = true) :
    ((l.masters tx.txn.initiator).lastTxnId + 1).toNat = (l.masters tx.txn.initiator).lastTxnId.toNat + 1 := by
  have hc := h.counts tx.txn.initiator
  have hlt := hb tx.txn.initiator
  rw [hw, List.countP_cons_of_pos (by simp [hreq])] at hc
  rw [UInt64.toNat_add, UInt64.toNat_one, h.next, Nat.mod_eq_of_lt (by omega)]

theorem Booked.assign (h : l.Booked) {tx : Master.Txn} {rest : List Master.Txn} (hw : l.waiting = tx :: rest)
    (hreq : tx.isRequest = true) : (l.assign tx rest).Booked := by
  obtain ⟨p, hp, hget⟩ : ∃ p, tx.promise = some p ∧ l.issued[p]? = some tx.txn := by
    simpa [hreq] using h.waiting tx (hw ▸ List.mem_cons_self)
  have hnodup : (p :: (rest.filterMap (·.promise) ++ l.assigned.map Prod.fst)).Nodup := by
    have hn := h.promises
    rwa [hw, List.filterMap_cons_some hp] at hn
  have hassigned : (l.assign tx rest).assigned = _ := assign_assigned hp
  have hkeep : ∀ a ∈ l.assigned, a ∈ (l.assign tx rest).assigned := fun a ha => by
    rw [hassigned]
    exact List.mem_append_left _ ha
  refine
    { waiting := fun x hx => h.waiting x (hw ▸ List.mem_cons_of_mem _ hx)
      promises := ?_
      owner := fun q m id ha => ?_
      outstanding := fun m id x hx => ?_
      resolved := h.resolved
      matched := fun q response hq => ⟨hkeep _ (h.matched q response hq).1, (h.matched q response hq).2⟩
      once := h.once }
  · rw [hassigned, List.map_append, List.map_singleton, ← List.append_assoc]
    exact (List.perm_append_singleton _ _).nodup_iff.mpr hnodup
  · rw [hassigned] at ha
    rcases List.mem_append.mp ha with ha | ha
    · exact h.owner q m id ha
    · cases List.mem_singleton.mp ha
      exact ⟨tx.txn, hget, rfl⟩
  · have hold : (l.masters m).txns id = some x →
        ∃ q, x.promise = some q ∧ (q, m, id) ∈ (l.assign tx rest).assigned ∧ l.futures q = none := fun hx => by
      obtain ⟨q, hq, ha, hf⟩ := h.outstanding m id x hx
      exact ⟨q, hq, hkeep _ ha, hf⟩
    by_cases hm : m = tx.txn.initiator
    · subst hm
      rw [assign_masters_self] at hx
      by_cases hid : id = (l.masters tx.txn.initiator).lastTxnId
      · subst hid
        obtain rfl : { tx with txn := { tx.txn with id := (l.masters tx.txn.initiator).lastTxnId } } = x := by
          simpa using hx
        refine ⟨p, hp, by simp [hassigned], ?_⟩
        -- A set promise is an assigned one.
        cases hf : l.futures p with
        | none => exact hf
        | some st =>
          obtain ⟨response, hr, -⟩ := h.resolved p st hf
          have hmem := List.mem_map_of_mem (f := Prod.fst) (h.matched p response hr).1
          exact absurd (List.mem_append_right _ hmem) (List.nodup_cons.mp hnodup).1
      · exact hold (by simpa [hid] using hx)
    · exact hold (by rwa [assign_masters_ne hm] at hx)

theorem Inv.assign (h : l.Inv) (hb : l.Bounded) {tx : Master.Txn} {rest : List Master.Txn}
    (hw : l.waiting = tx :: rest) (hreq : tx.isRequest = true) : (l.assign tx rest).Inv := by
  obtain ⟨p, hp, -⟩ : ∃ p, tx.promise = some p ∧ l.issued[p]? = some tx.txn := by
    simpa [hreq] using h.waiting tx (hw ▸ List.mem_cons_self)
  have hnext := h.next_toNat hb hw hreq
  have hassigned : (l.assign tx rest).assigned = _ := assign_assigned hp
  refine
    { toBooked := h.toBooked.assign hw hreq
      counts := fun m => ?_
      next := fun m => ?_
      below := fun q m id ha => ?_
      pairs := ?_ }
  · have hc := h.counts m
    rw [hw, List.countP_cons] at hc
    simp only [hreq, Bool.true_and, decide_eq_true_eq] at hc
    rw [assign_given hp, assign_waiting]
    change _ ≤ l.requests m
    omega
  · rw [assign_given hp]
    by_cases hm : m = tx.txn.initiator
    · subst hm
      rw [assign_masters_self, hnext, h.next, if_pos rfl]
    · rw [assign_masters_ne hm, h.next, if_neg (Ne.symm hm), Nat.add_zero]
  · rw [hassigned] at ha
    rw [UInt64.lt_iff_toNat_lt]
    by_cases hm : m = tx.txn.initiator
    · subst hm
      rw [assign_masters_self, hnext]
      rcases List.mem_append.mp ha with ha | ha
      · exact Nat.lt_succ_of_lt (UInt64.lt_iff_toNat_lt.mp (h.below q _ id ha))
      · cases List.mem_singleton.mp ha
        exact Nat.lt_succ_self _
    · rw [assign_masters_ne hm]
      rcases List.mem_append.mp ha with ha | ha
      · exact UInt64.lt_iff_toNat_lt.mp (h.below q m id ha)
      · cases List.mem_singleton.mp ha
        exact absurd rfl hm
  · rw [hassigned, List.map_append, List.map_singleton]
    refine (List.perm_append_singleton _ _).nodup_iff.mpr (List.nodup_cons.mpr ⟨fun hmem => ?_, h.pairs⟩)
    obtain ⟨⟨q, m, id⟩, ha, heq⟩ := List.mem_map.mp hmem
    obtain ⟨rfl, rfl⟩ := Prod.mk.inj heq
    exact UInt64.lt_irrefl _ (h.below q _ _ ha)

/-! #### Matching a response -/

theorem erase_lastTxnId {m id n : UInt64} : ((l.erase m id).masters n).lastTxnId = (l.masters n).lastTxnId := by
  by_cases hn : n = m
  · subst hn
    simp [erase]
  · simp [erase, hn]

theorem erase_txns_of_ne {m id n k : UInt64} (h : (n, k) ≠ (m, id)) :
    ((l.erase m id).masters n).txns k = (l.masters n).txns k := by
  by_cases hn : n = m
  · subst hn
    have hk : k ≠ id := fun hk => h (by rw [hk])
    simp [erase, hk]
  · simp [erase, hn]

/-- What is outstanding after an entry is gone was so before, and is another entry. -/
theorem erase_txns {m id n k : UInt64} {tx : Master.Txn} (h : ((l.erase m id).masters n).txns k = some tx) :
    (l.masters n).txns k = some tx ∧ (n, k) ≠ (m, id) := by
  have hne : (n, k) ≠ (m, id) := by
    rintro ⟨⟩
    simp [erase] at h
  rw [erase_txns_of_ne hne] at h
  exact ⟨h, hne⟩

/-- Nothing becomes outstanding where an entry goes. -/
theorem erase_txns_none {m id n k : UInt64} (h : (l.masters n).txns k = none) :
    ((l.erase m id).masters n).txns k = none := by
  cases he : ((l.erase m id).masters n).txns k with
  | none => rfl
  | some tx => exact (erase_txns he).1.symm.trans h

theorem resolve_futures_self {p : Nat} {response : Transaction} :
    (l.resolve p response).futures p = some (responseStatus response) :=
  Function.update_self _ _ _

theorem resolve_futures_of_ne {p q : Nat} {response : Transaction} (h : q ≠ p) :
    (l.resolve p response).futures q = l.futures q :=
  Function.update_of_ne h _ _

theorem Booked.erase (h : l.Booked) (m id : UInt64) : (l.erase m id).Booked :=
  { h with outstanding := fun n k tx hx => h.outstanding n k tx (erase_txns hx).1 }

theorem Inv.erase (h : l.Inv) (m id : UInt64) : (l.erase m id).Inv :=
  { h with
    toBooked := h.toBooked.erase m id
    next := fun n => by
      rw [erase_lastTxnId]
      exact h.next n
    below := fun p n k ha => by
      rw [erase_lastTxnId]
      exact h.below p n k ha }

theorem Booked.resolve (h : l.Booked) {p : Nat} {response : Transaction} {tx : Master.Txn}
    (htx : (l.masters response.initiator).txns response.id = some tx) (hp : tx.promise = some p)
    (hf : l.futures p = none) : (l.resolve p response).Booked := by
  have herase := h.erase response.initiator response.id
  have hpair : (p, response.initiator, response.id) ∈ l.assigned := by
    obtain ⟨q, hq, ha, -⟩ := h.outstanding _ _ _ htx
    rw [hp] at hq
    cases hq
    exact ha
  have hset : ∀ q, (l.resolve p response).futures q ≠ none ↔ q = p ∨ l.futures q ≠ none := by
    intro q
    by_cases hq : q = p
    · subst hq
      simp [resolve_futures_self]
    · simp [resolve_futures_of_ne hq, hq]
  refine { herase with outstanding := fun n k x hx => ?_, resolved := fun q st hq => ?_,
                       matched := fun q resp hq => ?_, once := ?_ }
  · obtain ⟨hx, hne⟩ := erase_txns hx
    obtain ⟨q, hq, ha, hfq⟩ := h.outstanding n k x hx
    refine ⟨q, hq, ha, by_contra fun hsome => ?_⟩
    rcases (hset q).mp hsome with rfl | hsome
    · -- Both entries have the promise `q`, so they are one.
      have hnodup : (l.assigned.map Prod.fst).Nodup := List.Nodup.of_append_right h.promises
      have heq := List.inj_on_of_nodup_map hnodup ha hpair rfl
      exact hne (Prod.mk.inj heq).2
    · exact hsome hfq
  · by_cases hqp : q = p
    · subst hqp
      refine ⟨response, List.mem_append_right _ (List.mem_singleton_self _), ?_⟩
      exact (Option.some.inj (resolve_futures_self.symm.trans hq)).symm
    · obtain ⟨resp, hr, hst⟩ := h.resolved q st ((resolve_futures_of_ne hqp).symm.trans hq)
      exact ⟨resp, List.mem_append_left _ hr, hst⟩
  · rcases List.mem_append.mp hq with hq | hq
    · exact ⟨(h.matched q resp hq).1, (hset q).mpr (Or.inr (h.matched q resp hq).2)⟩
    · obtain ⟨rfl, rfl⟩ := Prod.mk.inj (List.mem_singleton.mp hq)
      exact ⟨hpair, (hset q).mpr (Or.inl rfl)⟩
  · have hnew : p ∉ l.fulfilled.map Prod.fst := by
      intro hmem
      obtain ⟨⟨q, resp⟩, hr, rfl⟩ := List.mem_map.mp hmem
      exact (h.matched q resp hr).2 hf
    change ((l.fulfilled ++ [(p, response)]).map Prod.fst).Nodup
    rw [List.map_append, List.map_singleton]
    exact (List.perm_append_singleton _ _).nodup_iff.mpr (List.nodup_cons.mpr ⟨hnew, h.once⟩)

theorem Inv.resolve (h : l.Inv) {p : Nat} {response : Transaction} {tx : Master.Txn}
    (htx : (l.masters response.initiator).txns response.id = some tx) (hp : tx.promise = some p)
    (hf : l.futures p = none) : (l.resolve p response).Inv :=
  { h.erase response.initiator response.id with toBooked := h.toBooked.resolve htx hp hf }

/-! ### The steps -/

theorem Booked.step (h : l.Booked) (hs : Step l l') : l'.Booked := by
  cases hs with
  | work hs =>
    cases hs with
    | stay => exact h
    | issue txn buffer hreq => exact h.issue hreq
    | push tx hreq hp => exact h.push hreq hp
    | drop tx rest hw hreq => exact h.drop hw hreq
    | assign tx rest hw hreq => exact h.assign hw hreq
  | erase m id => exact h.erase m id
  | resolve p response tx htx hp hf => exact h.resolve htx hp hf

theorem Inv.step (h : l.Inv) (hb : l'.Bounded) (hs : Step l l') : l'.Inv := by
  have hb := hs.bounded hb
  cases hs with
  | work hs =>
    cases hs with
    | stay => exact h
    | issue txn buffer hreq => exact h.issue hreq
    | push tx hreq hp => exact h.push hreq hp
    | drop tx rest hw hreq => exact h.drop hw hreq
    | assign tx rest hw hreq => exact h.assign hb hw hreq
  | erase m id => exact h.erase m id
  | resolve p response tx htx hp hf => exact h.resolve htx hp hf

end

end Ledger

end SwAxi
