import SwAxi.Bounds
import Mathlib.Data.List.Infix

/-! The order of requests: what `route` takes of a master's requests, what it forwards, and what is handed to a
slave, in any run of the closed system. -/

namespace SwAxi
open Wire (Flatbuffers)
open Wire.Flatbuffers (getRoot mutateTarget)
open Transition
open RouterClient (decode transactionMessage terminateMessage doneMessage)

/-! ### The requests of a master -/

/-- A request but for its target, which `route` fills in. -/
def Transaction.untargeted (txn : Transaction) : Transaction := { txn with target := 0 }

def Transaction.requestOf (m : UInt64) (txn : Transaction) : Bool := txn.type.isRequest && decide (txn.initiator = m)

/-- The transactions with the ids that the writer gives them when they come in this order. -/
def numbered (txns : List Transaction) : List Transaction :=
  txns.mapIdx fun k txn => { txn with id := UInt64.ofNat k }

theorem numbered_concat (txns : List Transaction) (txn : Transaction) :
    numbered (txns ++ [txn]) = numbered txns ++ [{ txn with id := UInt64.ofNat txns.length }] := by
  simp [numbered, List.mapIdx_append]

theorem numbered_prefix {txns txns' : List Transaction} (h : txns <+: txns') : numbered txns <+: numbered txns' := by
  obtain ⟨more, rfl⟩ := h
  simp [numbered, List.mapIdx_append]

section
variable {Buf : Type} [Flatbuffers Buf]

/-- The request of the master in a message. -/
def requestIn (m : UInt64) (msgArr : Buf) : Option Transaction := (decode msgArr).filter (Transaction.requestOf m)

theorem requestIn_transactionMessage (m : UInt64) (txn : Transaction) :
    requestIn m (transactionMessage txn : Buf) = if txn.requestOf m then some txn else none := by
  simp [requestIn, Option.filter]

theorem requestIn_eq_none {m : UInt64} {msgArr : Buf} (h : (getRoot msgArr).getType ≠ .transaction) :
    requestIn m msgArr = none := by
  simp [requestIn, decode_eq_none h]

end

theorem Transaction.requestOf_iff {m : UInt64} {txn : Transaction} :
    txn.requestOf m = true ↔ txn.type.isRequest = true ∧ txn.initiator = m := by
  simp [Transaction.requestOf]

theorem Transaction.requestOf_response {m : UInt64} {txn : Transaction} (h : txn.type.isRequest = false) :
    txn.requestOf m = false := by
  simp [Transaction.requestOf, h]

def Master.Txn.requestOf (m : UInt64) (tx : Master.Txn) : Bool := tx.isRequest && decide (tx.txn.initiator = m)

namespace Flow
variable {S Buf : Type} [Flatbuffers Buf]

/-! ### Up to `route` -/

/-- The requests of the master that the writer has sent, and that wait for it. -/
def sent (m : UInt64) (f : Flow S Buf) : List Transaction := f.up.filterMap (requestIn m)

def unsent (m : UInt64) (f : Flow S Buf) : List Transaction :=
  (f.ledger.waiting.filter (Master.Txn.requestOf m)).map (·.txn)

def issuedBy (m : UInt64) (f : Flow S Buf) : List Transaction := f.ledger.issued.filter fun txn => txn.initiator = m

/-- Of the requests of the master, `route` has taken the first ones, as they were numbered; the others are under way
    to it in the order of issue. -/
structure Queued (m : UInt64) (taken : List Transaction) (f : Flow S Buf) : Prop where
  split : ∃ n ≤ (f.issuedBy m).length, (f.ledger.masters m).lastTxnId = UInt64.ofNat n ∧
    taken ++ f.sent m = numbered ((f.issuedBy m).take n) ∧ f.unsent m = (f.issuedBy m).drop n

variable {m : UInt64} {taken : List Transaction} {f f' : Flow S Buf} {n : Nat} {U : Users}

theorem Queued.congr (h : f.Queued m taken) (hmasters : (f'.ledger.masters m).lastTxnId = (f.ledger.masters m).lastTxnId)
    (hissued : f'.issuedBy m = f.issuedBy m) (hsent : f'.sent m = f.sent m) (hunsent : f'.unsent m = f.unsent m) :
    f'.Queued m taken := by
  obtain ⟨n, hn, hlast, htaken, hrest⟩ := h.split
  exact ⟨n, by rw [hissued]; exact hn, by rw [hmasters]; exact hlast, by rw [hsent, hissued]; exact htaken,
    by rw [hunsent, hissued]; exact hrest⟩

theorem sent_send {rest : List Master.Txn} {msgArr : Buf} (h : requestIn m msgArr = none) :
    (f.send rest msgArr).sent m = f.sent m := by
  simp [sent, send, List.filterMap_append, h]

theorem sent_of_cons {msgArr : Buf} {rest : List Buf} (hup : f.up = msgArr :: rest) :
    f.sent m = (requestIn m msgArr).toList ++ (f.taken rest).sent m := by
  cases h : requestIn m msgArr <;> simp [sent, hup, Flow.taken, h]

section
omit [Flatbuffers Buf]

theorem unsent_cons {tx : Master.Txn} {rest : List Master.Txn} (hw : f.ledger.waiting = tx :: rest)
    (h : tx.requestOf m = false) : (rest.filter (Master.Txn.requestOf m)).map (·.txn) = f.unsent m := by
  simp [unsent, hw, h]

theorem unsent_push {tx : Master.Txn} (h : tx.requestOf m = false) : (f.push tx).unsent m = f.unsent m := by
  simp [unsent, push, h]

end

theorem Queued.issue (h : f.Queued m taken) {bytes : Option (List UInt8)} {txn : Transaction}
    (hreq : txn.type.isRequest = true) : (f.issue bytes txn).Queued m taken := by
  have htx : ∀ buffer promise, Master.Txn.requestOf m { type := .transaction, buffer, txn, promise } =
      decide (txn.initiator = m) := fun buffer promise => by simp [Master.Txn.requestOf, Master.Txn.isRequest, hreq]
  by_cases hm : txn.initiator = m
  · obtain ⟨n, hn, hlast, htaken, hrest⟩ := h.split
    have hissued : (f.issue bytes txn).issuedBy m = f.issuedBy m ++ [txn] := by
      simp [issuedBy, Flow.issue, hm]
    have hunsent : (f.issue bytes txn).unsent m = f.unsent m ++ [txn] := by
      simp [unsent, Flow.issue, htx, hm]
    refine ⟨n, ?_, hlast, ?_, ?_⟩
    · rw [hissued, List.length_append]
      omega
    · rw [hissued, List.take_append_of_le_length hn]
      exact htaken
    · rw [hunsent, hissued, List.drop_append_of_le_length hn, hrest]
  · refine h.congr rfl ?_ rfl ?_
    · simp [issuedBy, Flow.issue, hm]
    · simp [unsent, Flow.issue, htx, hm]

/-- The writer gives the next request of the master its id. -/
theorem Queued.assign (h : f.Queued m taken) {tx : Master.Txn} {rest : List Master.Txn}
    (hw : f.ledger.waiting = tx :: rest) (hreq : tx.isRequest = true) : (f.assign tx rest).Queued m taken := by
  have hreq' := (Master.Txn.type_of_isRequest hreq).2
  by_cases hm : tx.txn.initiator = m
  · obtain ⟨n, hn, hlast, htaken, hrest⟩ := h.split
    have htx : tx.requestOf m = true := by simp [Master.Txn.requestOf, hreq, hm]
    have hunsent : f.unsent m = tx.txn :: (f.assign tx rest).unsent m := by
      simp [unsent, hw, htx, Flow.assign]
    rw [hunsent] at hrest
    obtain ⟨hlt, hget⟩ : ∃ hlt : n < (f.issuedBy m).length, (f.issuedBy m)[n] = tx.txn := by
      have hlt : n < (f.issuedBy m).length := by
        by_contra hge
        rw [List.drop_of_length_le (by omega)] at hrest
        cases hrest
      rw [List.drop_eq_getElem_cons hlt] at hrest
      exact ⟨hlt, (List.cons.inj hrest).1.symm⟩
    have hsent : (f.assign tx rest).sent m = f.sent m ++ [{ tx.txn with id := UInt64.ofNat n }] := by
      have hmsg : requestIn m (transactionMessage { tx.txn with id := (f.ledger.masters tx.txn.initiator).lastTxnId } : Buf) =
          some { tx.txn with id := UInt64.ofNat n } := by
        rw [requestIn_transactionMessage, hm, hlast]
        exact if_pos (Transaction.requestOf_iff.mpr ⟨hreq', hm⟩)
      simp [sent, Flow.assign, List.filterMap_append, hmsg]
    refine ⟨n + 1, hlt, ?_, ?_, ?_⟩
    · have hnext : ((f.assign tx rest).ledger.masters m).lastTxnId = (f.ledger.masters m).lastTxnId + 1 := by
        simp only [Flow.assign, ← hm, Ledger.assign_masters_self]
      rw [hnext, hlast, UInt64.ofNat_add]
      rfl
    · rw [hsent, ← List.append_assoc, htaken]
      have htake : (f.issuedBy m).take (n + 1) = (f.issuedBy m).take n ++ [tx.txn] := by
        rw [List.take_add_one, List.getElem?_eq_getElem hlt, hget]
        rfl
      change _ = numbered ((f.issuedBy m).take (n + 1))
      rw [htake, numbered_concat, List.length_take, Nat.min_eq_left hn]
    · change _ = (f.issuedBy m).drop (n + 1)
      rw [List.drop_eq_getElem_cons hlt] at hrest
      exact (List.cons.inj hrest).2
  · refine h.congr ?_ rfl ?_ ?_
    · simp only [Flow.assign, Ledger.assign_masters_ne (Ne.symm hm)]
    · have hno : Transaction.requestOf m { tx.txn with id := (f.ledger.masters tx.txn.initiator).lastTxnId } = false := by
        simp [Transaction.requestOf, hm]
      simp [sent, Flow.assign, List.filterMap_append, requestIn_transactionMessage, hno]
    · exact unsent_cons hw (by simp [Master.Txn.requestOf, hm])

variable [Slave S]

theorem Queued.step (h : f.Queued m taken) (hwithin : f.Within n) (hs : Step U f f') : f'.Queued m taken := by
  cases hs with
  | stay => exact h
  | issue bytes txn huser hreq => exact h.issue hreq
  | terminate id => exact h.congr rfl rfl rfl (unsent_push (by simp [Master.Txn.requestOf, Master.Txn.isRequest]))
  | termination tx rest hw htype =>
    have hno : tx.requestOf m = false := by simp [Master.Txn.requestOf, Master.Txn.isRequest, htype]
    exact h.congr rfl rfl (sent_send (requestIn_eq_none (by simp))) (unsent_cons hw hno)
  | request tx rest hw hreq => exact h.assign hw hreq
  | response tx rest hw htype hreq =>
    have hno : tx.requestOf m = false := by simp [Master.Txn.requestOf, Master.Txn.isRequest, hreq]
    refine h.congr rfl rfl (sent_send ?_) (unsent_cons hw hno)
    rw [requestIn_transactionMessage, Transaction.requestOf_response hreq]
    rfl
  | logout =>
    have hno : requestIn m (doneMessage : Buf) = none := requestIn_eq_none (by simp)
    exact h.congr rfl rfl (by simp [sent, List.filterMap_append, hno]) rfl
  | lose up msgArr hup hintact =>
    rw [hwithin.intact] at hintact
    cases hintact
  | leave msgArr rest hup htype =>
    have hno : requestIn m msgArr = none := requestIn_eq_none (by simp [htype])
    exact h.congr rfl rfl (by simp [sent, hup, hno]) rfl
  | receive => exact h.congr rfl rfl rfl rfl
  | finish => exact h.congr rfl rfl rfl rfl
  | reject => exact h.congr rfl rfl rfl rfl
  | serve txn s hheld hreq hs =>
    have hresp : (Bridge.serve s txn).2.type.isRequest = false := by
      rw [Bridge.serve_type]
      split <;> rfl
    exact h.congr rfl rfl rfl (unsent_push (by simp [Master.Txn.requestOf, Master.Txn.isRequest, hresp]))
  | unknownSlave => exact h.congr rfl rfl rfl rfl
  | unknownRequest => exact h.congr rfl rfl rfl rfl
  | crash txn tx buffers => exact h.congr (Ledger.erase_lastTxnId (l := f.ledger)) rfl rfl rfl
  | resolve txn tx p => exact h.congr (Ledger.erase_lastTxnId (l := f.ledger)) rfl rfl rfl

omit [Slave S] in
/-- `route` takes the front. -/
theorem Queued.take (h : f.Queued m taken) {msgArr : Buf} {rest : List Buf} (hup : f.up = msgArr :: rest) :
    (f.taken rest).Queued m (taken ++ (requestIn m msgArr).toList) := by
  obtain ⟨n, hn, hlast, htaken, hrest⟩ := h.split
  rw [sent_of_cons hup] at htaken
  exact ⟨n, hn, hlast, by rw [List.append_assoc]; exact htaken, hrest⟩

omit [Slave S] in
theorem Queued.deliver (h : f.Queued m taken) (msgs : List Buf) : (f.deliver msgs).Queued m taken :=
  h.congr rfl rfl rfl rfl

/-! #### Other clients -/

/-- The flow of a client that does not have the master. -/
structure Without (m : UInt64) (f : Flow S Buf) : Prop where
  has : f.has m = false
  waiting : ∀ tx ∈ f.ledger.waiting, tx.requestOf m = false
  up : ∀ msgArr ∈ f.up, requestIn m msgArr = none

theorem Without.step (h : f.Without m) (hs : Step U f f') : f'.Without m := by
  have hpush : ∀ {tx : Master.Txn}, tx.requestOf m = false → ∀ x ∈ f.ledger.waiting ++ [tx], x.requestOf m = false := by
    intro tx htx x hx
    rcases List.mem_append.mp hx with hx | hx
    · exact h.waiting x hx
    · rw [List.mem_singleton.mp hx]
      exact htx
  have hsend : ∀ {msgArr : Buf}, requestIn m msgArr = none → ∀ out ∈ f.up ++ [msgArr], requestIn m out = none := by
    intro msgArr hmsg out hout
    rcases List.mem_append.mp hout with hout | hout
    · exact h.up out hout
    · rw [List.mem_singleton.mp hout]
      exact hmsg
  cases hs with
  | stay => exact h
  | issue bytes txn huser hreq hread hhas =>
    have hne : txn.initiator ≠ m := by
      rintro rfl
      rw [h.has] at hhas
      cases hhas
    exact ⟨h.has, hpush (by simp [Master.Txn.requestOf, hne]), h.up⟩
  | terminate id => exact ⟨h.has, hpush (by simp [Master.Txn.requestOf, Master.Txn.isRequest]), h.up⟩
  | termination tx rest hw =>
    exact ⟨h.has, fun x hx => h.waiting x (hw ▸ List.mem_cons_of_mem _ hx), hsend (requestIn_eq_none (by simp))⟩
  | request tx rest hw hreq =>
    have hne : tx.txn.initiator ≠ m := by
      have hno := h.waiting tx (hw ▸ List.mem_cons_self)
      simpa [Master.Txn.requestOf, hreq] using hno
    refine ⟨?_, fun x hx => h.waiting x (hw ▸ List.mem_cons_of_mem _ hx), hsend ?_⟩
    · simpa [assign, Ne.symm hne] using h.has
    · rw [requestIn_transactionMessage]
      simp [Transaction.requestOf, hne]
  | response tx rest hw htype hreq =>
    refine ⟨h.has, fun x hx => h.waiting x (hw ▸ List.mem_cons_of_mem _ hx), hsend ?_⟩
    rw [requestIn_transactionMessage, Transaction.requestOf_response hreq]
    rfl
  | logout => exact ⟨h.has, h.waiting, hsend (requestIn_eq_none (by simp))⟩
  | lose up msgArr hup => exact ⟨h.has, h.waiting, fun out hout => h.up out (hup ▸ List.mem_append_left _ hout)⟩
  | leave msgArr rest hup => exact ⟨h.has, h.waiting, fun out hout => h.up out (hup ▸ List.mem_cons_of_mem _ hout)⟩
  | receive => exact ⟨h.has, h.waiting, h.up⟩
  | finish => exact ⟨h.has, h.waiting, h.up⟩
  | reject => exact ⟨h.has, h.waiting, h.up⟩
  | serve txn s hheld hreq hs =>
    have hresp : (Bridge.serve s txn).2.type.isRequest = false := by
      rw [Bridge.serve_type]
      split <;> rfl
    exact ⟨h.has, hpush (by simp [Master.Txn.requestOf, Master.Txn.isRequest, hresp]), h.up⟩
  | unknownSlave => exact ⟨h.has, h.waiting, h.up⟩
  | unknownRequest => exact ⟨h.has, h.waiting, h.up⟩
  | crash => exact ⟨h.has, h.waiting, h.up⟩
  | resolve => exact ⟨h.has, h.waiting, h.up⟩

omit [Slave S] in
theorem Without.deliver (h : f.Without m) (msgs : List Buf) : (f.deliver msgs).Without m := { h with }

omit [Slave S] in
theorem Without.take (h : f.Without m) {msgArr : Buf} {rest : List Buf} (hup : f.up = msgArr :: rest) :
    (f.taken rest).Without m :=
  { h with up := fun out hout => h.up out (hup ▸ List.mem_cons_of_mem _ hout) }

/-! ### Down to a slave -/

/-- The requests of the master that are under way to the slaves of the bridge. -/
def incoming (m : UInt64) (f : Flow S Buf) : List Transaction :=
  f.held.toList.filter (Transaction.requestOf m) ++ f.down.filterMap (requestIn m)

theorem Step.incoming_sublist (hs : Step U f f') (m : UInt64) : (f'.incoming m).Sublist (f.incoming m) := by
  have hdrop : ∀ {txn : Transaction}, f.held = some txn → f'.held = none → f'.down = f.down →
      (f'.incoming m).Sublist (f.incoming m) := by
    intro txn hheld hheld' hdown
    simp only [incoming, hheld', hdown, Option.toList_none, List.filter_nil, List.nil_append]
    exact List.sublist_append_right _ _
  cases hs with
  | receive msgArr rest txn hdown hdec hheld =>
    have hmsg : requestIn m msgArr = if txn.requestOf m then some txn else none := by
      simp [requestIn, hdec, Option.filter]
    by_cases htxn : txn.requestOf m = true
    · simp [incoming, hheld, hdown, hmsg, htxn]
    · simp [incoming, hheld, hdown, hmsg, htxn]
  | finish msgArr rest hdown =>
    simp only [incoming, hdown]
    exact (List.Sublist.refl _).append ((List.sublist_cons_self _ _).filterMap _)
  | reject msgArr rest intact hdown =>
    simp only [incoming, hdown]
    exact (List.Sublist.refl _).append ((List.sublist_cons_self _ _).filterMap _)
  | serve txn s hheld => exact hdrop hheld rfl rfl
  | unknownSlave txn hheld => exact hdrop hheld rfl rfl
  | unknownRequest txn hheld => exact hdrop hheld rfl rfl
  | crash txn tx buffers hheld => exact hdrop hheld rfl rfl
  | resolve txn tx p hheld => exact hdrop hheld rfl rfl
  | _ => exact List.Sublist.refl _

end Flow

/-! ### Runs of the system -/

/-- The reader is done with the transaction that it held. -/
theorem Bridge.readerProcess_thread {S : Type} [Slave S] (b : Bridge S) (txn : Transaction) :
    ∀ txn', (b.readerProcess txn).readerThread ≠ some (.holding txn') := by
  intro txn'
  unfold readerProcess
  split
  · unfold readerRequest
    split
    · simp [readerExit]
    · simp
  · rcases readerResponse_cases (b := b) txn with ⟨-, -, hr, -⟩ | ⟨mTxn, -, ⟨-, hr⟩ | ⟨p, -, -, -, hr⟩⟩ <;> simp [hr]

namespace System
variable {S Buf : Type} [Flatbuffers Buf]

/-- The request of the master that `route` takes in a step. -/
def taken (m : UInt64) (s : System S Buf) : Event Buf → List Transaction
  | .take i _ =>
    match (s.endpoints i).reader with
    | .offering msgArr => (requestIn m msgArr).toList
    | _ => []
  | _ => []

/-- The request that it takes, if `findTarget` resolves it. -/
def resolved (m : UInt64) (s : System S Buf) : Event Buf → List Transaction
  | .take i order =>
    (s.taken m (.take i order)).filter fun txn => (Router.findTarget order txn.address txn.size).isOk
  | _ => []

/-- The request of the master that it puts on an outgoing channel. -/
def forwarded (m : UInt64) (s : System S Buf) : Event Buf → List Transaction
  | .take i order =>
    match (s.endpoints i).reader with
    | .offering msgArr =>
      match (s.router.route order msgArr).2 with
      | .send _ out => (requestIn m out).toList
      | _ => []
    | _ => []
  | _ => []

/-- The request of the master that the reader of client `j` hands to a slave that it keeps under one of the ids. -/
def handed (j : Nat) (ids : UInt64 → Bool) (m : UInt64) (s : System S Buf) : Event Buf → List Transaction
  | .bridge i .process =>
    if i = j then
      match (s.endpoints i).bridge.readerThread with
      | some (.holding txn) =>
        if txn.requestOf m ∧ ids txn.target ∧ ((s.endpoints i).bridge.slaveMap txn.target).isSome then [txn] else []
      | _ => []
    else []
  | _ => []

section
variable {s t : System S Buf} {m : UInt64} {i j : Nat}

theorem taken_of_offering {order : List IpInfo} {msgArr : Buf} (h : (s.endpoints i).reader = .offering msgArr) :
    s.taken m (.take i order) = (requestIn m msgArr).toList := by
  simp [taken, h]

theorem forwarded_of_offering {order : List IpInfo} {msgArr : Buf} (h : (s.endpoints i).reader = .offering msgArr) :
    s.forwarded m (.take i order) = match (s.router.route order msgArr).2 with
      | .send _ out => (requestIn m out).toList
      | _ => [] := by
  simp only [forwarded, h]

theorem taken_of_ne {e : Event Buf} (h : ∀ i order, e ≠ .take i order) : s.taken m e = [] := by
  cases e with
  | take i order => exact absurd rfl (h i order)
  | _ => rfl

theorem forwarded_of_ne {e : Event Buf} (h : ∀ i order, e ≠ .take i order) :
    s.forwarded m e = [] ∧ s.resolved m e = [] := by
  cases e with
  | take i order => exact absurd rfl (h i order)
  | _ => exact ⟨rfl, rfl⟩

theorem resolved_sublist (e : Event Buf) : (s.resolved m e).Sublist (s.taken m e) := by
  cases e with
  | take i order => exact List.filter_sublist
  | _ => exact List.Sublist.refl _

omit [Flatbuffers Buf] in
theorem handed_of_ne {ids : UInt64 → Bool} {e : Event Buf} (h : e ≠ .bridge j .process) : s.handed j ids m e = [] := by
  unfold handed
  split
  · split
    · rename_i hij
      exact absurd (hij ▸ rfl) h
    · rfl
  · rfl

/-- What goes out is the request that was taken, if it is resolved, and else no request. -/
theorem forwarded_resolved (hk : s.router.Kept) {order : List IpInfo} (horder : s.router.IterationOrder order)
    {out : Outgoing} (hout : out.Within s.router.ips.length) (h : (s.endpoints i).reader = .offering out.message) :
    (s.forwarded m (.take i order)).map Transaction.untargeted =
      (s.resolved m (.take i order)).map Transaction.untargeted := by
  simp only [forwarded_of_offering h, resolved, taken_of_offering h]
  cases out with
  | transaction txn =>
    have hmsg : (Outgoing.transaction txn).message = (transactionMessage txn : Buf) := rfl
    rw [hmsg, requestIn_transactionMessage]
    rcases hk.route_transaction horder (rfl : s.router.route order (transactionMessage txn : Buf) = _) with
      ⟨target, client, hreq, hfound, hlt, heq⟩ | ⟨err, ip, hreq, hfound, -, hlt, heq⟩ | ⟨ip, hreq, -, hlt, heq⟩ |
      ⟨hnone, -, heq⟩ <;> rw [heq]
    · have hsame : Transaction.requestOf m { txn with target := RouterClient.mutatedTarget txn.target target } =
          txn.requestOf m := rfl
      by_cases htxn : txn.requestOf m = true
      · simp [requestIn, Option.filter, hsame, htxn, hfound, Except.isOk, Except.toBool, Transaction.untargeted]
      · simp [requestIn, Option.filter, hsame, htxn]
    · have hno : (errorResponse txn err).requestOf m = false := by
        refine Transaction.requestOf_response ?_
        unfold errorResponse
        split <;> rfl
      have hnone : requestIn m (createErrorTxn txn.initiator txn.id (RouterClient.wireTransactionType txn.type) err : Buf) =
          none := by
        simp [requestIn, decode_createErrorTxn hreq, Option.filter, hno]
      by_cases htxn : txn.requestOf m = true
      · simp [hnone, htxn, hfound, Except.isOk, Except.toBool]
      · simp [hnone, htxn]
    · have hno : txn.requestOf m = false := Transaction.requestOf_response hreq
      simp [requestIn_transactionMessage, hno]
    · exact absurd (List.getElem?_eq_none_iff.mp hnone) (Nat.not_le.mpr hout)
  | termination id =>
    have hmsg : (Outgoing.termination id).message = (terminateMessage id : Buf) := rfl
    have hno : requestIn m (terminateMessage id : Buf) = none := requestIn_eq_none (by simp)
    rw [hmsg, hno]
    rcases Router.route_termination (rfl : s.router.route order (terminateMessage id : Buf) = _) with
      ⟨-, heq⟩ | ⟨r', text, heq⟩ | ⟨r', heq⟩ <;> rw [heq] <;> rfl
  | logout =>
    have hmsg : Outgoing.logout.message = (doneMessage : Buf) := rfl
    have hno : requestIn m (doneMessage : Buf) = none := requestIn_eq_none (by simp)
    rw [hmsg, hno, Router.route_logout]
    rfl

end

/-! #### From the master to `route` -/

/-- What `route` has taken of the requests of the master, which client `i` has. -/
structure Ordered (i : Nat) (m : UInt64) (taken : List Transaction) (s : System S Buf) : Prop where
  within : s.Within
  client : i < s.clients
  queued : (s.flow i).Queued m taken
  without : ∀ j < s.clients, j ≠ i → (s.flow j).Without m

/-- It has forwarded what it has resolved. -/
structure Forwarding (resolved forwarded : List Transaction) (s : System S Buf) : Prop where
  within : s.Within
  forwarded : forwarded.map Transaction.untargeted = resolved.map Transaction.untargeted

/-- What client `j` has been handed, and is yet to be handed, of what `route` has forwarded. -/
structure Handing (j : Nat) (m : UInt64) (forwarded handed : List Transaction) (s : System S Buf) : Prop where
  within : s.Within
  client : j < s.clients
  handed : (handed ++ (s.flow j).incoming m).Sublist forwarded

variable [Slave S] {s t : System S Buf} {m : UInt64} {i j : Nat} {T R F H : List Transaction}

theorem Ordered.step {e : Event Buf} (h : s.Ordered i m T) (hs : s.step e = some t) :
    t.Ordered i m (T ++ s.taken m e) := by
  have hwithin := h.within.step hs
  rcases step_cases (keeps_anyone e) hs with ⟨⟨k, hk, hstep, hothers, hrouter, -⟩, hne⟩ |
    ⟨k, order, rfl, hk, htake⟩ | ⟨rfl, hhand⟩
  · have hclients : t.clients = s.clients := by rw [clients, hrouter, clients]
    rw [taken_of_ne hne, List.append_nil]
    refine ⟨hwithin, hclients ▸ h.client, ?_, fun j hj hji => ?_⟩
    · by_cases hik : i = k
      · subst hik
        exact h.queued.step (h.within.flows i hk) hstep
      · rw [hothers i hik]
        exact h.queued
    · rw [hclients] at hj
      by_cases hjk : j = k
      · subst hjk
        exact (h.without j hj hji).step hstep
      · rw [hothers j hjk]
        exact h.without j hj hji
  · obtain ⟨msgArr, rest, routed, -, hoffering, hup, horder, hturn, -, -, hflow⟩ := take_inv htake
    obtain ⟨out, rfl, -⟩ := (h.within.flows k hk).up msgArr (hup ▸ List.mem_cons_self)
    have hclients : t.clients = s.clients := by
      obtain ⟨n, hn⟩ := s.router.route_router order (out.message : Buf)
      rw [hturn] at hn
      rw [clients, show t.router = _ from hn, clients]
    refine ⟨hwithin, hclients ▸ h.client, ?_, fun j hj hji => ?_⟩
    · rw [taken_of_offering hoffering, hflow, Flow.pass_apply]
      refine Flow.Queued.deliver ?_ _
      by_cases hik : i = k
      · subst hik
        rw [Function.update_self]
        exact h.queued.take hup
      · -- Another client has no request of the master.
        rw [Function.update_of_ne hik, (h.without k hk (Ne.symm hik)).up _ (hup ▸ List.mem_cons_self)]
        simpa using h.queued
    · rw [hclients] at hj
      rw [hflow, Flow.pass_apply]
      refine Flow.Without.deliver ?_ _
      by_cases hjk : j = k
      · subst hjk
        rw [Function.update_self]
        exact (h.without j hj hji).take hup
      · rw [Function.update_of_ne hjk]
        exact h.without j hj hji
  · obtain ⟨hrouter, -, hflow⟩ := hand_inv hhand
    have hclients : t.clients = s.clients := by rw [clients, hrouter, clients]
    have hdeliver : ∀ j, ∃ msgs, t.flow j = (s.flow j).deliver msgs := by
      intro j
      rcases hflow with ⟨k, msgArr, -, -, hflow⟩ | ⟨k, -, -, hflow⟩
      · exact ⟨[], by rw [hflow]; simp [Flow.deliver]⟩
      · rw [hflow]
        by_cases hjk : j = k
        · subst hjk
          exact ⟨_, Function.update_self ..⟩
        · exact ⟨[], by rw [Function.update_of_ne hjk]; simp [Flow.deliver]⟩
    refine ⟨hwithin, hclients ▸ h.client, ?_, fun j hj hji => ?_⟩
    · obtain ⟨msgs, heq⟩ := hdeliver i
      rw [heq]
      simpa [taken] using h.queued.deliver msgs
    · obtain ⟨msgs, heq⟩ := hdeliver j
      rw [heq]
      exact (h.without j (hclients ▸ hj) hji).deliver msgs

theorem Forwarding.step {e : Event Buf} (h : s.Forwarding R F) (hs : s.step e = some t) :
    t.Forwarding (R ++ s.resolved m e) (F ++ s.forwarded m e) := by
  refine ⟨h.within.step hs, ?_⟩
  rw [List.map_append, List.map_append, h.forwarded]
  refine congrArg _ ?_
  rcases step_cases (keeps_anyone e) hs with ⟨-, hne⟩ | ⟨k, order, rfl, hk, htake⟩ | ⟨rfl, -⟩
  · obtain ⟨hforwarded, hresolved⟩ := forwarded_of_ne (s := s) (m := m) hne
    rw [hforwarded, hresolved]
  · obtain ⟨msgArr, rest, routed, -, hoffering, hup, horder, -⟩ := take_inv htake
    obtain ⟨out, rfl, hout⟩ := (h.within.flows k hk).up msgArr (hup ▸ List.mem_cons_self)
    exact forwarded_resolved h.within.kept horder hout hoffering
  · rfl

omit [Slave S] in
/-- A turn of `route` delivers to client `j` what it forwards to it. -/
theorem pass_incoming (F : Nat → Flow S Buf) (routed : Routed Buf) (j : Nat) (m : UInt64) :
    ∃ more, (Flow.pass F routed j).incoming m = (F j).incoming m ++ more ∧
      more.Sublist (match routed with
        | .send _ out => (requestIn m out).toList
        | _ => []) := by
  have hnone : (F j).incoming m = (F j).incoming m ++ [] := (List.append_nil _).symm
  cases routed with
  | send k out =>
    by_cases hjk : j = k
    · subst hjk
      refine ⟨(requestIn m out).toList, ?_, List.Sublist.refl _⟩
      cases hout : requestIn m out <;> simp [Flow.pass, Flow.incoming, Flow.deliver, List.filterMap_append, hout]
    · exact ⟨[], by rw [Flow.pass, Function.update_of_ne hjk, List.append_nil], List.nil_sublist _⟩
  | next => exact ⟨[], hnone, List.Sublist.refl _⟩
  | done => exact ⟨[], hnone, List.Sublist.refl _⟩
  | fatal text => exact ⟨[], hnone, List.Sublist.refl _⟩
  | panic => exact ⟨[], hnone, List.Sublist.refl _⟩

/-- The reader deals with the request that it holds, which is under way no longer. -/
theorem process_incoming {ids : UInt64 → Bool} (hs : s.step (.bridge j .process) = some t) :
    ((s.handed j ids m (.bridge j .process)) ++ (t.flow j).incoming m).Sublist ((s.flow j).incoming m) := by
  simp only [step] at hs
  obtain ⟨-, c, hc, rfl⟩ := endpointStep_inv hs
  obtain ⟨-, b, hb, rfl⟩ := Endpoint.local?_inv hc
  cases Bridge.moves_of_step hb with
  | process txn hr =>
    have hheld : (s.flow j).held = some txn := by simp [flow, Flow.deliver, Endpoint.flow, Endpoint.held, hr]
    have hleft : ((s.setEndpoint j { s.endpoints j with bridge := (s.endpoints j).bridge.readerProcess txn }).flow j).held =
        none := by
      have hthread := (s.endpoints j).bridge.readerProcess_thread txn
      rw [flow, setEndpoint_self]
      simp only [Flow.deliver, Endpoint.flow, Endpoint.held]
    have hdown : ((s.setEndpoint j { s.endpoints j with bridge := (s.endpoints j).bridge.readerProcess txn }).flow j).down =
        (s.flow j).down := by
      rw [flow, setEndpoint_self]
      rfl
    rw [Flow.incoming, Flow.incoming, hleft, hdown, hheld]
    simp only [handed, if_true, hr, Option.toList_none, List.filter_nil, List.nil_append, Option.toList_some]
    refine List.Sublist.append ?_ (List.Sublist.refl _)
    split
    · rename_i hgiven
      simp [hgiven.1]
    · exact List.nil_sublist _

theorem Handing.step {ids : UInt64 → Bool} {e : Event Buf} (h : s.Handing j m F H) (hs : s.step e = some t) :
    t.Handing j m (F ++ s.forwarded m e) (H ++ s.handed j ids m e) := by
  have hwithin := h.within.step hs
  rcases step_cases (keeps_anyone e) hs with ⟨⟨k, hk, hstep, hothers, hrouter, -⟩, hne⟩ |
    ⟨k, order, rfl, hk, htake⟩ | ⟨rfl, hhand⟩
  · obtain ⟨hforwarded, -⟩ := forwarded_of_ne (s := s) (m := m) hne
    rw [hforwarded, List.append_nil]
    refine ⟨hwithin, ?_, ?_⟩
    · rw [clients, hrouter]
      exact h.client
    by_cases he : e = .bridge j .process
    · subst he
      rw [List.append_assoc]
      exact ((List.Sublist.refl H).append (process_incoming hs)).trans h.handed
    · rw [handed_of_ne he, List.append_nil]
      by_cases hjk : j = k
      · subst hjk
        exact ((List.Sublist.refl H).append (hstep.incoming_sublist m)).trans h.handed
      · rw [hothers j hjk]
        exact h.handed
  · obtain ⟨msgArr, rest, routed, -, hoffering, hup, horder, hturn, -, -, hflow⟩ := take_inv htake
    refine ⟨hwithin, ?_, ?_⟩
    · obtain ⟨n, hn⟩ := s.router.route_router order msgArr
      rw [hturn] at hn
      rw [clients, show t.router = _ from hn]
      exact h.client
    · obtain ⟨more, hmore, hsub⟩ := pass_incoming (Function.update s.flow k ((s.flow k).taken rest)) routed j m
      have hsame : (Function.update s.flow k ((s.flow k).taken rest) j).incoming m = (s.flow j).incoming m := by
        by_cases hjk : j = k
        · subst hjk
          rw [Function.update_self]
          rfl
        · rw [Function.update_of_ne hjk]
      rw [handed_of_ne (by simp), List.append_nil, hflow, hmore, hsame, ← List.append_assoc,
        forwarded_of_offering hoffering, hturn]
      exact h.handed.append hsub
  · obtain ⟨hrouter, -, hflow⟩ := hand_inv hhand
    refine ⟨hwithin, ?_, ?_⟩
    · rw [clients, hrouter]
      exact h.client
    · have hsame : (t.flow j).incoming m = (s.flow j).incoming m := by
        rcases hflow with ⟨k, msgArr, -, -, hflow⟩ | ⟨k, -, -, hflow⟩
        · rw [hflow]
        · have hno : requestIn m (doneMessage : Buf) = none := requestIn_eq_none (by simp)
          rw [hflow]
          by_cases hjk : j = k
          · subst hjk
            simp [Flow.incoming, Flow.deliver, hno]
          · rw [Function.update_of_ne hjk]
      rw [handed_of_ne (by simp), List.append_nil, hsame]
      simpa [System.forwarded] using h.handed

/-! ### Requests in order -/

/-- In every run of a router with its clients, for every master and any slaves of any client: `route` takes the
    master's requests in the order of issue, without a gap; it forwards all that `findTarget` resolves, in this order;
    and those handed to the slaves come in the order forwarded; none of them twice. -/
theorem requests_in_order (hs : s.Opened) {es : List (Event Buf)} (hr : run System.step s es = some t)
    (hi : i < s.clients) (hm : ((s.endpoints i).bridge.masterMap m).isSome = true) (hj : j < s.clients)
    (ids : UInt64 → Bool) :
    outputs System.step (taken m) s es <+:
        numbered ((t.endpoints i).bridge.history.issued.filter fun txn => txn.initiator = m) ∧
      (outputs System.step (resolved m) s es).Sublist (outputs System.step (taken m) s es) ∧
      (outputs System.step (forwarded m) s es).map Transaction.untargeted =
        (outputs System.step (resolved m) s es).map Transaction.untargeted ∧
      (outputs System.step (handed j ids m) s es).Sublist (outputs System.step (forwarded m) s es) := by
  have hready := hs.ready
  have hwithin := hready.within
  have hflow : ∀ k, s.flow k = (s.endpoints k).flow := flow_of_ne (by simp [hready.route])
  have hordered : s.Ordered i m [] := by
    obtain ⟨hwaiting, hup, -⟩ := hready.flow_eq hi
    have hissued : (s.flow i).issuedBy m = [] := by
      rw [hflow, Flow.issuedBy]
      simp [Endpoint.flow, Bridge.ledger, (hready.bridges i hi).history]
    refine ⟨hwithin, hi, ⟨0, Nat.zero_le _, ?_, ?_, ?_⟩, fun k hk hki => ?_⟩
    · obtain ⟨md, hmd⟩ := Option.isSome_iff_exists.mp hm
      have hfresh := (hready.bridges i hi).masters m md hmd
      rw [hflow]
      simp [Endpoint.flow, Bridge.ledger, hmd, hfresh]
    · simp [Flow.sent, hup, hissued, numbered]
    · simp [Flow.unsent, hwaiting, hissued]
    · obtain ⟨hwaiting, hup, -⟩ := hready.flow_eq hk
      refine ⟨?_, by simp [hwaiting], by simp [hup]⟩
      rw [hflow]
      cases hhas : ((s.endpoints k).bridge.masterMap m).isSome with
      | false => exact hhas
      | true => exact absurd (hready.apart k hk i hi m hhas hm) hki
  have hhanding : s.Handing j m [] [] := by
    obtain ⟨-, -, hdown, hheld, -⟩ := hready.flow_eq hj
    exact ⟨hwithin, hj, by simp [Flow.incoming, hdown, hheld]⟩
  have hup := run_output (taken m) (fun _ _ _ _ h hs => Ordered.step h hs) hordered hr
  have hforwarding : s.Forwarding [] [] := ⟨hwithin, rfl⟩
  have hthrough := run_outputs (resolved m) (forwarded m) (fun _ _ _ _ _ h hs => Forwarding.step h hs) hforwarding hr
  have hdown := run_outputs (forwarded m) (handed j ids m) (fun _ _ _ _ _ h hs => Handing.step h hs) hhanding hr
  refine ⟨?_, outputs_sublist (fun _ e => resolved_sublist e) s es, hthrough.forwarded,
    (List.sublist_append_left _ _).trans hdown.handed⟩
  obtain ⟨n, -, -, htaken, -⟩ := hup.queued.split
  exact (List.prefix_append _ _).trans (htaken ▸ numbered_prefix (List.take_prefix n _))

/-- The master issues two reads, and the slave is handed both. -/
def bothHanded : List (Event Wire.Message) :=
  let readTwo := .bridge 0 (.read 1 { data := [0, 0], size := 2, address := 0x1000 })
  [readTwo, readTwo, .bridge 0 .pop, .bridge 0 .dispatch, .sent 0, .readMsg 0, .bridge 0 .pop, .bridge 0 .dispatch,
    .sent 0, .take 0 (opened.router.ipMMap.map Prod.snd), .hand, .writeMsg 0, .receive 0, .readMsg 0,
    .bridge 0 .process, .take 0 (opened.router.ipMMap.map Prod.snd), .hand, .writeMsg 0, .receive 0, .bridge 0 .process]

theorem requests_in_order_bothHanded :
    ∃ t, run step opened bothHanded = some t ∧ (outputs step (handed 0 (fun _ => true) 1) opened bothHanded).length = 2 ∧
      outputs step (taken 1) opened bothHanded <+:
        numbered ((t.endpoints 0).bridge.history.issued.filter fun txn => txn.initiator = 1) ∧
      (outputs step (resolved 1) opened bothHanded).Sublist (outputs step (taken 1) opened bothHanded) ∧
      (outputs step (forwarded 1) opened bothHanded).map Transaction.untargeted =
        (outputs step (resolved 1) opened bothHanded).map Transaction.untargeted ∧
      (outputs step (handed 0 (fun _ => true) 1) opened bothHanded).Sublist
        (outputs step (forwarded 1) opened bothHanded) := by
  have hrun : (run step opened bothHanded).isSome = true := by decide
  obtain ⟨t, hr⟩ := Option.isSome_iff_exists.mp hrun
  exact ⟨t, hr, by decide, requests_in_order opened_opened hr (by decide) (by decide) (by decide) _⟩

end System

end SwAxi
