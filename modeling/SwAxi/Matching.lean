import SwAxi.Ledger
import SwAxi.Ram

/-! Response matching: a started bridge against an arbitrary router. Its steps are steps of the ledger, so
ids are unique, promises are set once, and only by the response to the pair the writer gave. -/

namespace SwAxi
open Wire (Flatbuffers)
open Transition

namespace Bridge
variable {S Buf : Type}

/-! ### The ledger of a bridge -/

/-- The item the writer holds. -/
def writerItem (b : Bridge S) : List Master.Txn :=
  match b.writerThread with
  | some (.holding tx) => [tx]
  | _ => []

def ledger (b : Bridge S) : Ledger where
  waiting := b.writerItem ++ b.queue.items
  masters m := (b.masterMap m).getD {}
  futures := b.futures
  issued := b.history.issued
  assigned := b.history.assigned
  fulfilled := b.history.fulfilled

section
variable {b : Bridge S} {t : Bridge S}

theorem writerItem_of_ne (h : ∀ tx, b.writerThread ≠ some (.holding tx)) : b.writerItem = [] := by
  unfold writerItem
  split
  · exact absurd ‹_› (h _)
  · rfl

theorem writerItem_popping (h : b.writerThread = some .popping) : b.writerItem = [] :=
  writerItem_of_ne fun tx ht => by simp [h] at ht

theorem writerItem_sending {out : Outgoing} (h : b.writerThread = some (.sending out)) : b.writerItem = [] :=
  writerItem_of_ne fun tx ht => by simp [h] at ht

theorem writerItem_holding {tx : Master.Txn} (h : b.writerThread = some (.holding tx)) : b.writerItem = [tx] := by
  simp [writerItem, h]

theorem masters_setMasterMd {m : UInt64} {md : MasterMd} :
    (fun n => ((b.setMasterMd m md).masterMap n).getD {}) = Function.update (fun n => (b.masterMap n).getD {}) m md := by
  funext n
  by_cases hn : n = m
  · subst hn
    simp [setMasterMd]
  · simp [setMasterMd, hn]

/-- What one bridge has of the ledger of another, so that a step between the two is one of the ledger. -/
theorem ledger_eq {l : Ledger} (hw : b.writerItem ++ b.queue.items = l.waiting)
    (hm : ∀ m, (b.masterMap m).getD {} = l.masters m) (hf : b.futures = l.futures)
    (hi : b.history.issued = l.issued) (ha : b.history.assigned = l.assigned)
    (hs : b.history.fulfilled = l.fulfilled) : b.ledger = l := by
  obtain ⟨waiting, masters, futures, issued, assigned, fulfilled⟩ := l
  simp only [ledger, Ledger.mk.injEq]
  exact ⟨hw, funext hm, hf, hi, ha, hs⟩

end

/-! ### Calls of masters and the writer -/

section
variable {b : Bridge S}

theorem issue_ledger (buffer : Option (List UInt8)) (txn : Transaction) (hreq : txn.type.isRequest = true) :
    Ledger.Work b.ledger (b.issue buffer txn).ledger := by
  have heq : (b.issue buffer txn).ledger = { b.ledger with
      waiting := b.ledger.waiting ++ [{ type := .transaction, buffer := buffer.map fun _ => b.history.issued.length,
                                        txn, promise := some b.ledger.issued.length }]
      issued := b.ledger.issued ++ [txn] } :=
    ledger_eq (List.append_assoc _ _ _).symm (fun _ => rfl) rfl rfl rfl rfl
  rw [heq]
  exact .issue _ _ _ hreq

theorem terminate_ledger (m : UInt64) : Ledger.Work b.ledger (b.terminate m).ledger := by
  have heq : (b.terminate m).ledger = { b.ledger with
      waiting := b.ledger.waiting ++ [{ type := .termination, txn := { id := m } }] } :=
    ledger_eq (List.append_assoc _ _ _).symm (fun _ => rfl) rfl rfl rfl rfl
  rw [heq]
  exact .push _ _ rfl rfl

/-- An item that the writer pops stays the first one waiting. -/
theorem popped_ledger {q : Queue Master.Txn} {r : Popped Master.Txn} (hw : b.writerThread = some .popping)
    (hq : b.queue.items = r.before q.items) : (b.popped q r).ledger = b.ledger := by
  refine ledger_eq ?_ (fun _ => ?_) ?_ ?_ ?_ ?_
  · cases r with
    | item tx => simp [popped, writerItem, ledger, hw, hq, Popped.before]
    | blocked => simp [popped, writerItem, ledger, hw, hq, Popped.before]
    | finished => simp [popped, writerItem, ledger, hw, hq, Popped.before]
  all_goals cases r <;> rfl

theorem waiting_holding {tx : Master.Txn} (hw : b.writerThread = some (.holding tx)) :
    b.ledger.waiting = tx :: b.queue.items := by
  simp [ledger, writerItem_holding hw]

/-- The writer goes on to send; what it held waits no more. -/
theorem sending_ledger (out : Outgoing) :
    ({ b with writerThread := some (.sending out) } : Bridge S).ledger =
      { b.ledger with waiting := b.queue.items } :=
  ledger_eq rfl (fun _ => rfl) rfl rfl rfl rfl

theorem assign_ledger (tx : Master.Txn) : (b.assign tx).ledger = b.ledger.assign tx b.queue.items :=
  ledger_eq rfl (fun m => congrFun masters_setMasterMd m) rfl rfl rfl rfl

/-- What the writer makes of the item it holds. -/
theorem writerDispatch_cases (tx : Master.Txn) :
    (tx.type = .termination ∧
      b.writerDispatch tx = { b with writerThread := some (.sending (.termination tx.txn.id)) }) ∨
    (tx.isRequest = true ∧ b.writerDispatch tx = b.assign tx) ∨
    (tx.type = .transaction ∧ tx.txn.type.isRequest = false ∧
      b.writerDispatch tx = { b with writerThread := some (.sending (.transaction tx.txn)) }) := by
  unfold writerDispatch
  cases htype : tx.type with
  | termination => exact Or.inl ⟨rfl, by simp⟩
  | transaction =>
    cases hreq : tx.txn.type.isRequest with
    | true => exact Or.inr (Or.inl ⟨by simp [Master.Txn.isRequest, htype, hreq], by simp⟩)
    | false => exact Or.inr (Or.inr ⟨rfl, rfl, by simp⟩)

theorem dispatch_ledger {tx : Master.Txn} (hw : b.writerThread = some (.holding tx)) :
    Ledger.Work b.ledger (b.writerDispatch tx).ledger := by
  have hwaiting := waiting_holding hw
  rcases writerDispatch_cases (b := b) tx with ⟨hterm, heq⟩ | ⟨hreq, heq⟩ | ⟨-, hreq, heq⟩
  · rw [heq, sending_ledger]
    exact .drop _ tx _ hwaiting (by simp [Master.Txn.isRequest, hterm])
  · rw [heq, assign_ledger]
    exact .assign _ tx _ hwaiting hreq
  · rw [heq, sending_ledger]
    exact .drop _ tx _ hwaiting (by simp [Master.Txn.isRequest, hreq])

theorem writerSent_ledger {out : Outgoing} {write : Except String Unit}
    (hw : b.writerThread = some (.sending out)) : (b.writerSent out write).ledger = b.ledger := by
  have hnil := writerItem_sending hw
  unfold writerSent writerReturn
  split
  split
  · exact ledger_eq (by simp [writerItem, ledger, hw]) (fun _ => rfl) rfl rfl rfl rfl
  · split <;> exact ledger_eq (by simp [writerItem, ledger, hw]) (fun _ => rfl) rfl rfl rfl rfl

/-- What the writer makes of a send operation whose write went well. -/
theorem writerSent_started (hstate : b.client.state = .started) (out : Outgoing) :
    (out = .logout ∧ b.writerSent out (.ok ()) =
      { b with client := { b.client with state := .loggedOut }, writerStatus := {}, writerThread := some .returned }) ∨
    (out ≠ .logout ∧ b.writerSent out (.ok ()) = { b with writerThread := some .popping }) := by
  cases out with
  | logout =>
    refine Or.inl ⟨rfl, ?_⟩
    simp [writerSent, writerReturn, RouterClient.sendLogout, RouterClient.send, RouterClient.logoutWritten,
      RouterClient.written, hstate]
  | transaction txn =>
    refine Or.inr ⟨by simp, ?_⟩
    simp [writerSent, writerReturn, RouterClient.sendTransaction, RouterClient.send, RouterClient.transactionWritten,
      hstate]
  | termination id =>
    refine Or.inr ⟨by simp, ?_⟩
    simp [writerSent, writerReturn, RouterClient.sendTermination, RouterClient.send, RouterClient.terminationWritten,
      hstate]

/-- Without a started client, the writer ends. -/
theorem writerSent_refused (hstate : b.client.state ≠ .started) (out : Outgoing) :
    ∃ st, b.writerSent out (.ok ()) = { b with writerStatus := st, writerThread := some .returned } := by
  cases out with
  | logout => exact ⟨_, by simp [writerSent, writerReturn, RouterClient.sendLogout, RouterClient.send, hstate]; rfl⟩
  | transaction txn => exact ⟨_, by simp [writerSent, writerReturn, RouterClient.sendTransaction, RouterClient.send, hstate]; rfl⟩
  | termination id => exact ⟨_, by simp [writerSent, writerReturn, RouterClient.sendTermination, RouterClient.send, hstate]; rfl⟩

end

/-! ### The reader -/

section
variable {b : Bridge S}

@[simp] theorem readerExit_ledger (st : Status) : (b.readerExit st).ledger = b.ledger := rfl
@[simp] theorem readerCrash_ledger : b.readerCrash.ledger = b.ledger := rfl

theorem readerReceive_ledger [Flatbuffers Buf] (read : RouterClient.Received Buf) :
    (b.readerReceive read).ledger = b.ledger := by
  unfold readerReceive readerReturn
  split
  · rfl
  · split
    · rfl
    · split <;> rfl

theorem setPromise_cases (b : Bridge S) (promise : Option Nat) (st : Status) (response : Transaction) :
    ((∀ p, promise = some p → b.futures p ≠ none) ∧ b.setPromise promise st response = b.readerCrash) ∨
    (∃ p, promise = some p ∧ b.futures p = none ∧ b.setPromise promise st response =
      { b with futures := Function.update b.futures p (some st)
               history := { b.history with fulfilled := b.history.fulfilled ++ [(p, response)] }
               readerThread := some .receiving }) := by
  unfold setPromise
  split
  · exact Or.inl ⟨by simp, rfl⟩
  · rename_i p
    split
    · rename_i hp
      refine Or.inl ⟨fun q hq => ?_, rfl⟩
      cases hq
      simp [hp]
    · exact Or.inr ⟨_, rfl, ‹_›, rfl⟩

/-- The entry of a response is gone. -/
def erased (b : Bridge S) (md : MasterMd) (response : Transaction) : Bridge S :=
  b.setMasterMd response.initiator { md with txns := Function.update md.txns response.id none }

/-- The buffers once the data of the response to a request are copied. -/
def filled (buffers : Nat → List UInt8) (mTxn : Master.Txn) (response : Transaction) : Nat → List UInt8 :=
  if response.type = .readResp ∧ response.ok = true then
    match mTxn.buffer with
    | none => buffers
    | some q => Function.update buffers q (overwrite (buffers q) response.data)
  else buffers

theorem resolve_eq {md : MasterMd} {mTxn : Master.Txn} {response : Transaction} :
    b.resolve md mTxn response =
      if mTxn.buffer = none ∧ (response.type = .readResp ∧ response.ok = true) ∧ response.data ≠ [] then
        (b.erased md response).readerCrash
      else ({ b.erased md response with buffers := filled b.buffers mTxn response } : Bridge S).setPromise
        mTxn.promise (responseStatus response) response := by
  unfold resolve filled
  by_cases hread : response.type = .readResp ∧ response.ok = true
  · cases hbuffer : mTxn.buffer with
    | none => by_cases hdata : response.data = [] <;> simp [hread, hdata] <;> rfl
    | some q => simp [hread]; rfl
  · simp [hread]
    rfl

/-- What a matched response leads to: its promise is set, or the process is gone, as the promise was set
    before or there is no buffer for the data. -/
theorem resolve_cases (b : Bridge S) (md : MasterMd) (mTxn : Master.Txn) (response : Transaction) :
    (((∀ p, mTxn.promise = some p → b.futures p ≠ none) ∨
        (mTxn.buffer = none ∧ response.type = .readResp ∧ response.data ≠ [])) ∧
      ∃ buffers, b.resolve md mTxn response = ({ b.erased md response with buffers } : Bridge S).readerCrash) ∨
    ∃ p, mTxn.promise = some p ∧ b.futures p = none ∧ b.resolve md mTxn response =
      { b.erased md response with
        buffers := filled b.buffers mTxn response
        futures := Function.update b.futures p (some (responseStatus response))
        history := { b.history with fulfilled := b.history.fulfilled ++ [(p, response)] }
        readerThread := some .receiving } := by
  rw [resolve_eq]
  split
  · rename_i hbad
    exact Or.inl ⟨Or.inr ⟨hbad.1, hbad.2.1.1, hbad.2.2⟩, b.buffers, rfl⟩
  · rcases setPromise_cases { b.erased md response with buffers := filled b.buffers mTxn response }
      mTxn.promise (responseStatus response) response with ⟨hset, heq⟩ | h
    · exact Or.inl ⟨Or.inl hset, _, heq⟩
    · exact Or.inr h

theorem erased_ledger {md : MasterMd} {response : Transaction} (hm : b.masterMap response.initiator = some md) :
    (b.erased md response).ledger = b.ledger.erase response.initiator response.id := by
  refine ledger_eq rfl (fun m => ?_) rfl rfl rfl rfl
  have hmd : b.ledger.masters response.initiator = md := by simp [ledger, hm]
  rw [Ledger.erase, hmd]
  exact congrFun masters_setMasterMd m

theorem resolved_ledger {md : MasterMd} {response : Transaction} {buffers : Nat → List UInt8}
    (hm : b.masterMap response.initiator = some md) (p : Nat) :
    ({ b.erased md response with
        buffers
        futures := Function.update b.futures p (some (responseStatus response))
        history := { b.history with fulfilled := b.history.fulfilled ++ [(p, response)] }
        readerThread := some .receiving } : Bridge S).ledger = b.ledger.resolve p response := by
  have herase := erased_ledger hm
  exact ledger_eq (congrArg Ledger.waiting herase) (fun m => congrFun (congrArg Ledger.masters herase) m) rfl rfl rfl rfl

theorem masters_txns {m id : UInt64} :
    (b.ledger.masters m).txns id = (b.masterMap m).bind fun md => md.txns id := by
  cases hm : b.masterMap m <;> simp [ledger, hm]

/-- What becomes of a response: it matches no outstanding request and stops the reader, or its entry is
    taken out and resolved. -/
theorem readerResponse_cases (txn : Transaction) :
    ((b.ledger.masters txn.initiator).txns txn.id = none ∧ (b.readerResponse txn).ledger = b.ledger ∧
      (b.readerResponse txn).readerThread = some .returned ∧ (b.readerResponse txn).readerStatus.isError = true) ∨
    ∃ mTxn, (b.ledger.masters txn.initiator).txns txn.id = some mTxn ∧
      (((b.readerResponse txn).ledger = b.ledger.erase txn.initiator txn.id ∧
        (b.readerResponse txn).readerThread = some .crashed) ∨
      ∃ p, mTxn.promise = some p ∧ b.futures p = none ∧
        (b.readerResponse txn).ledger = b.ledger.resolve p txn ∧
        (b.readerResponse txn).readerThread = some .receiving) := by
  rw [masters_txns]
  unfold readerResponse
  cases hm : b.masterMap txn.initiator with
  | none => exact Or.inl ⟨rfl, rfl, rfl, rfl⟩
  | some md =>
    cases hid : md.txns txn.id with
    | none => exact Or.inl ⟨hid, by simp only [hid]; rfl, by simp only [hid]; rfl, by simp only [hid]; rfl⟩
    | some mTxn =>
      refine Or.inr ⟨mTxn, hid, ?_⟩
      simp only [hid]
      have herase := erased_ledger hm
      rcases b.resolve_cases md mTxn txn with ⟨-, buffers, heq⟩ | ⟨p, hp, hf, heq⟩
      · rw [heq]
        exact Or.inl ⟨herase, rfl⟩
      · rw [heq]
        exact Or.inr ⟨p, hp, hf, resolved_ledger hm p, rfl⟩

theorem serve_type [Slave S] (s : S) (txn : Transaction) :
    (serve s txn).2.type = if txn.type = .writeReq then .writeResp else .readResp := by
  unfold serve
  by_cases hw : txn.type = .writeReq
  · simp only [hw, if_true]
    split <;> rfl
  · simp only [hw, if_false]
    split <;> rfl

theorem serve_initiator [Slave S] (s : S) (txn : Transaction) : (serve s txn).2.initiator = txn.initiator := by
  unfold serve
  simp only
  split <;> split <;> rfl

theorem serve_id [Slave S] (s : S) (txn : Transaction) : (serve s txn).2.id = txn.id := by
  unfold serve
  simp only
  split <;> split <;> rfl

theorem readerRequest_ledger [Slave S] (txn : Transaction) : Ledger.Work b.ledger (b.readerRequest txn).ledger := by
  unfold readerRequest
  split
  · exact .stay _
  · rename_i s hs
    have htype : (serve s txn).2.type.isRequest = false := by
      rw [serve_type]
      split <;> rfl
    have heq : ({ b with
        slaveMap := Function.update b.slaveMap txn.target (some (serve s txn).1)
        queue := b.queue.push { type := .transaction, txn := (serve s txn).2 }
        readerThread := some .receiving } : Bridge S).ledger =
        { b.ledger with waiting := b.ledger.waiting ++ [{ type := .transaction, txn := (serve s txn).2 }] } :=
      ledger_eq (List.append_assoc _ _ _).symm (fun _ => rfl) rfl rfl rfl rfl
    exact heq ▸ Ledger.Work.push _ _ (by simp [Master.Txn.isRequest, htype]) rfl

theorem readerResponse_ledger (txn : Transaction) : Ledger.Step b.ledger (b.readerResponse txn).ledger := by
  rcases readerResponse_cases (b := b) txn with ⟨-, heq, -⟩ | ⟨mTxn, htx, ⟨heq, -⟩ | ⟨p, hp, hf, heq, -⟩⟩
  · rw [heq]
    exact .work (.stay _)
  · rw [heq]
    exact .erase _ _ _
  · rw [heq]
    exact .resolve _ p txn mTxn htx hp hf

end

/-! ### Steps of the bridge -/

section
variable [Slave S] [Flatbuffers Buf]

/-- Every step but the processing of a response leaves the promises alone. -/
theorem step_work {b t : Bridge S} {e : Event Buf} (h : b.step e = some t) : Ledger.Work b.ledger t.ledger ∨
    ∃ response, e = .process ∧ b.readerThread = some (.holding response) ∧ response.type.isRequest = false ∧
      t = b.readerResponse response := by
  cases moves_of_step h with
  | read m buffer => exact Or.inl (issue_ledger _ _ rfl)
  | write m buffer => exact Or.inl (issue_ledger _ _ rfl)
  | terminate m => exact Or.inl (terminate_ledger m)
  | notify q hq =>
    obtain ⟨c, -, rfl⟩ := Option.map_eq_some_iff.mp hq
    exact Or.inl (.stay _)
  | spurious q hq =>
    obtain ⟨c, -, rfl⟩ := Option.map_eq_some_iff.mp hq
    exact Or.inl (.stay _)
  | pop q r hw hq =>
    rw [popped_ledger hw (Queue.pop_items hq)]
    exact Or.inl (.stay _)
  | resume q r hw hq =>
    rw [popped_ledger hw (Queue.resume_items hq)]
    exact Or.inl (.stay _)
  | dispatch tx hw => exact Or.inl (dispatch_ledger hw)
  | sent out write hw =>
    rw [writerSent_ledger hw]
    exact Or.inl (.stay _)
  | receive read hr =>
    rw [readerReceive_ledger]
    exact Or.inl (.stay _)
  | process txn hr =>
    unfold readerProcess
    split
    · exact Or.inl (readerRequest_ledger _)
    · rename_i hreq
      exact Or.inr ⟨txn, rfl, hr, by simpa using hreq, rfl⟩

/-- A step of the bridge is one of its ledger. -/
theorem step_ledger {b t : Bridge S} {e : Event Buf} (h : b.step e = some t) : Ledger.Step b.ledger t.ledger := by
  rcases step_work h with h | ⟨response, -, -, -, rfl⟩
  · exact .work h
  · exact readerResponse_ledger response

end

/-! ### Sessions -/

/-- A bridge whose `start` has returned with success. The queue may have been finished in an earlier
    session. -/
structure Started (b : Bridge S) : Prop where
  client : b.client.state = .started
  reader : b.readerThread = some .receiving
  writer : b.writerThread = some .popping
  masters : ∀ m md, b.masterMap m = some md → md = {}
  queue : b.queue.items = []
  futures : b.futures = fun _ => none
  history : b.history = {}

theorem Started.inv {b : Bridge S} (h : b.Started) : b.ledger.Inv := by
  have hmasters : ∀ m, b.ledger.masters m = {} := by
    intro m
    cases hm : b.masterMap m with
    | none => simp [ledger, hm]
    | some md => simp [ledger, hm, h.masters m md hm]
  have hwaiting : b.ledger.waiting = [] := by simp [ledger, writerItem_popping h.writer, h.queue]
  have hassigned : b.ledger.assigned = [] := by simp [ledger, h.history]
  have hfulfilled : b.ledger.fulfilled = [] := by simp [ledger, h.history]
  have hfutures : ∀ p, b.ledger.futures p = none := fun p => congrFun h.futures p
  exact
    { waiting := by simp [hwaiting]
      promises := by simp [hwaiting, hassigned]
      counts := fun m => by simp [hwaiting, Ledger.given, hassigned]
      next := fun m => by simp [hmasters, Ledger.given, hassigned]
      below := by simp [hassigned]
      pairs := by simp [hassigned]
      owner := by simp [hassigned]
      outstanding := by simp [hmasters]
      resolved := by simp [hfutures]
      matched := by simp [hfulfilled]
      once := by simp [hfulfilled] }

/-- Some request waits for its response under the pair. -/
def Outstanding (b : Bridge S) (master id : UInt64) : Prop :=
  ∃ md tx, b.masterMap master = some md ∧ md.txns id = some tx

/-- What holds of the requests and their promises in a state. -/
structure Matched (b : Bridge S) : Prop where
  /-- No two requests of a master have the same id. -/
  unique : ∀ p q m id, (p, m, id) ∈ b.history.assigned → (q, m, id) ∈ b.history.assigned → p = q
  /-- The pair of a request names its own master, and a request has one pair. -/
  owner : ∀ p m id, (p, m, id) ∈ b.history.assigned → ∃ txn, b.history.issued[p]? = some txn ∧ txn.initiator = m
  single : (b.history.assigned.map Prod.fst).Nodup
  below : ∀ m md id tx, b.masterMap m = some md → md.txns id = some tx → id < md.lastTxnId
  /-- Each promise is set at most once: an outstanding entry has one that is still to be set. -/
  once : (b.history.fulfilled.map Prod.fst).Nodup
  unset : ∀ m md id tx, b.masterMap m = some md → md.txns id = some tx →
    ∃ p, tx.promise = some p ∧ (p, m, id) ∈ b.history.assigned ∧ b.futures p = none
  /-- The status is ok iff the response is, and has its message otherwise. -/
  status : ∀ p st, b.futures p = some st → ∃ response, (p, response) ∈ b.history.fulfilled ∧
    (p, response.initiator, response.id) ∈ b.history.assigned ∧ st.isOk = response.ok ∧
      (response.ok = false → st.msg = response.message)

/-- What holds of a step: promises are set by the processing of a response only, the promise being that of
    the request that got the response's pair before; and a response that matches nothing changes no
    promise and no outstanding request, and ends the reader with an error. -/
structure MatchedStep (b : Bridge S) (e : Event Buf) (t : Bridge S) : Prop where
  setBy : t.futures = b.futures ∧ t.history.fulfilled = b.history.fulfilled ∨
    ∃ response p, e = .process ∧ b.readerThread = some (.holding response) ∧ response.type.isRequest = false ∧
      (p, response.initiator, response.id) ∈ b.history.assigned ∧ b.futures p = none ∧
      t.futures = Function.update b.futures p (some (responseStatus response)) ∧
      t.history.fulfilled = b.history.fulfilled ++ [(p, response)]
  unmatched : ∀ response, e = .process → b.readerThread = some (.holding response) →
    response.type.isRequest = false → ¬b.Outstanding response.initiator response.id →
      t.futures = b.futures ∧ t.masterMap = b.masterMap ∧ t.readerThread = some .returned ∧
        t.readerStatus.isError = true

section
variable {b : Bridge S}

theorem outstanding_masters {m id : UInt64} {md : MasterMd} {tx : Master.Txn} (hm : b.masterMap m = some md)
    (hid : md.txns id = some tx) : (b.ledger.masters m).txns id = some tx := by
  rw [masters_txns, hm]
  exact hid

theorem responseStatus_isOk (response : Transaction) : (responseStatus response).isOk = response.ok := by
  unfold responseStatus
  cases response.ok <;> rfl

theorem responseStatus_msg {response : Transaction} (h : response.ok = false) :
    (responseStatus response).msg = response.message := by
  simp [responseStatus, h]

theorem matched_of_inv (h : b.ledger.Inv) : b.Matched where
  unique p q m id hp hq := (Prod.mk.inj (List.inj_on_of_nodup_map h.pairs hp hq rfl)).1
  owner := h.owner
  single := List.Nodup.of_append_right h.promises
  below m md id tx hm hid := by
    obtain ⟨p, -, ha, -⟩ := h.outstanding m id tx (outstanding_masters hm hid)
    have hlt := h.below p m id ha
    rwa [show b.ledger.masters m = md by simp [ledger, hm]] at hlt
  once := h.once
  unset m md id tx hm hid := h.outstanding m id tx (outstanding_masters hm hid)
  status p st hp := by
    obtain ⟨response, hr, rfl⟩ := h.resolved p st hp
    exact ⟨response, hr, (h.matched p response hr).1, responseStatus_isOk response, responseStatus_msg⟩

/-- A response that matches nothing leaves the bridge as it was, but for the reader and the queue's flag. -/
theorem readerResponse_unmatched {response : Transaction} (h : ¬b.Outstanding response.initiator response.id) :
    ∃ msg, b.readerResponse response = b.readerExit ⟨1, msg⟩ := by
  unfold readerResponse
  cases hm : b.masterMap response.initiator with
  | none => exact ⟨_, rfl⟩
  | some md =>
    cases hid : md.txns response.id with
    | none =>
      simp only [hid]
      exact ⟨_, rfl⟩
    | some mTxn => exact absurd ⟨md, mTxn, hm, hid⟩ h

end

section
variable [Slave S] [Flatbuffers Buf]

/-- The ledger's invariant holds along every session in which no master issues `2^64` requests. -/
theorem Started.run_inv {b t : Bridge S} (hb : b.Started) {es : List (Event Buf)} (hr : run step b es = some t)
    (hbound : t.ledger.Bounded) : t.ledger.Inv := by
  have keep : ∀ (s : Bridge S) (e : Event Buf) (t : Bridge S), (s.ledger.Bounded → s.ledger.Inv) → s.step e = some t →
      t.ledger.Bounded → t.ledger.Inv := fun s e t hs he ht =>
    (hs ((step_ledger he).bounded ht)).step ht (step_ledger he)
  exact run_invariant keep (fun _ => hb.inv) hr hbound

theorem matchedStep_of_inv {b t : Bridge S} {e : Event Buf} (h : b.ledger.Inv) (hs : b.step e = some t) :
    MatchedStep b e t where
  setBy := by
    rcases step_work hs with hw | ⟨response, rfl, hr, hreq, rfl⟩
    · exact Or.inl hw.promises
    · rcases readerResponse_cases (b := b) response with ⟨-, heq, -⟩ | ⟨mTxn, htx, ⟨heq, -⟩ | ⟨p, hp, hf, heq, -⟩⟩
      · exact Or.inl ⟨congrArg Ledger.futures heq, congrArg Ledger.fulfilled heq⟩
      · exact Or.inl ⟨congrArg Ledger.futures heq, congrArg Ledger.fulfilled heq⟩
      · obtain ⟨q, hq, ha, -⟩ := h.outstanding _ _ _ htx
        rw [hp] at hq
        cases hq
        exact Or.inr ⟨response, p, rfl, hr, hreq, ha, hf, congrArg Ledger.futures heq, congrArg Ledger.fulfilled heq⟩
  unmatched response he hr hreq hno := by
    subst he
    have ht : t = b.readerResponse response := by
      have hturn : ¬b.Throws response ∧ t = b.readerResponse response := by
        simpa [step, hr, readerProcess, hreq, eq_comm] using hs
      exact hturn.2
    obtain ⟨msg, heq⟩ := readerResponse_unmatched hno
    rw [ht, heq]
    exact ⟨rfl, rfl, rfl, rfl⟩

/-- In every session of a started bridge in which no master issues `2^64` requests, whatever the router
    sends: requests and responses are matched in every state and by every step from it. -/
theorem responses_matched {b s : Bridge S} (hb : b.Started) {es : List (Event Buf)} (hr : run step b es = some s)
    (hbound : ∀ m, (s.history.issued.countP fun txn => txn.initiator = m) < 2 ^ 64) :
    s.Matched ∧ ∀ (e : Event Buf) t, s.step e = some t → MatchedStep s e t := by
  have hinv : s.ledger.Inv := hb.run_inv hr hbound
  exact ⟨matched_of_inv hinv, fun _ _ hs => matchedStep_of_inv hinv hs⟩

end

/-- A started bridge with one master, of id 1, and a slave of id 0. -/
def session : Bridge Ram where
  client := { state := .started, connectedUri := "unix:///tmp/sw-axi", sock := 3 }
  slaveMap := Function.update (fun _ => none) 0 (some { addr := 0x1000 })
  masterMap := Function.update (fun _ => none) 1 (some {})
  readerThread := some .receiving
  writerThread := some .popping

theorem session_started : session.Started where
  client := rfl
  reader := rfl
  writer := rfl
  masters m md h := by
    by_cases hm : m = 1
    · subst hm
      simpa [session, eq_comm] using h
    · simp [session, hm] at h
  queue := rfl
  futures := rfl
  history := rfl

/-- The master reads two bytes; the response comes, and then a forged one. -/
def duplicated : List (Event Wire.Message) :=
  [.read 1 { data := [0, 0], size := 2, address := 0x1000 }, .pop, .dispatch, .sent (.ok ()),
    .receive (.ok (RouterClient.transactionMessage { type := .readResp, initiator := 1, data := [7, 8], ok := true })),
    .process, .receive (.ok (RouterClient.transactionMessage { type := .readResp, initiator := 1, ok := true })),
    .process]

theorem responses_matched_duplicated :
    ∃ s, run step session duplicated = some s ∧ s.Matched ∧
      ∀ (e : Event Wire.Message) t, s.step e = some t → MatchedStep s e t := by
  obtain ⟨s, hs, hlen⟩ : ∃ s, run step session duplicated = some s ∧ s.history.issued.length = 1 := ⟨_, rfl, rfl⟩
  have hbound : ∀ m, (s.history.issued.countP fun txn => txn.initiator = m) < 2 ^ 64 :=
    fun m => lt_of_le_of_lt List.countP_le_length (by omega)
  exact ⟨s, hs, responses_matched session_started hs hbound⟩

end Bridge

end SwAxi
