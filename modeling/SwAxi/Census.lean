import SwAxi.Flow

/-! A census of a flow: how many requests and responses of a key it holds, and how many terminations of a
master. No step of a flow makes any of them out of nothing. -/

namespace SwAxi
open Wire (Flatbuffers)
open Wire.Flatbuffers (getRoot)
open RouterClient (decode transactionMessage terminateMessage doneMessage)

/-- A request of the key, or a response to it. -/
def Transaction.matches (txn : Transaction) (req : Bool) (κ : Key) : Bool :=
  txn.type.isRequest == req && decide (txn.key = κ)

/-- A response that waits for the writer. -/
def Master.Txn.answers (tx : Master.Txn) (κ : Key) : Bool :=
  decide (tx.type = .transaction) && tx.txn.matches false κ

/-- A termination that waits for the writer. -/
def Master.Txn.ends (tx : Master.Txn) (m : UInt64) : Bool :=
  decide (tx.type = .termination) && decide (tx.txn.id = m)

section
variable {Buf : Type} [Flatbuffers Buf]

def carries (req : Bool) (κ : Key) (msgArr : Buf) : Bool := (decode msgArr).any fun txn => txn.matches req κ

def terminates (m : UInt64) (msgArr : Buf) : Bool :=
  decide ((getRoot msgArr).getType = .terminate) && decide ((getRoot msgArr).getIpId = m)

variable {req : Bool} {κ : Key} {m : UInt64}

@[simp] theorem carries_transactionMessage (txn : Transaction) :
    carries req κ (transactionMessage txn : Buf) = txn.matches req κ := by simp [carries]

@[simp] theorem carries_mutateTarget (txn : Transaction) (target : UInt64) :
    carries req κ (Flatbuffers.mutateTarget (transactionMessage txn : Buf) target) = txn.matches req κ := by
  simp [carries]
  rfl

@[simp] theorem carries_terminateMessage (id : UInt64) : carries req κ (terminateMessage id : Buf) = false := by
  simp [carries]

@[simp] theorem carries_doneMessage : carries req κ (doneMessage : Buf) = false := by simp [carries]

@[simp] theorem terminates_transactionMessage (txn : Transaction) :
    terminates m (transactionMessage txn : Buf) = false := by simp [terminates]

@[simp] theorem terminates_terminateMessage (id : UInt64) :
    terminates m (terminateMessage id : Buf) = decide (id = m) := by simp [terminates]

@[simp] theorem terminates_doneMessage : terminates m (doneMessage : Buf) = false := by simp [terminates]

theorem carries_of_decode {msgArr : Buf} {txn : Transaction} (h : decode msgArr = some txn) :
    carries req κ msgArr = txn.matches req κ := by simp [carries, h]

end

theorem Transaction.matches_iff {txn : Transaction} {req : Bool} {κ : Key} :
    txn.matches req κ = true ↔ txn.type.isRequest = req ∧ txn.key = κ := by
  simp [Transaction.matches]

theorem Transaction.matches_of_ne {txn : Transaction} {req : Bool} (h : txn.type.isRequest ≠ req) (κ : Key) :
    txn.matches req κ = false := by
  simp [Transaction.matches, h]

theorem Master.Txn.answers_of_isRequest {tx : Master.Txn} (h : tx.isRequest = true) (κ : Key) :
    tx.answers κ = false := by
  simp only [Master.Txn.isRequest, Bool.and_eq_true] at h
  simp [Master.Txn.answers, Transaction.matches, h.2]

theorem Master.Txn.ends_of_isRequest {tx : Master.Txn} (h : tx.isRequest = true) (m : UInt64) :
    tx.ends m = false := by
  simp only [Master.Txn.isRequest, Bool.and_eq_true, decide_eq_true_eq] at h
  simp [Master.Txn.ends, h.1]

namespace Flow
variable {S Buf : Type} [Flatbuffers Buf]

/-- The requests on their way to `route`. -/
def asked (κ : Key) (f : Flow S Buf) : Nat := f.up.countP (carries true κ)

/-- The requests that the writer gave this key. -/
def given (κ : Key) (f : Flow S Buf) : Nat := f.ledger.assigned.countP fun a => a.2 = κ

/-- The forwarded requests on their way to a slave, and the responses on their way back to `route`. -/
def serving (κ : Key) (f : Flow S Buf) : Nat :=
  f.down.countP (carries true κ) + f.held.toList.countP (fun txn => txn.matches true κ) +
    f.ledger.waiting.countP (fun tx => tx.answers κ) + f.up.countP (carries false κ)

/-- The responses on their way to the master. -/
def due (κ : Key) (f : Flow S Buf) : Nat :=
  f.down.countP (carries false κ) + f.held.toList.countP fun txn => txn.matches false κ

/-- The responses that have set a promise. -/
def settled (κ : Key) (f : Flow S Buf) : Nat := f.ledger.fulfilled.countP fun a => a.2.key = κ

/-- The terminations on their way to `route`. -/
def ending (m : UInt64) (f : Flow S Buf) : Nat :=
  f.ledger.waiting.countP (fun tx => tx.ends m) + f.up.countP (terminates m)

def ended (m : UInt64) (f : Flow S Buf) : Nat := f.terminated.count m

variable {f f' : Flow S Buf}

theorem assign_given {tx : Master.Txn} {p : Nat} (hp : tx.promise = some p) (rest : List Master.Txn) (κ : Key) :
    (f.assign tx rest).given κ =
      f.given κ + if (tx.txn.initiator, (f.ledger.masters tx.txn.initiator).lastTxnId) = κ then 1 else 0 := by
  simp [given, assign, Ledger.assign_assigned hp, List.countP_append, List.countP_singleton]

variable [Slave S] {U : Users}

theorem Step.asked_le (h : Step U f f') (hbooked : f.ledger.Booked) (κ : Key) :
    f'.asked κ + f.given κ ≤ f.asked κ + f'.given κ := by
  cases h with
  | stay => exact le_rfl
  | issue => exact le_rfl
  | terminate => exact le_rfl
  | termination => simp [asked, given, send]
  | request tx rest hw hreq =>
    obtain ⟨p, hp, -⟩ : ∃ p, tx.promise = some p ∧ f.ledger.issued[p]? = some tx.txn := by
      simpa [hreq] using hbooked.waiting tx (hw ▸ List.mem_cons_self)
    rw [assign_given hp]
    simp only [Master.Txn.isRequest, Bool.and_eq_true] at hreq
    by_cases hκ : (tx.txn.initiator, (f.ledger.masters tx.txn.initiator).lastTxnId) = κ
    · simp [asked, assign, List.countP_append, Transaction.matches, Transaction.key, hreq.2, hκ]
      omega
    · simp [asked, assign, List.countP_append, Transaction.matches, Transaction.key, hκ]
  | response tx rest hw htype hreq =>
    have hno : tx.txn.matches true κ = false := Transaction.matches_of_ne (by simp [hreq]) κ
    simp [asked, given, send, List.countP_append, hno]
  | logout => simp [asked, given]
  | lose up msgArr hup => simp [asked, given, hup, List.countP_append]
  | leave msgArr rest hup => simp [asked, given, hup, List.countP_cons]
  | receive => exact le_rfl
  | finish => exact le_rfl
  | reject => exact le_rfl
  | serve => exact le_rfl
  | unknownSlave => exact le_rfl
  | unknownRequest => exact le_rfl
  | crash => exact le_rfl
  | resolve => exact le_rfl

/-- A slave answers the request that it is given. -/
theorem serve_matches {s : S} {txn : Transaction} (hreq : txn.type.isRequest = true) (κ : Key) :
    (Bridge.serve s txn).2.matches false κ = txn.matches true κ := by
  have htype : (Bridge.serve s txn).2.type.isRequest = false := by
    rw [Bridge.serve_type]
    split <;> rfl
  simp [Transaction.matches, Transaction.key, htype, hreq, Bridge.serve_initiator, Bridge.serve_id]
  rfl

theorem Step.serving_le (h : Step U f f') (κ : Key) : f'.serving κ ≤ f.serving κ := by
  cases h with
  | stay => exact le_rfl
  | issue bytes txn huser hreq =>
    have hno : txn.matches false κ = false := Transaction.matches_of_ne (by simp [hreq]) κ
    simp [serving, Flow.issue, List.countP_append, Master.Txn.answers, hno]
  | terminate m => simp [serving, push, List.countP_append, Master.Txn.answers]
  | termination tx rest hw => simp [serving, send, hw, List.countP_append, List.countP_cons]
  | request tx rest hw hreq =>
    have htx := hreq
    simp only [Master.Txn.isRequest, Bool.and_eq_true] at htx
    simp [serving, assign, Ledger.assign, hw, List.countP_append, Master.Txn.answers_of_isRequest hreq, Transaction.matches, htx.2]
  | response tx rest hw htype hreq =>
    simp [serving, send, hw, List.countP_append, List.countP_cons, Master.Txn.answers, htype]
    omega
  | logout => simp [serving, List.countP_append]
  | lose up msgArr hup => simp [serving, hup, List.countP_append]
  | leave msgArr rest hup => simp [serving, hup, List.countP_cons]
  | receive msgArr rest txn hdown hdec =>
    simp [serving, hdown, List.countP_cons, carries_of_decode hdec]
  | finish msgArr rest hdown => simp [serving, hdown, List.countP_cons]
  | reject msgArr rest intact hdown => simp [serving, hdown, List.countP_cons]
  | serve txn s hheld hreq =>
    simp [serving, push, hheld, List.countP_append, List.countP_cons, Master.Txn.answers, serve_matches hreq]
    omega
  | unknownSlave txn hheld => simp [serving]
  | unknownRequest txn hheld => simp [serving]
  | crash txn tx buffers hheld => simp [serving, Ledger.erase]
  | resolve txn tx p hheld => simp [serving, Ledger.erase, Ledger.resolve]

theorem Step.due_le (h : Step U f f') (κ : Key) : f'.due κ + f'.settled κ ≤ f.due κ + f.settled κ := by
  cases h with
  | stay => exact le_rfl
  | issue => exact le_rfl
  | terminate => exact le_rfl
  | termination => exact le_rfl
  | request => exact le_rfl
  | response => exact le_rfl
  | logout => exact le_rfl
  | lose => exact le_rfl
  | leave => exact le_rfl
  | receive msgArr rest txn hdown hdec =>
    simp [due, settled, hdown, List.countP_cons, carries_of_decode hdec]
  | finish msgArr rest hdown => simp [due, settled, hdown, List.countP_cons]
  | reject msgArr rest intact hdown => simp [due, settled, hdown, List.countP_cons]
  | serve txn s hheld => simp [due, settled, push]
  | unknownSlave => simp [due, settled]
  | unknownRequest => simp [due, settled]
  | crash => simp [due, settled, Ledger.erase]
  | resolve txn tx p hheld hreq =>
    simp [due, settled, Ledger.resolve, hheld, List.countP_append, List.countP_singleton, Transaction.matches, hreq]
    omega

theorem Step.ending_le (h : Step U f f') (m : UInt64) : f'.ending m + f.ended m ≤ f.ending m + f'.ended m := by
  cases h with
  | stay => exact le_rfl
  | issue bytes txn => simp [ending, ended, Flow.issue, List.countP_append, Master.Txn.ends]
  | terminate id =>
    simp [ending, ended, push, List.countP_append, List.countP_singleton, Master.Txn.ends, List.count_append,
      List.count_singleton]
    omega
  | termination tx rest hw htype =>
    simp [ending, ended, send, hw, List.countP_append, List.countP_cons, Master.Txn.ends, htype]
    omega
  | request tx rest hw hreq =>
    simp [ending, ended, assign, Ledger.assign, hw, List.countP_append, Master.Txn.ends_of_isRequest hreq]
  | response tx rest hw htype =>
    simp [ending, ended, send, hw, List.countP_append, List.countP_cons]
  | logout => simp [ending, ended, List.countP_append]
  | lose up msgArr hup => simp [ending, ended, hup, List.countP_append]
  | leave msgArr rest hup => simp [ending, ended, hup, List.countP_cons]
  | receive => exact le_rfl
  | finish => exact le_rfl
  | reject => exact le_rfl
  | serve txn s => simp [ending, ended, push, List.countP_append, Master.Txn.ends]
  | unknownSlave => exact le_rfl
  | unknownRequest => exact le_rfl
  | crash => exact le_rfl
  | resolve => exact le_rfl

end Flow

end SwAxi
