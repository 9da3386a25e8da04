import SwAxi.Flow
import SwAxi.Termination

/-! Turns of `route` on the messages of its clients: what becomes of each, and what is recorded of it. -/

namespace SwAxi
open Wire (Flatbuffers)
open Wire.Flatbuffers (getRoot finish mutateTarget)
open RouterClient (decode transactionMessage terminateMessage doneMessage wireTransactionType)

variable {Buf : Type} [Flatbuffers Buf]

/-- The response that `route` makes of a request that it cannot resolve. -/
def errorResponse (txn : Transaction) (err : String) : Transaction where
  type := if txn.type = .readReq then .readResp else .writeResp
  initiator := txn.initiator
  id := txn.id
  message := err

theorem decode_createErrorTxn {txn : Transaction} (hreq : txn.type.isRequest = true) (err : String) :
    decode (createErrorTxn txn.initiator txn.id (wireTransactionType txn.type) err : Buf) =
      some (errorResponse txn err) := by
  have htype : (getRoot (createErrorTxn txn.initiator txn.id (wireTransactionType txn.type) err : Buf)).getType =
      .transaction := RouterRun.getType_createErrorTxn _ _ _ _
  rw [decode, if_pos htype]
  cases h : txn.type with
  | readReq =>
    simp [createErrorTxn, wireTransactionType, RouterClient.readTransactionType, RouterClient.readTransaction,
      errorResponse, h]
    rfl
  | writeReq =>
    simp [createErrorTxn, wireTransactionType, RouterClient.readTransactionType, RouterClient.readTransaction,
      errorResponse, h]
    rfl
  | readResp => simp [h, TransactionType.isRequest] at hreq
  | writeResp => simp [h, TransactionType.isRequest] at hreq

theorem isResponse_transactionMessage (txn : Transaction) :
    isResponse (transactionMessage txn : Buf) = !txn.type.isRequest := by
  unfold isResponse
  rw [RouterClient.txn_transactionMessage]
  simp only [Wire.Transaction.getType_omitDefaults, RouterClient.getType_transactionTable]
  cases txn.type <;> rfl

theorem isResponse_mutateTarget (txn : Transaction) (target : UInt64) :
    isResponse (mutateTarget (transactionMessage txn : Buf) target) = !txn.type.isRequest := by
  have hsame : isResponse (transactionMessage txn : Buf) = !txn.type.isRequest := isResponse_transactionMessage txn
  rw [← hsame]
  unfold isResponse
  simp only [Flatbuffers.getRoot_mutateTarget, Wire.Message.mutateTarget_txn, RouterClient.txn_transactionMessage]
  rfl

theorem isResponse_createErrorTxn {txn : Transaction} (hreq : txn.type.isRequest = true) (err : String) :
    isResponse (createErrorTxn txn.initiator txn.id (wireTransactionType txn.type) err : Buf) = true := by
  cases h : txn.type with
  | readReq =>
    simp only [isResponse, createErrorTxn, Flatbuffers.getRoot_finish, Wire.Message.omitDefaults_txn, Option.map_some]
    rfl
  | writeReq =>
    simp only [isResponse, createErrorTxn, Flatbuffers.getRoot_finish, Wire.Message.omitDefaults_txn, Option.map_some]
    rfl
  | readResp => simp [h, TransactionType.isRequest] at hreq
  | writeResp => simp [h, TransactionType.isRequest] at hreq

/-! ### What becomes of a message -/

namespace Router
variable {r : Router} {order : List IpInfo}

omit [Flatbuffers Buf] in
theorem sendToInitiator_send {initiator : UInt64} {msgArr out : Buf} {k : Nat}
    (h : r.sendToInitiator initiator msgArr = .send k out) : out = msgArr := by
  unfold sendToInitiator sendTo at h
  split at h
  · cases h
  · split at h
    · cases h
      rfl
    · cases h

/-- Nothing but transactions is put on the channel of a single client. -/
theorem route_send {r' : Router} {msgArr out : Buf} {k : Nat} (h : r.route order msgArr = (r', .send k out)) :
    (getRoot out).getType = .transaction := by
  have htransaction : ∀ {r : Router}, r.routeTransaction order msgArr = .send k out →
      (getRoot out).getType = .transaction := by
    intro r h
    unfold routeTransaction at h
    simp only at h
    split at h
    · cases h
    · rename_i htype
      have htype : (getRoot msgArr).getType = .transaction := by simpa using htype
      split at h
      · cases h
      · split at h
        · rw [sendToInitiator_send h]
          exact htype
        · rw [sendToInitiator_send h]
          exact htype
        · split at h
          · rw [sendToInitiator_send h]
            exact RouterRun.getType_createErrorTxn _ _ _ _
          · unfold sendTo at h
            split at h
            · cases h
              simpa using htype
            · cases h
        · split at h
          · rw [sendToInitiator_send h]
            exact RouterRun.getType_createErrorTxn _ _ _ _
          · unfold sendTo at h
            split at h
            · cases h
              simpa using htype
            · cases h
        · cases h
  unfold route at h
  simp only at h
  split at h
  · split at h
    · cases h
    · split at h
      · split at h
        · cases h
        · exact htransaction (Prod.mk.inj h).2
      · cases h
  · exact htransaction (Prod.mk.inj h).2

/-- A `TERMINATE` ends the loop if it is the last one, and else the process. -/
theorem route_termination {id : UInt64} {turn : Router × Routed Buf}
    (hturn : r.route order (terminateMessage id) = turn) :
    (r.masterCount - 1 = 0 ∧ turn = ({ r with masterCount := r.masterCount - 1 }, .done)) ∨
    (∃ r' text, turn = (r', .fatal text)) ∨
    (∃ r', turn = (r', .panic)) := by
  subst hturn
  unfold route
  simp only [getType_terminateMessage, getIpId_terminateMessage, if_true]
  split
  · exact Or.inr (Or.inr ⟨_, rfl⟩)
  · split
    · split
      · exact Or.inl ⟨‹_›, rfl⟩
      · exact Or.inr (Or.inl ⟨_, _, by rw [routeTransaction, if_pos (by simp)]⟩)
    · exact Or.inr (Or.inr ⟨_, rfl⟩)

theorem route_logout (r : Router) (order : List IpInfo) :
    r.route order (RouterClient.doneMessage : Buf) = (r, .fatal "Received unexpected message: DONE") := by
  have htype : (getRoot (RouterClient.doneMessage : Buf)).getType = .done := getType_doneMessage
  rw [route_of_ne_terminate (by simp), routeTransaction]
  simp [htype, Wire.MsgType.enumName]

end Router

/-! ### What is recorded of it -/

namespace Record
variable {r : Record}

theorem turn_forwarded {txn : Transaction} (hreq : txn.type.isRequest = true) (k : Nat) (target : UInt64) :
    r.turn (transactionMessage txn : Buf) (.send k (mutateTarget (transactionMessage txn) target)) =
      { r with forwarded := r.forwarded ++ [txn.key] } := by
  simp [turn, isResponse_transactionMessage, isResponse_mutateTarget, hreq]
  rfl

theorem turn_errored {txn : Transaction} (hreq : txn.type.isRequest = true) (k : Nat) (err : String) :
    r.turn (transactionMessage txn : Buf)
        (.send k (createErrorTxn txn.initiator txn.id (wireTransactionType txn.type) err)) =
      { r with errored := r.errored ++ [(k, txn.key)] } := by
  simp [turn, isResponse_transactionMessage, isResponse_createErrorTxn hreq, hreq]
  rfl

theorem turn_answered {txn : Transaction} (hreq : txn.type.isRequest = false) (k : Nat) :
    r.turn (transactionMessage txn : Buf) (.send k (transactionMessage txn)) =
      { r with answered := r.answered ++ [(k, txn.key)] } := by
  simp [turn, isResponse_transactionMessage, hreq]
  rfl

theorem turn_panic (txn : Transaction) : r.turn (transactionMessage txn : Buf) .panic = r := by simp [turn]

theorem turn_termination (id : UInt64) (routed : Routed Buf) :
    r.turn (terminateMessage id : Buf) routed = { r with terminations := r.terminations ++ [id] } := by
  simp [turn]

end Record

end SwAxi
