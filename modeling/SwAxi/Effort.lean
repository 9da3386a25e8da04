import SwAxi.Opening
import SwAxi.Turn
import SwAxi.Lib.Potential
import SwAxi.Lib.Total

/-! The work that is left for the threads and the goroutines: how many steps they can make at most for what is in
the queues and sockets and for what they have in hand. Every step uses some of it up, whatever the order, and only the
users of the bridges bring new work. -/

namespace SwAxi
open Wire (Flatbuffers)
open Wire.Flatbuffers (getRoot mutateTarget)
open RouterClient (decode transactionMessage terminateMessage doneMessage)
open Transition
open Total

/-! ### Requests and messages -/

/-- The steps that a response takes from the queue of the slave's bridge on, with the notification of its push. -/
def responseSteps : Nat := 11

/-- What comes of a transaction beyond the steps that it makes itself. -/
def Transaction.reply (txn : Transaction) : Nat := if txn.type.isRequest then responseSteps else 0

def Master.Txn.reply (tx : Master.Txn) : Nat := if tx.isRequest then responseSteps else 0

section
variable {Buf : Type} [Flatbuffers Buf]

/-- The message has a request in it. -/
def asks (msgArr : Buf) : Bool :=
  (getRoot msgArr).txn.any fun txn => txn.getType == .readReq || txn.getType == .writeReq

def reply (msgArr : Buf) : Nat := if asks msgArr then responseSteps else 0

theorem asks_transactionMessage (txn : Transaction) :
    asks (transactionMessage txn : Buf) = txn.type.isRequest := by
  unfold asks
  rw [RouterClient.txn_transactionMessage]
  simp only [Option.any_some, Wire.Transaction.getType_omitDefaults, RouterClient.getType_transactionTable]
  cases txn.type <;> rfl

@[simp] theorem reply_transactionMessage (txn : Transaction) : reply (transactionMessage txn : Buf) = txn.reply := by
  rw [reply, asks_transactionMessage, Transaction.reply]

@[simp] theorem asks_mutateTarget (msgArr : Buf) (target : UInt64) : asks (mutateTarget msgArr target) = asks msgArr := by
  unfold asks
  simp only [Flatbuffers.getRoot_mutateTarget, Wire.Message.mutateTarget_txn]
  cases (getRoot msgArr).txn <;> rfl

theorem asks_createErrorTxn {typ : Wire.TransactionType} (htyp : typ = .readReq ∨ typ = .writeReq)
    (initiator id : UInt64) (err : String) : asks (createErrorTxn initiator id typ err : Buf) = false := by
  rcases htyp with rfl | rfl <;>
  · simp only [asks, createErrorTxn, Flatbuffers.getRoot_finish, Wire.Message.omitDefaults_txn, Option.map_some]
    rfl

theorem reply_of_txn_none {msgArr : Buf} (h : (getRoot msgArr).txn = none) : reply msgArr = 0 := by
  simp [reply, asks, h]

@[simp] theorem reply_terminateMessage (id : UInt64) : reply (terminateMessage id : Buf) = 0 :=
  reply_of_txn_none (by simp [terminateMessage])

@[simp] theorem reply_doneMessage : reply (doneMessage : Buf) = 0 := reply_of_txn_none (by simp [doneMessage])

@[simp] theorem reply_routerDone : reply (Router.doneMessage : Buf) = 0 :=
  reply_of_txn_none (by simp [Router.doneMessage])

/-- The reader has the same reply ahead that the message had. -/
theorem reply_of_decode {msgArr : Buf} {txn : Transaction} (h : decode msgArr = some txn) :
    reply msgArr = txn.reply := by
  unfold RouterClient.decode at h
  split at h
  · obtain ⟨table, htable, h⟩ := Option.bind_eq_some_iff.mp h
    obtain ⟨type, htype, h⟩ := Option.bind_eq_some_iff.mp h
    have hsame : txn.type = type := by
      unfold RouterClient.readTransaction at h
      obtain ⟨message, -, h⟩ := Option.bind_eq_some_iff.mp h
      cases h
      rfl
    unfold reply asks Transaction.reply
    rw [htable, hsame, Option.any_some]
    cases hget : table.getType <;> rw [hget] at htype <;> cases htype <;> rfl
  · cases h

/-- `route` makes no request of what was none. -/
theorem Router.reply_route_send {r r' : Router} {order : List IpInfo} {msgArr out : Buf} {k : Nat}
    (h : r.route order msgArr = (r', .send k out)) : reply out ≤ reply msgArr := by
  have hrefused : ∀ {r : Router} {table : Wire.Transaction} {err : String},
      (table.getType = .readReq ∨ table.getType = .writeReq) →
      r.sendToInitiator table.getInitiator
        (createErrorTxn table.getInitiator table.getId table.getType err : Buf) = .send k out →
      reply out ≤ reply msgArr := by
    intro r table err htyp h
    rw [sendToInitiator_send h, reply, asks_createErrorTxn htyp]
    exact Nat.zero_le _
  have hsent : ∀ {r : Router} {client target : UInt64},
      r.sendTo client (mutateTarget msgArr target) = .send k out → reply out ≤ reply msgArr := by
    intro r client target h
    unfold sendTo at h
    split at h
    · cases h
      simp [reply]
    · cases h
  have htransaction : ∀ {r : Router}, r.routeTransaction order msgArr = .send k out → reply out ≤ reply msgArr := by
    intro r h
    unfold routeTransaction at h
    simp only at h
    split at h
    · cases h
    · split at h
      · cases h
      · split at h
        · rw [sendToInitiator_send h]
        · rw [sendToInitiator_send h]
        · rename_i htyp
          split at h
          · exact hrefused (Or.inl htyp) h
          · exact hsent h
        · rename_i htyp
          split at h
          · exact hrefused (Or.inr htyp) h
          · exact hsent h
        · cases h
  unfold route at h
  simp only at h
  split at h
  · split at h
    · cases h
    · split at h
      · split at h
        · cases h
        · exact htransaction (Prod.mk.inj h).2
      · cases h
  · exact htransaction (Prod.mk.inj h).2

end

/-! ### Bridges -/

/-- At the head of its loop the consumer blocks or takes an item, and notifies nobody. -/
theorem Queue.loopHead_waiter {α : Type} {q t : Queue α} {r : Popped α} (h : q.loopHead = (t, r)) :
    t.condVar.signals = q.condVar.signals ∧ (r = .blocked → t.condVar.waiter = .blocked) := by
  rcases loopHead_cases (q := q) with ⟨-, heq⟩ | ⟨a, rest, -, heq⟩
  · rw [heq] at h
    cases h
    exact ⟨rfl, fun _ => rfl⟩
  · rw [heq] at h
    cases h
    exact ⟨rfl, fun hr => by cases hr⟩

namespace Bridge
variable {S Buf : Type} (b : Bridge S)

/-- The item is dispatched and sent, read, taken and handed over at the router, written, received and processed; then
    the writer calls `pop` again. -/
def itemEffort (tx : Master.Txn) : Nat := 9 + tx.reply

/-- A notification that is made may have the writer look at its queue once more. -/
def queueEffort : Nat := (b.queue.items.map itemEffort).sum + 2 * b.queue.condVar.signals

/-- A writer that has not returned has its logout ahead, which the router reads. -/
def writerEffort : Nat :=
  match b.writerThread with
  | some .popping => if b.queue.condVar.waiter = .blocked then 7 else 8
  | some (.holding tx) => 16 + tx.reply
  | some (.sending (.transaction txn)) => 15 + txn.reply
  | some (.sending (.termination _)) => 15
  | some (.sending .logout) => 7
  | some .returned | none => 0

/-- A reader that has not returned finishes the queue when it does. -/
def readerEffort : Nat :=
  match b.readerThread with
  | some .receiving => 3
  | some (.holding txn) => 4 + txn.reply
  | some .returned | some .crashed | none => 0

def effort : Nat := b.queueEffort + b.writerEffort + b.readerEffort

/-- What the users of the bridge bring: the item that they push, with its notification and the step itself. -/
def Event.cost : Event Buf → Nat
  | .read .. | .write .. => 23
  | .terminate _ => 12
  | .spurious => 2
  | .notify | .pop | .resume | .dispatch | .sent _ | .receive _ | .process => 0

section
variable {b}

theorem reply_of_isRequest {txn : Transaction} (h : txn.type.isRequest = true) : txn.reply = responseSteps := if_pos h

theorem reply_of_not_isRequest {txn : Transaction} (h : txn.type.isRequest = false) : txn.reply = 0 := by
  simp [Transaction.reply, h]

theorem serve_isRequest [Slave S] (s : S) (txn : Transaction) : (serve s txn).2.type.isRequest = false := by
  rw [serve_type]
  split <;> rfl

theorem queueEffort_push (tx : Master.Txn) :
    ({ b with queue := b.queue.push tx } : Bridge S).queueEffort = b.queueEffort + itemEffort tx + 2 := by
  simp only [queueEffort, Queue.push, List.map_append, List.sum_append, CondVar.signal_signals, List.map_singleton,
    List.sum_singleton]
  omega

theorem effort_push (tx : Master.Txn) :
    ({ b with queue := b.queue.push tx } : Bridge S).effort = b.effort + itemEffort tx + 2 := by
  have hwriter : ({ b with queue := b.queue.push tx } : Bridge S).writerEffort = b.writerEffort := rfl
  have hreader : ({ b with queue := b.queue.push tx } : Bridge S).readerEffort = b.readerEffort := rfl
  rw [effort, queueEffort_push, hwriter, hreader, effort]
  omega

theorem effort_issue (buffer : Option (List UInt8)) {txn : Transaction} (hreq : txn.type.isRequest = true) :
    (b.issue buffer txn).effort = b.effort + 22 := by
  let tx : Master.Txn :=
    { type := .transaction, buffer := buffer.map fun _ => b.history.issued.length, txn,
      promise := some b.history.issued.length }
  have hpush : ({ b with queue := b.queue.push tx } : Bridge S).effort = b.effort + itemEffort tx + 2 := effort_push tx
  have hitem : itemEffort tx = 20 := by
    simp [tx, itemEffort, Master.Txn.reply, Master.Txn.isRequest, hreq, responseSteps]
  rw [hitem] at hpush
  exact hpush

theorem effort_terminate (m : UInt64) : (b.terminate m).effort = b.effort + 11 :=
  effort_push { type := .termination, txn := { id := m } }

/-- A waiter that is woken up looks at the queue. -/
theorem writerEffort_wake (c : CondVar) :
    ({ b with queue := { b.queue with condVar := c.wake } } : Bridge S).writerEffort ≤
      ({ b with queue := { b.queue with condVar := c } } : Bridge S).writerEffort + 1 := by
  unfold writerEffort
  simp only [CondVar.wake_waiter_ne, if_false]
  split <;> try omega
  split <;> omega

/-! ### Steps of a bridge -/

/-- The end of `pop`, from outside or after a wake-up. -/
theorem effort_popped {q : Queue Master.Txn} {r : Popped Master.Txn} (hw : b.writerThread = some .popping)
    (hwaiter : b.queue.condVar.waiter ≠ .blocked) (hsignals : q.condVar.signals = b.queue.condVar.signals)
    (hitems : b.queue.items = r.before q.items) (hblocked : r = .blocked → q.condVar.waiter = .blocked) :
    (b.popped q r).effort + 1 ≤ b.effort := by
  cases r with
  | blocked =>
    have hblocked : q.condVar.waiter = .blocked := hblocked rfl
    have hitems : b.queue.items = q.items := hitems
    simp only [popped, effort, queueEffort, writerEffort, readerEffort, hw, hwaiter, hblocked, hitems, hsignals, if_true,
      if_false]
    omega
  | item tx =>
    have hitems : b.queue.items = tx :: q.items := hitems
    simp only [popped, effort, queueEffort, writerEffort, readerEffort, hw, hwaiter, hitems, hsignals, if_false,
      List.map_cons, List.sum_cons, itemEffort]
    omega
  | finished =>
    have hitems : b.queue.items = q.items := hitems
    simp only [popped, effort, queueEffort, writerEffort, readerEffort, hw, hwaiter, hitems, hsignals, if_false]
    omega

theorem effort_dispatch {tx : Master.Txn} (hw : b.writerThread = some (.holding tx)) :
    (b.writerDispatch tx).effort + 1 ≤ b.effort := by
  rcases writerDispatch_cases (b := b) tx with ⟨-, heq⟩ | ⟨hreq, heq⟩ | ⟨-, hreq, heq⟩
  · rw [heq]
    simp only [effort, queueEffort, writerEffort, readerEffort, hw]
    omega
  · have hreply : ∀ id, ({ tx.txn with id } : Transaction).reply = tx.reply := fun id => by
      have hboth := hreq
      simp only [Master.Txn.isRequest, Bool.and_eq_true] at hboth
      simp [Transaction.reply, Master.Txn.reply, hreq, hboth.2]
    rw [heq]
    simp only [assign, setMasterMd, effort, queueEffort, writerEffort, readerEffort, hw, hreply]
    omega
  · rw [heq]
    simp only [effort, queueEffort, writerEffort, readerEffort, hw, reply_of_not_isRequest hreq]
    omega

/-- The rest of the bridge is the reader's own affair. -/
theorem effort_readerExit {n : Nat} {st : Status} (hr : n + 3 ≤ b.readerEffort) :
    (b.readerExit st).effort + 1 + n ≤ b.effort := by
  have hwriter : (b.readerExit st).writerEffort = b.writerEffort := rfl
  have hqueue : (b.readerExit st).queueEffort = b.queueEffort + 2 := by
    simp only [readerExit, queueEffort, Queue.finish, CondVar.signal_signals]
    omega
  have hreader : (b.readerExit st).readerEffort = 0 := rfl
  rw [effort, hwriter, hqueue, hreader, effort]
  omega

/-- A step of the reader that leaves the queue alone. -/
theorem effort_reader {n : Nat} {t : Bridge S} (hqueue : t.queue = b.queue) (hwriter : t.writerThread = b.writerThread)
    (hreader : t.readerEffort + n ≤ b.readerEffort) : t.effort + n ≤ b.effort := by
  have hq : t.queueEffort = b.queueEffort := by rw [queueEffort, hqueue, queueEffort]
  have hw : t.writerEffort = b.writerEffort := by rw [writerEffort, hqueue, hwriter, writerEffort]
  rw [effort, hq, hw, effort]
  omega

theorem effort_process [Slave S] {txn : Transaction} (hr : b.readerThread = some (.holding txn)) :
    (b.readerProcess txn).effort + 1 ≤ b.effort := by
  have hholding : b.readerEffort = 4 + txn.reply := by rw [readerEffort, hr]
  have hexit : ∀ st, (b.readerExit st).effort + 1 ≤ b.effort := fun st => effort_readerExit (n := 0) (by omega)
  unfold readerProcess
  split
  · rename_i hreq
    unfold readerRequest
    split
    · exact hexit _
    · -- The response goes into the queue.
      rename_i s hs
      let pushed : Bridge S := { b with queue := b.queue.push { type := .transaction, txn := (serve s txn).2 } }
      have hpush : pushed.effort = b.effort + itemEffort { type := .transaction, txn := (serve s txn).2 } + 2 :=
        effort_push _
      have hresponse : itemEffort { type := .transaction, txn := (serve s txn).2 } = 9 := by
        simp [itemEffort, Master.Txn.reply, Master.Txn.isRequest, serve_isRequest]
      have hreply : txn.reply = 11 := reply_of_isRequest hreq
      have hreader : ∀ m, ({ pushed with slaveMap := m, readerThread := some .receiving } : Bridge S).effort + 1 ≤
          b.effort := fun m => by
        have hrest := effort_reader (b := pushed)
          (t := { pushed with slaveMap := m, readerThread := some .receiving }) (n := 12) rfl rfl (by
            show 3 + 12 ≤ b.readerEffort
            omega)
        omega
      exact hreader _
  · unfold readerResponse
    split
    · exact hexit _
    · split
      · exact hexit _
      · rename_i md _ _ tx _
        rcases b.resolve_cases md tx txn with ⟨-, buffers, heq⟩ | ⟨p, -, -, heq⟩ <;> rw [heq]
        · refine effort_reader rfl rfl ?_
          show 0 + 1 ≤ b.readerEffort
          omega
        · refine effort_reader rfl rfl ?_
          show 3 + 1 ≤ b.readerEffort
          omega

/-- A wake-up, with `n` notifications fewer. -/
theorem effort_wake {c : CondVar} {n : Nat} (hwaiter : c.waiter = b.queue.condVar.waiter)
    (hsignals : c.signals + n = b.queue.condVar.signals) :
    ({ b with queue := { b.queue with condVar := c.wake } } : Bridge S).effort + 2 * n ≤ b.effort + 1 := by
  have hwake := writerEffort_wake (b := b) c
  have hsame : ({ b with queue := { b.queue with condVar := c } } : Bridge S).writerEffort = b.writerEffort := by
    rw [writerEffort, writerEffort, hwaiter]
  have hqueue : ({ b with queue := { b.queue with condVar := c.wake } } : Bridge S).queueEffort + 2 * n =
      b.queueEffort := by
    simp only [queueEffort, CondVar.wake_signals]
    omega
  have hreader : ({ b with queue := { b.queue with condVar := c.wake } } : Bridge S).readerEffort = b.readerEffort := rfl
  rw [effort, hreader, effort]
  omega

theorem effort_notify {q : Queue Master.Txn} (hq : b.queue.notify = some q) :
    ({ b with queue := q } : Bridge S).effort + 1 ≤ b.effort := by
  obtain ⟨c, hc, rfl⟩ := Option.map_eq_some_iff.mp hq
  unfold CondVar.notify at hc
  split at hc
  · cases hc
  · cases hc
    have hwake := effort_wake (b := b) (c := { b.queue.condVar with signals := b.queue.condVar.signals - 1 }) (n := 1) rfl
      (by simp only; omega)
    exact Nat.le_of_succ_le_succ hwake

theorem effort_spurious {q : Queue Master.Txn} (hq : b.queue.spurious = some q) :
    ({ b with queue := q } : Bridge S).effort ≤ b.effort + 1 := by
  obtain ⟨c, hc, rfl⟩ := Option.map_eq_some_iff.mp hq
  unfold CondVar.spurious at hc
  split at hc
  · cases hc
    exact effort_wake (n := 0) rfl rfl
  · cases hc

/-- What the bridge does without its socket. -/
theorem effort_step [Slave S] [Flatbuffers Buf] {t : Bridge S} {e : Event Buf} (h : b.step e = some t)
    (hsent : ∀ write, e ≠ .sent write) (hreceive : ∀ read, e ≠ .receive read) : t.effort + 1 ≤ b.effort + e.cost := by
  cases moves_of_step h with
  | read m buffer => exact Nat.succ_le_succ (effort_issue _ rfl).le
  | write m buffer => exact Nat.succ_le_succ (effort_issue _ rfl).le
  | terminate m => exact Nat.succ_le_succ (effort_terminate m).le
  | notify q hq => exact effort_notify hq
  | spurious q hq => exact Nat.succ_le_succ (effort_spurious hq)
  | pop q r hw hq =>
    obtain ⟨hwaiter, hhead⟩ := Queue.pop_inv hq
    obtain ⟨hsignals, hblocked⟩ := Queue.loopHead_waiter hhead
    exact effort_popped hw (by simp [hwaiter]) hsignals (Queue.pop_items hq) hblocked
  | resume q r hw hq =>
    obtain ⟨hwaiter, hcase⟩ := Queue.resume_inv hq
    have hitems := Queue.resume_items hq
    rcases hcase with ⟨-, rfl, rfl⟩ | ⟨-, hhead⟩
    · exact effort_popped hw (by simp [hwaiter]) rfl hitems (by simp)
    · obtain ⟨hsignals, hblocked⟩ := Queue.loopHead_waiter hhead
      exact effort_popped hw (by simp [hwaiter]) hsignals hitems hblocked
  | dispatch tx hw => exact effort_dispatch hw
  | sent out write hw => exact absurd rfl (hsent write)
  | receive read hr => exact absurd rfl (hreceive read)
  | process txn hr => exact effort_process hr

end

end Bridge

/-! ### Endpoints -/

namespace Endpoint
variable {S Buf : Type} [Flatbuffers Buf] (c : Endpoint S Buf)

/-- What `client.reader` has in hand. -/
def readerEffort : Nat :=
  match c.reader with
  | .offering msgArr => 5 + reply msgArr
  | .reading | .done => 0

/-- What `client.writer` has in hand. -/
def writerEffort : Nat :=
  match c.writer with
  | .writing msgArr => 3 + reply msgArr
  | .waiting | .done => 0

def effort : Nat :=
  c.bridge.effort + (c.toRouter.map fun msgArr => 6 + reply msgArr).sum + c.readerEffort + c.writerEffort +
    (c.toClient.map fun msgArr => 2 + reply msgArr).sum

section
variable {c} {c' : Endpoint S Buf}

/-- A step of the bridge alone. -/
theorem effort_bridge {b : Bridge S} {n : Nat} (h : b.effort + 1 ≤ c.bridge.effort + n) :
    ({ c with bridge := b } : Endpoint S Buf).effort + 1 ≤ c.effort + n := by
  have hreader : ({ c with bridge := b } : Endpoint S Buf).readerEffort = c.readerEffort := rfl
  have hwriter : ({ c with bridge := b } : Endpoint S Buf).writerEffort = c.writerEffort := rfl
  simp only [effort, hreader, hwriter]
  omega

theorem effort_local? [Slave S] {e : Bridge.Event Buf} (h : c.local? e = some c') : c'.effort + 1 ≤ c.effort + e.cost := by
  obtain ⟨hpossible, b, hb, rfl⟩ := local?_inv h
  refine effort_bridge (Bridge.effort_step hb ?_ ?_)
  · rintro write rfl
    exact hpossible
  · rintro read rfl
    exact hpossible

theorem effort_sending (Buf : Type) [Flatbuffers Buf] {out : Outgoing} {b : Bridge S}
    (hw : b.writerThread = some (.sending out)) :
    7 + reply (out.message : Buf) ≤ b.writerEffort ∧ (out ≠ .logout → 15 + reply (out.message : Buf) ≤ b.writerEffort) := by
  unfold Bridge.writerEffort
  rw [hw]
  cases out with
  | transaction txn => simp [Outgoing.message]
  | termination id => simp [Outgoing.message]
  | logout => simp [Outgoing.message]

theorem effort_sent (h : c.sent = some c') : c'.effort + 1 ≤ c.effort := by
  unfold sent at h
  split at h
  · rename_i out hw
    cases h
    obtain ⟨hlogout, hother⟩ := effort_sending Buf hw
    -- Only the writer's thread has changed, and it is done with this message.
    have hbridge : ∀ b : Bridge S, b.queue = c.bridge.queue → b.readerThread = c.bridge.readerThread →
        b.effort + c.bridge.writerEffort = c.bridge.effort + b.writerEffort := fun b hq hr => by
      simp only [Bridge.effort, Bridge.queueEffort, Bridge.readerEffort, hq, hr]
      omega
    by_cases hstate : c.bridge.client.state = .started
    · rw [if_pos hstate]
      rcases Bridge.writerSent_started hstate out with ⟨rfl, hsent⟩ | ⟨hne, hsent⟩
      · have hb := hbridge (c.bridge.writerSent .logout (.ok ())) (by rw [hsent]) (by rw [hsent])
        have hreturned : (c.bridge.writerSent .logout (.ok ())).writerEffort = 0 := by rw [hsent]; rfl
        simp only [effort, List.map_append, List.sum_append, List.map_singleton, List.sum_singleton, readerEffort,
          writerEffort]
        omega
      · have hb := hbridge (c.bridge.writerSent out (.ok ())) (by rw [hsent]) (by rw [hsent])
        have hpopping : (c.bridge.writerSent out (.ok ())).writerEffort ≤ 8 := by
          rw [hsent, Bridge.writerEffort]
          simp only
          split <;> omega
        have hlarge := hother hne
        simp only [effort, List.map_append, List.sum_append, List.map_singleton, List.sum_singleton, readerEffort,
          writerEffort]
        omega
    · rw [if_neg hstate]
      obtain ⟨st, hsent⟩ := Bridge.writerSent_refused hstate out
      have hb := hbridge (c.bridge.writerSent out (.ok ())) (by rw [hsent]) (by rw [hsent])
      have hreturned : (c.bridge.writerSent out (.ok ())).writerEffort = 0 := by rw [hsent]; rfl
      refine effort_bridge (n := 0) ?_
      omega
  · cases h

theorem effort_receive (h : c.receive = some c') : c'.effort + 1 ≤ c.effort := by
  unfold receive at h
  split at h
  · rename_i hr
    have hreceiving : c.bridge.readerEffort = 3 := by rw [Bridge.readerEffort, hr]
    have hexit : ∀ st, (c.bridge.readerExit st).effort + 1 ≤ c.bridge.effort := fun st =>
      Bridge.effort_readerExit (n := 0) (by omega)
    split at h
    · rename_i hstate
      split at h
      · cases h
      · rename_i msgArr rest hd
        cases h
        have hbridge : (c.bridge.readerReceive (.ok msgArr)).effort ≤ c.bridge.effort + 1 + reply msgArr := by
          rcases readerReceive_cases hstate msgArr with
            ⟨txn, hdec, heq⟩ | ⟨-, -, st, heq⟩ | ⟨-, -, heq | ⟨client, st, heq⟩⟩ <;> rw [heq]
          · rw [reply_of_decode hdec]
            have hholding : ({ c.bridge with readerThread := some (.holding txn) } : Bridge S).readerEffort =
                4 + txn.reply := rfl
            simp only [Bridge.effort, hholding, hreceiving]
            simp only [Bridge.queueEffort, Bridge.writerEffort]
            omega
          · have hle := hexit st
            omega
          · have hle : c.bridge.readerCrash.effort + 0 ≤ c.bridge.effort :=
              Bridge.effort_reader rfl rfl (Nat.zero_le _)
            omega
          · exact le_trans (Nat.le_of_succ_le (hexit st)) (by omega)
        simp only [effort, hd, List.map_cons, List.sum_cons, readerEffort, writerEffort]
        omega
    · cases h
      refine effort_bridge (n := 0) ?_
      have heq : ∃ st, c.bridge.readerReceive (.error "" : RouterClient.Received Buf) = c.bridge.readerExit st :=
        ⟨_, by simp [Bridge.readerReceive, RouterClient.receiveTransaction, ‹c.bridge.client.state ≠ .started›]; rfl⟩
      obtain ⟨st, heq⟩ := heq
      rw [heq]
      exact hexit st
  · cases h

theorem effort_readMsg (h : c.readMsg = some c') : c'.effort + 1 ≤ c.effort := by
  unfold readMsg at h
  split at h
  · rename_i msgArr rest hr hup
    cases h
    by_cases htype : (getRoot msgArr).getType = .done
    · simp only [effort, readerEffort, writerEffort, hr, hup, htype, if_true, List.map_cons, List.sum_cons]
      omega
    · simp only [effort, readerEffort, writerEffort, hr, hup, htype, if_false, List.map_cons, List.sum_cons]
      omega
  · cases h

theorem effort_writeMsg (h : c.writeMsg = some c') : c'.effort + 1 ≤ c.effort := by
  unfold writeMsg at h
  split at h
  · rename_i msgArr hw
    cases h
    by_cases htype : (getRoot msgArr).getType = .done
    · simp only [effort, readerEffort, writerEffort, hw, htype, if_true, List.map_append, List.sum_append,
        List.map_singleton, List.sum_singleton]
      omega
    · simp only [effort, readerEffort, writerEffort, hw, htype, if_false, List.map_append, List.sum_append,
        List.map_singleton, List.sum_singleton]
      omega
  · cases h

end

end Endpoint

/-! ### Systems -/

namespace System
variable {S Buf : Type} [Flatbuffers Buf] (s : System S Buf)

/-- `sendDone` is called once, and has a `DONE` handed over, written and received for every client from the `k`-th
    on. -/
def doneEffort (k : Nat) : Nat := 4 * max 1 (s.clients - k)

def routeEffort : Nat :=
  match s.route with
  | .receiving => s.doneEffort 0
  | .sending _ msgArr => s.doneEffort 0 + 4 + reply msgArr
  | .sendDone k => s.doneEffort k
  | .exited | .aborted => 0

def effort : Nat := total s.clients Endpoint.effort s.endpoints + s.routeEffort

def Event.cost : Event Buf → Nat
  | .bridge _ e => e.cost
  | .sent _ | .receive _ | .readMsg _ | .take _ _ | .hand | .writeMsg _ => 0

variable {s} {t : System S Buf}

theorem effort_endpointStep {i : Nat} {n : Nat} {next : Endpoint S Buf → Option (Endpoint S Buf)}
    (h : s.endpointStep i next = some t)
    (hnext : ∀ c, next (s.endpoints i) = some c → c.effort + 1 ≤ (s.endpoints i).effort + n) :
    t.effort + 1 ≤ s.effort + n := by
  obtain ⟨hi, c, hc, rfl⟩ := endpointStep_inv h
  have htotal := total_update (g := Endpoint.effort) (F := s.endpoints) hi c
  have hle := hnext c hc
  have hroute : (s.setEndpoint i c).routeEffort = s.routeEffort := rfl
  have hendpoints : total (s.setEndpoint i c).clients Endpoint.effort (s.setEndpoint i c).endpoints =
      total s.clients Endpoint.effort (Function.update s.endpoints i c) := rfl
  rw [effort, hroute, hendpoints, effort]
  omega

/-- A step that the users of the bridge have no part in. -/
theorem effort_ownStep {i : Nat} {next : Endpoint S Buf → Option (Endpoint S Buf)} (h : s.endpointStep i next = some t)
    (hnext : ∀ c, next (s.endpoints i) = some c → c.effort + 1 ≤ (s.endpoints i).effort) : t.effort + 1 ≤ s.effort := by
  have hstep := effort_endpointStep (n := 0) h fun c hc => by
    rw [Nat.add_zero]
    exact hnext c hc
  rwa [Nat.add_zero] at hstep

/-- The message that `client.reader` had is `route`'s now, or gone. -/
theorem effort_take {i : Nat} {order : List IpInfo} (hi : i < s.clients) (h : s.take i order = some t) :
    t.effort + 1 ≤ s.effort := by
  unfold take at h
  split at h
  · rename_i msgArr hreceiving hoffering
    split at h
    · generalize hturn : s.router.route order msgArr = turn at h
      obtain ⟨router, routed⟩ := turn
      cases h
      obtain ⟨n, hrouter⟩ : ∃ n, router = { s.router with masterCount := n } := by
        obtain ⟨n, hn⟩ := s.router.route_router order msgArr
        exact ⟨n, by rw [← hn, hturn]⟩
      subst hrouter
      have hroute : ({ s with router := { s.router with masterCount := n }, route := routeLoop routed } :
          System S Buf).routeEffort ≤ s.routeEffort + 4 + reply msgArr := by
        simp only [routeEffort, hreceiving]
        cases routed with
        | send k out =>
          have hle := Router.reply_route_send hturn
          exact Nat.add_le_add_left hle _
        | next => exact Nat.le_add_right_of_le (Nat.le_add_right _ _)
        | done => exact Nat.le_add_right_of_le (Nat.le_add_right _ _)
        | fatal text => exact Nat.zero_le _
        | panic => exact Nat.zero_le _
      have htotal := total_update (g := Endpoint.effort) (F := s.endpoints) hi
        { s.endpoints i with reader := .reading }
      have hendpoint : ({ s.endpoints i with reader := .reading } : Endpoint S Buf).effort + 5 + reply msgArr =
          (s.endpoints i).effort := by
        simp only [Endpoint.effort, Endpoint.readerEffort, Endpoint.writerEffort, hoffering]
        omega
      have hle : total s.clients Endpoint.effort (Function.update s.endpoints i
            { s.endpoints i with reader := .reading }) +
          ({ s with router := { s.router with masterCount := n }, route := routeLoop routed } :
            System S Buf).routeEffort + 1 ≤ s.effort := by
        rw [effort]
        omega
      exact hle
    · cases h
  · cases h

/-- `client.writer` gets a message. -/
theorem effort_handed {k : Nat} (msgArr : Buf) (hlistening : (s.endpoints k).listening = true) :
    total s.clients Endpoint.effort (Function.update s.endpoints k { s.endpoints k with writer := .writing msgArr }) ≤
      total s.clients Endpoint.effort s.endpoints + 3 + reply msgArr := by
  have hwaiting : (s.endpoints k).writerEffort = 0 := by
    unfold Endpoint.listening at hlistening
    unfold Endpoint.writerEffort
    split at hlistening
    · simp [*]
    · cases hlistening
  have hendpoint : ({ s.endpoints k with writer := .writing msgArr } : Endpoint S Buf).effort =
      (s.endpoints k).effort + 3 + reply msgArr := by
    simp only [Endpoint.effort, hwaiting]
    simp only [Endpoint.readerEffort, Endpoint.writerEffort]
    omega
  by_cases hk : k < s.clients
  · have htotal := total_update (g := Endpoint.effort) (F := s.endpoints) hk
      { s.endpoints k with writer := .writing msgArr }
    omega
  · have hsame : total s.clients Endpoint.effort
        (Function.update s.endpoints k { s.endpoints k with writer := .writing msgArr }) =
          total s.clients Endpoint.effort s.endpoints :=
      total_congr fun j hj => by rw [Function.update_of_ne (by omega)]
    omega

theorem effort_hand (h : s.hand = some t) : t.effort + 1 ≤ s.effort := by
  unfold hand at h
  split at h
  · rename_i k msgArr hsending
    split at h
    · rename_i hlistening
      cases h
      have hhanded := effort_handed msgArr hlistening
      have hroute : s.routeEffort = s.doneEffort 0 + 4 + reply msgArr := by rw [routeEffort, hsending]
      have hle : total s.clients Endpoint.effort
            (Function.update s.endpoints k { s.endpoints k with writer := .writing msgArr }) + s.doneEffort 0 + 1 ≤
          s.effort := by
        rw [effort, hroute]
        omega
      exact hle
    · cases h
  · rename_i k hsending
    split at h
    · rename_i hlistening
      cases h
      have hhanded := effort_handed (Router.doneMessage : Buf) hlistening
      rw [reply_routerDone] at hhanded
      have hroute : s.routeEffort = s.doneEffort k := by rw [routeEffort, hsending]
      let after : System S Buf := { s with route := if k + 1 < s.clients then .sendDone (k + 1) else .exited }
      have hrest : after.routeEffort + 4 ≤ s.doneEffort k := by
        by_cases hk : k + 1 < s.clients
        · have hafter : after.routeEffort = s.doneEffort (k + 1) := by simp only [after, routeEffort, if_pos hk]; rfl
          rw [hafter, doneEffort, doneEffort]
          omega
        · have hafter : after.routeEffort = 0 := by simp only [after, routeEffort, if_neg hk]
          rw [hafter, doneEffort]
          omega
      have hle : total s.clients Endpoint.effort
            (Function.update s.endpoints k { s.endpoints k with writer := .writing Router.doneMessage }) +
          after.routeEffort + 1 ≤ s.effort := by
        rw [effort, hroute]
        omega
      exact hle
    · cases h
  · cases h

/-- Every step uses up work, but for what the users of the bridges bring. -/
theorem effort_step [Slave S] {e : Event Buf} (h : s.step e = some t) : t.effort + 1 ≤ s.effort + e.cost := by
  cases e with
  | bridge i e =>
    simp only [step] at h
    rw [Event.cost]
    exact effort_endpointStep h fun c hc => Endpoint.effort_local? hc
  | sent i =>
    simp only [step] at h
    rw [Event.cost, Nat.add_zero]
    exact effort_ownStep h fun c hc => Endpoint.effort_sent hc
  | receive i =>
    simp only [step] at h
    rw [Event.cost, Nat.add_zero]
    exact effort_ownStep h fun c hc => Endpoint.effort_receive hc
  | readMsg i =>
    simp only [step] at h
    rw [Event.cost, Nat.add_zero]
    split at h
    · exact effort_ownStep h fun c hc => Endpoint.effort_readMsg hc
    · cases h
  | take i order =>
    simp only [step] at h
    rw [Event.cost, Nat.add_zero]
    split at h
    · exact effort_take ‹_› h
    · cases h
  | hand =>
    rw [Event.cost, Nat.add_zero]
    exact effort_hand h
  | writeMsg i =>
    simp only [step] at h
    rw [Event.cost, Nat.add_zero]
    split at h
    · exact effort_ownStep h fun c hc => Endpoint.effort_writeMsg hc
    · cases h

theorem Ready.effort (h : s.Ready) : s.effort ≤ 15 * s.clients := by
  have hendpoint : ∀ i < s.clients, (s.endpoints i).effort ≤ 11 := by
    intro i hi
    have hbridge := h.bridges i hi
    have hqueue := h.queues i hi
    obtain ⟨hup, hdown⟩ := h.sockets i hi
    obtain ⟨hreader, hwriter⟩ := h.goroutines i
    simp [Endpoint.effort, Endpoint.readerEffort, Endpoint.writerEffort, Bridge.effort, Bridge.queueEffort,
      Bridge.writerEffort, Bridge.readerEffort, hbridge.reader, hbridge.writer, hqueue, hup, hdown, hreader, hwriter]
  have htotal := total_le (g := Endpoint.effort) (F := s.endpoints) hendpoint
  have hroute : s.routeEffort = s.doneEffort 0 := by rw [routeEffort, h.route]
  have hpos := h.pos
  rw [System.effort, hroute, doneEffort]
  omega

/-- In every run of a router with its clients, the threads and the goroutines make a bounded number of steps for every
    client and for every call of the users, in whatever order they make them, and over sockets of whatever capacity:
    none of them goes round without end. -/
theorem bounded_work [Slave S] (hs : s.Opened) {es : List (Event Buf)} (hr : run step s es = some t) :
    es.length ≤ 15 * s.clients + (es.map Event.cost).sum := by
  have hrun := run_potential (fun _ _ _ h => effort_step h) hr
  have hready := hs.ready.effort
  omega

/-- A read of two bytes, which gets its response. -/
def readAnswered : List (Event Wire.Message) :=
  let turn := [.bridge 0 .pop, .bridge 0 .dispatch, .sent 0, .readMsg 0, .take 0 (opened.router.ipMMap.map Prod.snd),
    .hand, .writeMsg 0, .receive 0, .bridge 0 .process]
  .bridge 0 (.read 1 { data := [0, 0], size := 2, address := 0x1000 }) :: (turn ++ turn)

theorem bounded_work_readAnswered :
    ∃ t, run step opened readAnswered = some t ∧ (t.endpoints 0).bridge.futures 0 = some {} ∧
      readAnswered.length = 19 ∧ readAnswered.length ≤ 15 * opened.clients + (readAnswered.map Event.cost).sum := by
  have hrun : (run step opened readAnswered).map (fun t => (t.endpoints 0).bridge.futures 0) = some (some {}) := by decide
  obtain ⟨t, hr, heq⟩ := Option.map_eq_some_iff.mp hrun
  exact ⟨t, hr, heq, rfl, bounded_work opened_opened hr⟩

end System

end SwAxi
