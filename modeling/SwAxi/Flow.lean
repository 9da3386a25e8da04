import SwAxi.System
import SwAxi.Matching
import SwAxi.Routing

/-! The flow through an endpoint: the requests of its bridge and the messages on their way to `route` and
back, wherever they are. Its steps are what an endpoint can do to them; most of what the threads and the
goroutines do is no step of the flow. -/

namespace SwAxi
open Wire (Flatbuffers)
open Wire.Flatbuffers (getRoot)
open RouterClient (transactionMessage terminateMessage doneMessage)
open Bridge (serve filled)

/-! ### What a message brings to the reader of a bridge -/

section
variable {Buf : Type} [Flatbuffers Buf]

/-- The transaction in a message. -/
def RouterClient.decode (msgArr : Buf) : Option Transaction :=
  if (getRoot msgArr).getType = .transaction then
    (getRoot msgArr).txn.bind fun table =>
      (readTransactionType table.getType).bind fun type => readTransaction table type
  else none

open RouterClient (decode)

theorem receiveTransaction_cases {c : RouterClient} (hc : c.state = .started) (msgArr : Buf) :
    (∃ txn, decode msgArr = some txn ∧ c.receiveTransaction (.ok msgArr) = some (c, some txn, {})) ∨
    (decode msgArr = none ∧ (getRoot msgArr).getType = .done ∧
      c.receiveTransaction (.ok msgArr) = some (c, none, ⟨RouterClient.DONE, "Done processing"⟩)) ∨
    (decode msgArr = none ∧ (getRoot msgArr).getType ≠ .done ∧
      (c.receiveTransaction (.ok msgArr) = none ∨
        ∃ c' st, c.receiveTransaction (.ok msgArr) = some (c', none, st) ∧ st.isError = true)) := by
  unfold RouterClient.receiveTransaction RouterClient.transactionReply RouterClient.receive decode
  simp only [hc, ne_eq, not_true_eq_false, if_false]
  by_cases hdone : (getRoot msgArr).getType = .done
  · exact Or.inr (Or.inl ⟨by simp [hdone], hdone, by simp [hdone]⟩)
  by_cases htype : (getRoot msgArr).getType = .transaction
  · cases htxn : (getRoot msgArr).txn with
    | none => exact Or.inr (Or.inr ⟨by simp [htype], hdone, Or.inl (by simp [htype])⟩)
    | some table =>
      cases hknown : RouterClient.readTransactionType table.getType with
      | none =>
        exact Or.inr (Or.inr ⟨by simp [htype, hknown], hdone, Or.inr ⟨c, _, by simp [htype, hknown]; rfl, rfl⟩⟩)
      | some type =>
        cases hread : RouterClient.readTransaction table type with
        | none =>
          exact Or.inr (Or.inr ⟨by simp [htype, hknown, hread], hdone, Or.inl (by simp [htype, hknown, hread])⟩)
        | some txn => exact Or.inl ⟨txn, by simp [htype, hknown, hread], by simp [htype, hknown, hread]⟩
  · exact Or.inr (Or.inr ⟨by simp [htype], hdone, Or.inr ⟨_, _, (if_neg hdone).trans (if_pos htype), rfl⟩⟩)

theorem decode_of_receiveTransaction {c : RouterClient} {msgArr : Buf} {txn : Transaction} (hc : c.state = .started)
    (h : c.receiveTransaction (.ok msgArr) = some (c, some txn, {})) : decode msgArr = some txn := by
  rcases receiveTransaction_cases hc msgArr with ⟨txn', hdec, heq⟩ | ⟨-, -, heq⟩ | ⟨-, -, heq | ⟨c', st, heq, -⟩⟩
  · rw [h] at heq
    cases heq
    exact hdec
  all_goals
    rw [h] at heq
    cases heq

@[simp] theorem decode_transactionMessage (txn : Transaction) : decode (transactionMessage txn : Buf) = some txn :=
  decode_of_receiveTransaction rfl (RouterClient.receiveTransaction_transactionMessage (c := Router.startedClient) rfl txn)

@[simp] theorem decode_mutateTarget (txn : Transaction) (target : UInt64) :
    decode (Flatbuffers.mutateTarget (transactionMessage txn : Buf) target) =
      some { txn with target := RouterClient.mutatedTarget txn.target target } :=
  decode_of_receiveTransaction rfl (RouterClient.receiveTransaction_mutateTarget (c := Router.startedClient) rfl txn target)

theorem decode_eq_none {msgArr : Buf} (h : (getRoot msgArr).getType ≠ .transaction) : decode msgArr = none := by
  simp [decode, h]

@[simp] theorem getType_terminateMessage (id : UInt64) :
    (getRoot (terminateMessage id : Buf)).getType = .terminate := Flatbuffers.getType_finish _

@[simp] theorem getIpId_terminateMessage (id : UInt64) : (getRoot (terminateMessage id : Buf)).getIpId = id :=
  Flatbuffers.getIpId_finish _

@[simp] theorem getType_doneMessage : (getRoot (doneMessage : Buf)).getType = .done := Flatbuffers.getType_finish _

@[simp] theorem decode_terminateMessage (id : UInt64) : decode (terminateMessage id : Buf) = none :=
  decode_eq_none (by simp)

@[simp] theorem decode_doneMessage : decode (doneMessage : Buf) = none := decode_eq_none (by simp)

/-- What the reader of a bridge makes of a message. -/
theorem readerReceive_cases {S : Type} {b : Bridge S} (hstate : b.client.state = .started) (msgArr : Buf) :
    (∃ txn, decode msgArr = some txn ∧ b.readerReceive (.ok msgArr) = { b with readerThread := some (.holding txn) }) ∨
    (decode msgArr = none ∧ (getRoot msgArr).getType = .done ∧ ∃ st, b.readerReceive (.ok msgArr) = b.readerExit st) ∨
    (decode msgArr = none ∧ (getRoot msgArr).getType ≠ .done ∧
      (b.readerReceive (.ok msgArr) = b.readerCrash ∨
        ∃ client st, b.readerReceive (.ok msgArr) = ({ b with client } : Bridge S).readerExit st)) := by
  rcases receiveTransaction_cases hstate msgArr with
    ⟨txn, hdec, heq⟩ | ⟨hdec, htype, heq⟩ | ⟨hdec, htype, heq | ⟨client, st, heq, herr⟩⟩
  · exact Or.inl ⟨txn, hdec, by simp [Bridge.readerReceive, Bridge.readerReturn, heq]⟩
  · exact Or.inr (Or.inl ⟨hdec, htype, _, by simp [Bridge.readerReceive, Bridge.readerReturn, heq]; rfl⟩)
  · exact Or.inr (Or.inr ⟨hdec, htype, Or.inl (by simp [Bridge.readerReceive, Bridge.readerReturn, heq])⟩)
  · exact Or.inr (Or.inr ⟨hdec, htype, Or.inr ⟨client, _, by simp [Bridge.readerReceive, Bridge.readerReturn, heq, herr]; rfl⟩⟩)

end

/-! ### Flows -/

/-- What an endpoint has of the requests and responses under way. -/
structure Flow (S Buf : Type) where
  ledger : Ledger
  /-- The messages on their way to `route`. -/
  up : List Buf
  /-- The messages on their way to the reader of the bridge. -/
  down : List Buf
  /-- The transaction that the reader has to deal with. -/
  held : Option Transaction
  slaves : UInt64 → Option S
  buffers : Nat → List UInt8
  terminated : List UInt64
  /-- The masters that the bridge has. -/
  has : UInt64 → Bool
  /-- What the writer sends goes into the socket. -/
  intact : Bool

/-- What the users of a bridge do: the requests they issue, each with the buffer of a read, and when they
    terminate a master. -/
structure Users where
  issues : Option (List UInt8) → Transaction → Prop
  terminates : Ledger → UInt64 → Prop

/-- The requests whose promises are not set. -/
def Ledger.pending (l : Ledger) : Nat := (List.range l.issued.length).countP fun p => (l.futures p).isNone

namespace Flow
variable {S Buf : Type}

/-- Another item waits for the writer. -/
def push (f : Flow S Buf) (tx : Master.Txn) : Flow S Buf :=
  { f with ledger := { f.ledger with waiting := f.ledger.waiting ++ [tx] } }

/-- A user issues a request. -/
def issue (f : Flow S Buf) (bytes : Option (List UInt8)) (txn : Transaction) : Flow S Buf :=
  let request := f.ledger.issued.length
  { f with
    ledger := { f.ledger with
      waiting := f.ledger.waiting ++
        [{ type := .transaction, buffer := bytes.map fun _ => request, txn, promise := some request }]
      issued := f.ledger.issued ++ [txn] }
    buffers := match bytes with
      | none => f.buffers
      | some bytes => Function.update f.buffers request bytes }

/-- The writer sends what it held, which does not become outstanding. -/
def send (f : Flow S Buf) (rest : List Master.Txn) (msgArr : Buf) : Flow S Buf :=
  { f with ledger := { f.ledger with waiting := rest }, up := f.up ++ [msgArr] }

variable [Flatbuffers Buf]

/-- The writer gives a request its id and sends it. -/
def assign (f : Flow S Buf) (tx : Master.Txn) (rest : List Master.Txn) : Flow S Buf :=
  { f with
    ledger := f.ledger.assign tx rest
    up := f.up ++ [transactionMessage { tx.txn with id := (f.ledger.masters tx.txn.initiator).lastTxnId }]
    has := Function.update f.has tx.txn.initiator true }

variable [Slave S]

/-- What an endpoint whose users keep to `U` can do to its flow. -/
inductive Step (U : Users) : Flow S Buf → Flow S Buf → Prop where
  | stay (f) : Step U f f
  | issue (f) (bytes : Option (List UInt8)) (txn : Transaction) (huser : U.issues bytes txn)
      (hreq : txn.type.isRequest = true) (hread : bytes.isSome = decide (txn.type = .readReq))
      (hhas : f.has txn.initiator = true) (hactive : txn.initiator ∉ f.terminated)
      (hpending : f.ledger.pending < maxObjects) : Step U f (f.issue bytes txn)
  | terminate (f) (m : UInt64) (huser : U.terminates f.ledger m) (hhas : f.has m = true)
      (hactive : m ∉ f.terminated) :
      Step U f { f.push { type := .termination, txn := { id := m } } with terminated := f.terminated ++ [m] }
  /-- The writer handles the front of what waits. -/
  | termination (f) (tx : Master.Txn) (rest : List Master.Txn) (hw : f.ledger.waiting = tx :: rest)
      (htype : tx.type = .termination) : Step U f (f.send rest (terminateMessage tx.txn.id))
  | request (f) (tx : Master.Txn) (rest : List Master.Txn) (hw : f.ledger.waiting = tx :: rest)
      (hreq : tx.isRequest = true) : Step U f (f.assign tx rest)
  | response (f) (tx : Master.Txn) (rest : List Master.Txn) (hw : f.ledger.waiting = tx :: rest)
      (htype : tx.type = .transaction) (hreq : tx.txn.type.isRequest = false) :
      Step U f (f.send rest (transactionMessage tx.txn))
  | logout (f) : Step U f { f with up := f.up ++ [doneMessage] }
  /-- The client is not started any more. -/
  | lose (f) (up : List Buf) (msgArr : Buf) (hup : f.up = up ++ [msgArr]) (hintact : f.intact = false) :
      Step U f { f with up, intact := true }
  /-- `client.reader` takes a `DONE`. -/
  | leave (f) (msgArr : Buf) (rest : List Buf) (hup : f.up = msgArr :: rest)
      (htype : (getRoot msgArr).getType = .done) : Step U f { f with up := rest }
  /-- The reader of the bridge reads a message. -/
  | receive (f) (msgArr : Buf) (rest : List Buf) (txn : Transaction) (hdown : f.down = msgArr :: rest)
      (hdec : RouterClient.decode msgArr = some txn) (hheld : f.held = none) :
      Step U f { f with down := rest, held := some txn }
  | finish (f) (msgArr : Buf) (rest : List Buf) (hdown : f.down = msgArr :: rest)
      (htype : (getRoot msgArr).getType = .done) : Step U f { f with down := rest }
  | reject (f) (msgArr : Buf) (rest : List Buf) (intact : Bool) (hdown : f.down = msgArr :: rest)
      (hdec : RouterClient.decode msgArr = none) (htype : (getRoot msgArr).getType ≠ .done) :
      Step U f { f with down := rest, intact }
  /-- It deals with the transaction it holds. -/
  | serve (f) (txn : Transaction) (s : S) (hheld : f.held = some txn) (hreq : txn.type.isRequest = true)
      (hs : f.slaves txn.target = some s) :
      Step U f { f.push { type := .transaction, txn := (serve s txn).2 } with
        held := none, slaves := Function.update f.slaves txn.target (some (serve s txn).1) }
  | unknownSlave (f) (txn : Transaction) (hheld : f.held = some txn) (hreq : txn.type.isRequest = true)
      (hs : f.slaves txn.target = none) : Step U f { f with held := none }
  | unknownRequest (f) (txn : Transaction) (hheld : f.held = some txn) (hreq : txn.type.isRequest = false)
      (htx : (f.ledger.masters txn.initiator).txns txn.id = none) : Step U f { f with held := none }
  | crash (f) (txn : Transaction) (tx : Master.Txn) (buffers : Nat → List UInt8) (hheld : f.held = some txn)
      (hreq : txn.type.isRequest = false) (htx : (f.ledger.masters txn.initiator).txns txn.id = some tx)
      (hbad : (∀ p, tx.promise = some p → f.ledger.futures p ≠ none) ∨
        (tx.buffer = none ∧ txn.type = .readResp ∧ txn.data ≠ [])) :
      Step U f { f with held := none, ledger := f.ledger.erase txn.initiator txn.id, buffers }
  | resolve (f) (txn : Transaction) (tx : Master.Txn) (p : Nat) (hheld : f.held = some txn)
      (hreq : txn.type.isRequest = false) (htx : (f.ledger.masters txn.initiator).txns txn.id = some tx)
      (hp : tx.promise = some p) (hf : f.ledger.futures p = none) :
      Step U f { f with held := none, ledger := f.ledger.resolve p txn, buffers := filled f.buffers tx txn }

end Flow

/-! ### The flow of an endpoint -/

namespace Endpoint
variable {S Buf : Type} (c : Endpoint S Buf)

/-- What `client.reader` offers. -/
def offered : List Buf :=
  match c.reader with
  | .offering msgArr => [msgArr]
  | _ => []

/-- What `client.writer` writes. -/
def written : List Buf :=
  match c.writer with
  | .writing msgArr => [msgArr]
  | _ => []

/-- What the writer of the bridge sends. -/
def sending [Flatbuffers Buf] : List Buf :=
  match c.bridge.writerThread with
  | some (.sending out) => [out.message]
  | _ => []

def held : Option Transaction :=
  match c.bridge.readerThread with
  | some (.holding txn) => some txn
  | _ => none

def flow [Flatbuffers Buf] : Flow S Buf where
  ledger := c.bridge.ledger
  up := c.offered ++ c.toRouter ++ c.sending
  down := c.toClient ++ c.written
  held := c.held
  slaves := c.bridge.slaveMap
  buffers := c.bridge.buffers
  terminated := c.bridge.history.terminated
  has m := (c.bridge.masterMap m).isSome
  intact := decide (c.bridge.client.state = .started ∨ c.bridge.writerThread = some .returned)

/-! ### Steps of an endpoint -/

section
variable [Flatbuffers Buf] {c : Endpoint S Buf}

theorem flow_eq {f : Flow S Buf} (hledger : c.bridge.ledger = f.ledger)
    (hup : c.offered ++ c.toRouter ++ c.sending = f.up) (hdown : c.toClient ++ c.written = f.down)
    (hheld : c.held = f.held) (hslaves : c.bridge.slaveMap = f.slaves) (hbuffers : c.bridge.buffers = f.buffers)
    (hterminated : c.bridge.history.terminated = f.terminated) (hhas : ∀ m, (c.bridge.masterMap m).isSome = f.has m)
    (hintact : decide (c.bridge.client.state = .started ∨ c.bridge.writerThread = some .returned) = f.intact) :
    c.flow = f := by
  obtain ⟨ledger, up, down, held, slaves, buffers, terminated, has, intact⟩ := f
  simp only [flow, Flow.mk.injEq]
  exact ⟨hledger, hup, hdown, hheld, hslaves, hbuffers, hterminated, funext hhas, hintact⟩

theorem sending_of_ne (h : ∀ out, c.bridge.writerThread ≠ some (.sending out)) : c.sending = [] := by
  unfold sending
  split
  · exact absurd ‹_› (h _)
  · rfl

/-- The users of the bridge keep to `U` by this event. -/
def Keeps (U : Users) (c : Endpoint S Buf) : Bridge.Event Buf → Prop
  | .read m buffer =>
    U.issues (some buffer.data)
      { type := .readReq, initiator := m, address := buffer.address, size := buffer.size, ok := true }
  | .write m buffer =>
    U.issues none
      { type := .writeReq, initiator := m, address := buffer.address, size := buffer.size,
        data := buffer.data.take buffer.size.toNat, ok := true }
  | .terminate m => U.terminates c.bridge.ledger m
  | _ => True

theorem issue_flow {bytes : Option (List UInt8)} {txn : Transaction} :
    ({ c with bridge := c.bridge.issue bytes txn } : Endpoint S Buf).flow = c.flow.issue bytes txn :=
  flow_eq
    (Bridge.ledger_eq (List.append_assoc _ _ _).symm (fun _ => rfl) rfl rfl rfl rfl)
    rfl rfl rfl rfl (by cases bytes <;> rfl) rfl (fun _ => rfl) rfl

theorem terminate_flow {m : UInt64} :
    ({ c with bridge := c.bridge.terminate m } : Endpoint S Buf).flow =
      { c.flow.push { type := .termination, txn := { id := m } } with terminated := c.flow.terminated ++ [m] } :=
  flow_eq
    (Bridge.ledger_eq (List.append_assoc _ _ _).symm (fun _ => rfl) rfl rfl rfl rfl)
    rfl rfl rfl rfl rfl rfl (fun _ => rfl) rfl

theorem readerExit_flow {st : Status} :
    ({ c with bridge := c.bridge.readerExit st } : Endpoint S Buf).flow = { c.flow with held := none } :=
  flow_eq rfl rfl rfl rfl rfl rfl rfl (fun _ => rfl) rfl

section
variable [Slave S] {c' : Endpoint S Buf} {U : Users}

theorem local?_inv {e : Bridge.Event Buf} (h : c.local? e = some c') :
    c.Possible e ∧ ∃ b, c.bridge.step e = some b ∧ c' = { c with bridge := b } := by
  unfold local? at h
  split at h
  · obtain ⟨b, hb, rfl⟩ := Option.map_eq_some_iff.mp h
    exact ⟨‹_›, b, hb, rfl⟩
  · cases h

/-- The writer returns from `pop`, or waits. -/
theorem popped_flow {q : Queue Master.Txn} {r : Popped Master.Txn} (hw : c.bridge.writerThread = some .popping)
    (hq : c.bridge.queue.items = r.before q.items) :
    Flow.Step U c.flow ({ c with bridge := c.bridge.popped q r } : Endpoint S Buf).flow := by
  have hledger : (c.bridge.popped q r).ledger = c.bridge.ledger := Bridge.popped_ledger hw hq
  have hsending : c.sending = [] := sending_of_ne fun out h => by simp [h] at hw
  cases r with
  | blocked =>
    have heq : ({ c with bridge := c.bridge.popped q .blocked } : Endpoint S Buf).flow = c.flow :=
      flow_eq hledger rfl rfl rfl rfl rfl rfl (fun _ => rfl) rfl
    exact heq ▸ .stay _
  | item tx =>
    have heq : ({ c with bridge := c.bridge.popped q (.item tx) } : Endpoint S Buf).flow = c.flow :=
      flow_eq hledger (by simp only [flow, hsending]; rfl) rfl rfl rfl rfl rfl (fun _ => rfl)
        (by simp [flow, hw, Bridge.popped])
    exact heq ▸ .stay _
  | finished =>
    have heq : ({ c with bridge := c.bridge.popped q .finished } : Endpoint S Buf).flow =
        { c.flow with up := c.flow.up ++ [doneMessage] } :=
      flow_eq hledger (by simp [flow, hsending]; rfl) rfl rfl rfl rfl rfl (fun _ => rfl)
        (by simp [flow, hw, Bridge.popped])
    exact heq ▸ .logout _

theorem dispatch_flow {tx : Master.Txn} (hw : c.bridge.writerThread = some (.holding tx)) :
    Flow.Step U c.flow ({ c with bridge := c.bridge.writerDispatch tx } : Endpoint S Buf).flow := by
  have hsending : c.sending = [] := sending_of_ne fun out h => by simp [h] at hw
  have hwaiting : c.flow.ledger.waiting = tx :: c.bridge.queue.items := Bridge.waiting_holding hw
  rcases Bridge.writerDispatch_cases (b := c.bridge) tx with ⟨htype, heq⟩ | ⟨hreq, heq⟩ | ⟨htype, hreq, heq⟩
  · have hflow : ({ c with bridge := c.bridge.writerDispatch tx } : Endpoint S Buf).flow =
        c.flow.send c.bridge.queue.items (terminateMessage tx.txn.id) := by
      rw [heq]
      exact flow_eq (Bridge.sending_ledger _) (by simp [flow, Flow.send, hsending]; rfl) rfl rfl rfl rfl rfl
        (fun _ => rfl) (by simp [flow, Flow.send, hw])
    exact hflow ▸ .termination _ tx _ hwaiting htype
  · have hflow : ({ c with bridge := c.bridge.writerDispatch tx } : Endpoint S Buf).flow =
        c.flow.assign tx c.bridge.queue.items := by
      rw [heq]
      refine flow_eq (Bridge.assign_ledger tx) (by simp [flow, Flow.assign, hsending]; rfl) rfl rfl rfl rfl rfl
        (fun m => ?_) (by simp [flow, Flow.assign, hw, Bridge.assign, Bridge.setMasterMd])
      by_cases hm : m = tx.txn.initiator
      · subst hm
        simp [flow, Flow.assign, Bridge.assign, Bridge.setMasterMd]
      · simp [flow, Flow.assign, Bridge.assign, Bridge.setMasterMd, hm]
    exact hflow ▸ .request _ tx _ hwaiting hreq
  · have hflow : ({ c with bridge := c.bridge.writerDispatch tx } : Endpoint S Buf).flow =
        c.flow.send c.bridge.queue.items (transactionMessage tx.txn) := by
      rw [heq]
      exact flow_eq (Bridge.sending_ledger _) (by simp [flow, Flow.send, hsending]; rfl) rfl rfl rfl rfl rfl
        (fun _ => rfl) (by simp [flow, Flow.send, hw])
    exact hflow ▸ .response _ tx _ hwaiting htype hreq

theorem request_flow {txn : Transaction} (hr : c.bridge.readerThread = some (.holding txn))
    (hreq : txn.type.isRequest = true) :
    Flow.Step U c.flow ({ c with bridge := c.bridge.readerRequest txn } : Endpoint S Buf).flow := by
  have hheld : c.flow.held = some txn := by simp [flow, held, hr]
  unfold Bridge.readerRequest
  cases hs : c.bridge.slaveMap txn.target with
  | none =>
    rw [readerExit_flow]
    exact .unknownSlave _ txn hheld hreq hs
  | some s =>
    have hstep : Flow.Step U c.flow _ := .serve c.flow txn s hheld hreq hs
    convert hstep using 1
    exact flow_eq (Bridge.ledger_eq (List.append_assoc _ _ _).symm (fun _ => rfl) rfl rfl rfl rfl) rfl rfl rfl rfl
      rfl rfl (fun _ => rfl) rfl

theorem response_flow {txn : Transaction} (hr : c.bridge.readerThread = some (.holding txn))
    (hreq : txn.type.isRequest = false) :
    Flow.Step U c.flow ({ c with bridge := c.bridge.readerResponse txn } : Endpoint S Buf).flow := by
  have hheld : c.flow.held = some txn := by simp [flow, held, hr]
  have htxns : (c.flow.ledger.masters txn.initiator).txns txn.id =
      (c.bridge.masterMap txn.initiator).bind fun md => md.txns txn.id := Bridge.masters_txns
  have hexit : ∀ st, (c.flow.ledger.masters txn.initiator).txns txn.id = none →
      Flow.Step U c.flow ({ c with bridge := c.bridge.readerExit st } : Endpoint S Buf).flow := fun st hnone => by
    rw [readerExit_flow]
    exact .unknownRequest _ txn hheld hreq hnone
  unfold Bridge.readerResponse
  cases hm : c.bridge.masterMap txn.initiator with
  | none => exact hexit _ (by rw [htxns, hm]; rfl)
  | some md =>
    rw [hm, Option.bind_some] at htxns
    cases hid : md.txns txn.id with
    | none =>
      simp only [hid]
      exact hexit _ (by rw [htxns, hid])
    | some tx =>
      simp only [hid]
      rw [hid] at htxns
      -- The entry of the master stays, with one request less.
      have hhas : ∀ m, ((c.bridge.erased md txn).masterMap m).isSome = c.flow.has m := fun m => by
        by_cases hmm : m = txn.initiator
        · subst hmm
          simp [Bridge.erased, Bridge.setMasterMd, flow, hm]
        · simp [Bridge.erased, Bridge.setMasterMd, flow, hmm]
      rcases c.bridge.resolve_cases md tx txn with ⟨hbad, buffers, heq⟩ | ⟨p, hp, hf, heq⟩
      · have hstep : Flow.Step U c.flow _ := .crash c.flow txn tx buffers hheld hreq htxns hbad
        rw [heq]
        convert hstep using 1
        exact flow_eq (Bridge.erased_ledger hm) rfl rfl rfl rfl rfl rfl hhas rfl
      · have hstep : Flow.Step U c.flow _ := .resolve c.flow txn tx p hheld hreq htxns hp hf
        rw [heq]
        convert hstep using 1
        exact flow_eq (Bridge.resolved_ledger hm p) rfl rfl rfl rfl rfl rfl hhas rfl

/-- What the bridge does without its socket is a step of the flow. -/
theorem local?_flow {e : Bridge.Event Buf} (hk : c.Keeps U e) (h : c.local? e = some c') :
    Flow.Step U c.flow c'.flow := by
  obtain ⟨hpossible, b, hb, rfl⟩ := local?_inv h
  cases Bridge.moves_of_step hb with
  | read m buffer =>
    obtain ⟨⟨hhas, hactive⟩, hpending⟩ := hpossible
    rw [Bridge.read, issue_flow]
    exact .issue _ _ _ hk rfl rfl hhas hactive hpending
  | write m buffer =>
    obtain ⟨⟨hhas, hactive⟩, hpending⟩ := hpossible
    rw [Bridge.write, issue_flow]
    exact .issue _ _ _ hk rfl rfl hhas hactive hpending
  | terminate m =>
    obtain ⟨hhas, hactive⟩ := hpossible
    rw [terminate_flow]
    exact .terminate _ m hk hhas hactive
  | notify q hq =>
    obtain ⟨d, -, rfl⟩ := Option.map_eq_some_iff.mp hq
    exact .stay _
  | spurious q hq =>
    obtain ⟨d, -, rfl⟩ := Option.map_eq_some_iff.mp hq
    exact .stay _
  | pop q r hw hq => exact popped_flow hw (Queue.pop_items hq)
  | resume q r hw hq => exact popped_flow hw (Queue.resume_items hq)
  | dispatch tx hw => exact dispatch_flow hw
  | sent out write hw => exact hpossible.elim
  | receive read hr => exact hpossible.elim
  | process txn hr =>
    unfold Bridge.readerProcess
    split
    · exact request_flow hr ‹_›
    · exact response_flow hr (by simpa using ‹¬txn.type.isRequest = true›)

theorem sent_flow (h : c.sent = some c') : Flow.Step U c.flow c'.flow := by
  unfold sent at h
  split at h
  · rename_i out hw
    cases h
    have hsending : c.sending = [out.message] := by simp [sending, hw]
    have hledger : (c.bridge.writerSent out (.ok ())).ledger = c.bridge.ledger := Bridge.writerSent_ledger hw
    by_cases hstate : c.bridge.client.state = .started
    · -- The message goes into the socket.
      rw [if_pos hstate]
      have heq : ({ c with bridge := c.bridge.writerSent out (.ok ()), toRouter := c.toRouter ++ [out.message] } :
          Endpoint S Buf).flow = c.flow := by
        rcases Bridge.writerSent_started hstate out with ⟨rfl, hsent⟩ | ⟨-, hsent⟩
        · refine flow_eq hledger ?_ rfl ?_ ?_ ?_ ?_ (fun m => ?_) ?_ <;> rw [hsent]
          · simp [flow, hsending]
            rfl
          · rfl
          · rfl
          · rfl
          · rfl
          · rfl
          · simp [flow, hstate]
        · refine flow_eq hledger ?_ rfl ?_ ?_ ?_ ?_ (fun m => ?_) ?_ <;> rw [hsent]
          · simp [flow, hsending]
            rfl
          · rfl
          · rfl
          · rfl
          · rfl
          · rfl
          · simp [flow, hstate]
      exact heq ▸ .stay _
    · rw [if_neg hstate]
      obtain ⟨st, hsent⟩ := Bridge.writerSent_refused hstate out
      have hlose : Flow.Step U c.flow { c.flow with up := c.offered ++ c.toRouter, intact := true } :=
        .lose c.flow _ out.message (by simp [flow, hsending]) (by simp [flow, hstate, hw])
      convert hlose using 1
      refine flow_eq hledger ?_ rfl ?_ ?_ ?_ ?_ (fun m => ?_) ?_ <;> rw [hsent]
      · exact List.append_nil _
      · rfl
      · rfl
      · rfl
      · rfl
      · rfl
      · simp
  · cases h

theorem receive_flow (h : c.receive = some c') : Flow.Step U c.flow c'.flow := by
  unfold receive at h
  split at h
  · rename_i hr
    have hheld : c.held = none := by simp [held, hr]
    split at h
    · rename_i hstate
      split at h
      · cases h
      · rename_i msgArr rest hd
        cases h
        have hdown : c.flow.down = msgArr :: (rest ++ c.written) := by simp [flow, hd]
        rcases readerReceive_cases hstate msgArr with
          ⟨txn, hdec, heq⟩ | ⟨-, htype, st, heq⟩ | ⟨hdec, htype, heq | ⟨client, st, heq⟩⟩ <;> rw [heq]
        · have hstep : Flow.Step U c.flow _ := .receive c.flow msgArr _ txn hdown hdec hheld
          convert hstep using 1
          exact flow_eq rfl rfl rfl rfl rfl rfl rfl (fun _ => rfl) rfl
        · have hstep : Flow.Step U c.flow _ := .finish c.flow msgArr _ hdown htype
          convert hstep using 1
          exact flow_eq rfl rfl rfl hheld.symm rfl rfl rfl (fun _ => rfl) rfl
        · have hstep : Flow.Step U c.flow _ := .reject c.flow msgArr _ c.flow.intact hdown hdec htype
          convert hstep using 1
          exact flow_eq rfl rfl rfl hheld.symm rfl rfl rfl (fun _ => rfl) rfl
        · have hstep : Flow.Step U c.flow _ := .reject c.flow msgArr _
            (decide (client.state = .started ∨ c.bridge.writerThread = some .returned)) hdown hdec htype
          convert hstep using 1
          exact flow_eq rfl rfl rfl hheld.symm rfl rfl rfl (fun _ => rfl) rfl
    · rename_i hstate
      cases h
      -- The client refuses to receive, and the reader ends.
      have heq : ∃ st, c.bridge.readerReceive (.error "" : RouterClient.Received Buf) = c.bridge.readerExit st :=
        ⟨_, by simp [Bridge.readerReceive, RouterClient.receiveTransaction, hstate]; rfl⟩
      obtain ⟨st, heq⟩ := heq
      rw [heq, readerExit_flow]
      exact (show c.flow = { c.flow with held := none } from flow_eq rfl rfl rfl hheld rfl rfl rfl (fun _ => rfl) rfl) ▸
        .stay _
  · cases h

theorem readMsg_flow (h : c.readMsg = some c') : Flow.Step U c.flow c'.flow := by
  unfold readMsg at h
  split at h
  · rename_i msgArr rest hr hup
    cases h
    split
    · rename_i htype
      have hstep : Flow.Step U c.flow { c.flow with up := rest ++ c.sending } :=
        .leave c.flow msgArr _ (by simp [flow, offered, hr, hup]) htype
      exact hstep
    · have heq : ({ c with toRouter := rest, reader := .offering msgArr } : Endpoint S Buf).flow = c.flow :=
        flow_eq rfl (by simp [flow, offered, hr, hup]; rfl) rfl rfl rfl rfl rfl (fun _ => rfl) rfl
      exact heq ▸ .stay _
  · cases h

omit [Slave S] in
theorem writeMsg_flow (h : c.writeMsg = some c') : c'.flow = c.flow := by
  unfold writeMsg at h
  split at h
  · rename_i msgArr hw
    cases h
    refine flow_eq rfl rfl ?_ rfl rfl rfl rfl (fun _ => rfl) rfl
    split <;> simp [flow, written, hw]
  · cases h

end

end

end Endpoint

/-! ### The flows of a system -/

namespace Flow
variable {S Buf : Type}

/-- More messages are on their way to the reader of the bridge. -/
def deliver (f : Flow S Buf) (msgs : List Buf) : Flow S Buf := { f with down := f.down ++ msgs }

/-- `route` has taken the front of what is on its way to it. -/
def taken (f : Flow S Buf) (rest : List Buf) : Flow S Buf := { f with up := rest }

/-- The flows once `route` has put what comes of a turn on its way. -/
def pass (F : Nat → Flow S Buf) : Routed Buf → Nat → Flow S Buf
  | .send k msgArr => Function.update F k ((F k).deliver [msgArr])
  | _ => F

theorem pass_of_ne {F : Nat → Flow S Buf} {routed : Routed Buf} {j : Nat}
    (h : ∀ k msgArr, routed = .send k msgArr → j ≠ k) : pass F routed j = F j := by
  cases routed with
  | send k msgArr => exact Function.update_of_ne (h k msgArr rfl) _ _
  | next => rfl
  | done => rfl
  | fatal text => rfl
  | panic => rfl

theorem pass_apply (F : Nat → Flow S Buf) (routed : Routed Buf) (j : Nat) :
    pass F routed j = (F j).deliver (match routed with
      | .send k msgArr => if k = j then [msgArr] else []
      | _ => []) := by
  cases routed with
  | send k msgArr =>
    by_cases hk : k = j
    · subst hk
      simp [pass]
    · simp [pass, hk, Function.update_of_ne (Ne.symm hk), deliver]
  | next => simp [pass, deliver]
  | done => simp [pass, deliver]
  | fatal text => simp [pass, deliver]
  | panic => simp [pass, deliver]

theorem Step.deliver [Slave S] [Flatbuffers Buf] {U : Users} {f f' : Flow S Buf} (h : Step U f f')
    (msgs : List Buf) : Step U (f.deliver msgs) (f'.deliver msgs) := by
  cases h with
  | stay => exact .stay _
  | issue bytes txn huser hreq hread hhas hactive hpending => exact .issue _ bytes txn huser hreq hread hhas hactive hpending
  | terminate m huser hhas hactive => exact .terminate _ m huser hhas hactive
  | termination tx rest hw htype => exact .termination _ tx rest hw htype
  | request tx rest hw hreq => exact .request _ tx rest hw hreq
  | response tx rest hw htype hreq => exact .response _ tx rest hw htype hreq
  | logout => exact .logout _
  | lose up msgArr hup hintact => exact .lose _ up msgArr hup hintact
  | leave msgArr rest hup htype => exact .leave _ msgArr rest hup htype
  | receive msgArr rest txn hdown hdec hheld =>
    exact .receive (f.deliver msgs) msgArr (rest ++ msgs) txn (by simp [Flow.deliver, hdown]) hdec hheld
  | finish msgArr rest hdown htype =>
    exact .finish (f.deliver msgs) msgArr (rest ++ msgs) (by simp [Flow.deliver, hdown]) htype
  | reject msgArr rest intact hdown hdec htype =>
    exact .reject (f.deliver msgs) msgArr (rest ++ msgs) intact (by simp [Flow.deliver, hdown]) hdec htype
  | serve txn s hheld hreq hs => exact .serve _ txn s hheld hreq hs
  | unknownSlave txn hheld hreq hs => exact .unknownSlave _ txn hheld hreq hs
  | unknownRequest txn hheld hreq htx => exact .unknownRequest _ txn hheld hreq htx
  | crash txn tx buffers hheld hreq htx hbad => exact .crash _ txn tx buffers hheld hreq htx hbad
  | resolve txn tx p hheld hreq htx hp hf => exact .resolve _ txn tx p hheld hreq htx hp hf

end Flow

/-- `client.writer` takes a message. -/
theorem Endpoint.handed_flow {S Buf : Type} [Flatbuffers Buf] {c : Endpoint S Buf} (h : c.listening = true)
    (msgArr : Buf) : ({ c with writer := .writing msgArr } : Endpoint S Buf).flow = c.flow.deliver [msgArr] := by
  have hwritten : c.written = [] := by
    unfold listening at h
    unfold written
    split at h
    · simp [*]
    · cases h
  exact flow_eq rfl rfl (by simp [flow, Flow.deliver, hwritten]; rfl) rfl rfl rfl rfl (fun _ => rfl) rfl

namespace System
variable {S Buf : Type} [Flatbuffers Buf]

/-- What `route` is about to hand to the writer of client `i`. -/
def handing (s : System S Buf) (i : Nat) : List Buf :=
  match s.route with
  | .sending k msgArr => if k = i then [msgArr] else []
  | _ => []

/-- The flow of client `i`; the message that `route` is about to hand over is on its way. -/
def flow (s : System S Buf) (i : Nat) : Flow S Buf := (s.endpoints i).flow.deliver (s.handing i)

/-- The users of the bridges keep to `U` by this event. -/
def Keeps (U : Users) (s : System S Buf) : Event Buf → Prop
  | .bridge i e => (s.endpoints i).Keeps U e
  | _ => True

section
variable {s t : System S Buf}

omit [Flatbuffers Buf] in
theorem handing_of_ne (h : ∀ k msgArr, s.route ≠ .sending k msgArr) (i : Nat) : s.handing i = [] := by
  unfold handing
  split
  · exact absurd ‹_› (h _ _)
  · rfl

theorem flow_of_ne (h : ∀ k msgArr, s.route ≠ .sending k msgArr) (i : Nat) : s.flow i = (s.endpoints i).flow := by
  rw [flow, handing_of_ne h]
  simp [Flow.deliver]

omit [Flatbuffers Buf] in
theorem setEndpoint_self {i : Nat} {c : Endpoint S Buf} : (s.setEndpoint i c).endpoints i = c := by
  simp [setEndpoint]

omit [Flatbuffers Buf] in
theorem setEndpoint_ne {i j : Nat} {c : Endpoint S Buf} (h : j ≠ i) :
    (s.setEndpoint i c).endpoints j = s.endpoints j := by
  simp [setEndpoint, h]

theorem setEndpoint_flow_ne {i j : Nat} {c : Endpoint S Buf} (h : j ≠ i) : (s.setEndpoint i c).flow j = s.flow j := by
  rw [flow, flow, setEndpoint_ne h]
  rfl

omit [Flatbuffers Buf] in
theorem endpointStep_inv {i : Nat} {next : Endpoint S Buf → Option (Endpoint S Buf)}
    (h : s.endpointStep i next = some t) :
    i < s.clients ∧ ∃ c, next (s.endpoints i) = some c ∧ t = s.setEndpoint i c := by
  unfold endpointStep at h
  split at h
  · obtain ⟨c, hc, rfl⟩ := Option.map_eq_some_iff.mp h
    exact ⟨‹_›, c, hc, rfl⟩
  · cases h

variable [Slave S]

/-- What a step of the system does to the flows: one of them makes a step of its own; `route` takes the front of
    one and passes on what comes of it; it hands over; or it hands out a `DONE`. -/
inductive Move (U : Users) (s t : System S Buf) : Prop where
  | endpoint (i : Nat) (hi : i < s.clients) (hstep : Flow.Step U (s.flow i) (t.flow i))
      (hothers : ∀ j, j ≠ i → t.flow j = s.flow j) (hrouter : t.router = s.router) (hroute : t.route = s.route)
      (hrecord : t.record = s.record)
  | take (i : Nat) (order : List IpInfo) (msgArr : Buf) (rest : List Buf) (routed : Routed Buf) (hi : i < s.clients)
      (hreceiving : s.route = .receiving) (hup : (s.flow i).up = msgArr :: rest)
      (horder : s.router.IterationOrder order) (hturn : s.router.route order msgArr = (t.router, routed))
      (hroute : t.route = routeLoop routed) (hrecord : t.record = s.record.turn msgArr routed)
      (hflow : t.flow = Flow.pass (Function.update s.flow i ((s.flow i).taken rest)) routed)
  | hand (k : Nat) (msgArr : Buf) (hsending : s.route = .sending k msgArr) (hroute : t.route = .receiving)
      (hrouter : t.router = s.router) (hrecord : t.record = s.record) (hflow : t.flow = s.flow)
  | handDone (k : Nat) (hsending : s.route = .sendDone k)
      (hroute : t.route = if k + 1 < s.clients then .sendDone (k + 1) else .exited)
      (hrouter : t.router = s.router) (hrecord : t.record = s.record)
      (hflow : t.flow = Function.update s.flow k ((s.flow k).deliver [doneMessage]))

/-- A step of one endpoint is a step of its flow. -/
theorem endpointStep_flow {U : Users} {i : Nat} {next : Endpoint S Buf → Option (Endpoint S Buf)}
    (h : s.endpointStep i next = some t)
    (hnext : ∀ c, next (s.endpoints i) = some c → Flow.Step U (s.endpoints i).flow c.flow) :
    i < s.clients ∧ Flow.Step U (s.flow i) (t.flow i) ∧ (∀ j, j ≠ i → t.flow j = s.flow j) ∧ t.router = s.router ∧
      t.route = s.route ∧ t.record = s.record := by
  obtain ⟨hi, c, hc, rfl⟩ := endpointStep_inv h
  refine ⟨hi, ?_, fun j hj => setEndpoint_flow_ne hj, rfl, rfl, rfl⟩
  have hflow : (s.setEndpoint i c).flow i = c.flow.deliver (s.handing i) := by
    rw [flow, setEndpoint_self]
    rfl
  rw [hflow]
  exact (hnext c hc).deliver _

omit [Slave S] in
/-- What `route` takes is the front of a flow, and what comes of it is delivered. -/
theorem take_inv {i : Nat} {order : List IpInfo} (h : s.take i order = some t) :
    ∃ msgArr rest routed, s.route = .receiving ∧ (s.endpoints i).reader = .offering msgArr ∧
      (s.flow i).up = msgArr :: rest ∧ s.router.IterationOrder order ∧
      s.router.route order msgArr = (t.router, routed) ∧ t.route = routeLoop routed ∧
      t.record = s.record.turn msgArr routed ∧
      t.flow = Flow.pass (Function.update s.flow i ((s.flow i).taken rest)) routed := by
  unfold take at h
  split at h
  · rename_i msgArr hreceiving hoffering
    split at h
    · rename_i horder
      have hs : ∀ j, s.flow j = (s.endpoints j).flow := flow_of_ne (by simp [hreceiving])
      have hup : (s.flow i).up = msgArr :: ((s.endpoints i).toRouter ++ (s.endpoints i).sending) := by
        rw [hs]
        simp [Endpoint.flow, Endpoint.offered, hoffering]
      generalize hturn : s.router.route order msgArr = turn at h
      obtain ⟨router, routed⟩ := turn
      cases h
      refine ⟨msgArr, _, routed, hreceiving, hoffering, hup, horder, hturn, rfl, rfl, funext fun j => ?_⟩
      rw [Flow.pass_apply, flow]
      congr 1
      · by_cases hj : j = i
        · subst hj
          rw [Function.update_self, hs]
          simp only [setEndpoint_self]
          rfl
        · rw [Function.update_of_ne hj, hs]
          simp only [setEndpoint_ne hj]
      · cases routed <;> rfl
    · cases h
  · cases h

omit [Slave S] in
/-- A message is handed over, which was under way before, or a `DONE`. -/
theorem hand_inv (h : s.hand = some t) : t.router = s.router ∧ t.record = s.record ∧
    ((∃ k msgArr, s.route = .sending k msgArr ∧ t.route = .receiving ∧ t.flow = s.flow) ∨
      ∃ k, s.route = .sendDone k ∧ t.route = (if k + 1 < s.clients then .sendDone (k + 1) else .exited) ∧
        t.flow = Function.update s.flow k ((s.flow k).deliver [doneMessage])) := by
  unfold hand at h
  split at h
  · rename_i k msgArr hsending
    split at h
    · rename_i hlistening
      cases h
      refine ⟨rfl, rfl, Or.inl ⟨k, msgArr, hsending, rfl, funext fun j => ?_⟩⟩
      rw [flow_of_ne (by simp)]
      -- The message goes on from `route` to the writer.
      by_cases hj : j = k
      · subst hj
        simp only [setEndpoint_self]
        rw [Endpoint.handed_flow hlistening]
        simp [flow, handing, hsending]
      · simp only [setEndpoint_ne hj]
        simp [flow, handing, hsending, Ne.symm hj, Flow.deliver]
    · cases h
  · rename_i k hsending
    split at h
    · rename_i hlistening
      cases h
      refine ⟨rfl, rfl, Or.inr ⟨k, hsending, rfl, funext fun j => ?_⟩⟩
      have hs : ∀ j, s.flow j = (s.endpoints j).flow := flow_of_ne (by simp [hsending])
      rw [flow_of_ne (by intro k msgArr; simp only; split <;> simp)]
      by_cases hj : j = k
      · subst hj
        rw [Function.update_self, hs]
        simp only [setEndpoint_self]
        exact Endpoint.handed_flow hlistening _
      · rw [Function.update_of_ne hj, hs]
        simp only [setEndpoint_ne hj]
    · cases h
  · cases h

/-- A step of the system is one of an endpoint, or `route` takes a message or hands one over. -/
theorem step_cases {U : Users} {e : Event Buf} (hk : s.Keeps U e) (h : s.step e = some t) :
    (∃ i, i < s.clients ∧ Flow.Step U (s.flow i) (t.flow i) ∧ (∀ j, j ≠ i → t.flow j = s.flow j) ∧
      t.router = s.router ∧ t.route = s.route ∧ t.record = s.record) ∧ (∀ i order, e ≠ .take i order) ∨
    (∃ i order, e = .take i order ∧ i < s.clients ∧ s.take i order = some t) ∨
    (e = .hand ∧ s.hand = some t) := by
  cases e with
  | bridge i e =>
    simp only [step] at h
    exact Or.inl ⟨⟨i, endpointStep_flow h fun c hc => Endpoint.local?_flow hk hc⟩, by simp⟩
  | sent i =>
    simp only [step] at h
    exact Or.inl ⟨⟨i, endpointStep_flow h fun c hc => Endpoint.sent_flow hc⟩, by simp⟩
  | receive i =>
    simp only [step] at h
    exact Or.inl ⟨⟨i, endpointStep_flow h fun c hc => Endpoint.receive_flow hc⟩, by simp⟩
  | readMsg i =>
    simp only [step] at h
    split at h
    · exact Or.inl ⟨⟨i, endpointStep_flow h fun c hc => Endpoint.readMsg_flow hc⟩, by simp⟩
    · cases h
  | take i order =>
    simp only [step] at h
    split at h
    · exact Or.inr (Or.inl ⟨i, order, rfl, ‹_›, h⟩)
    · cases h
  | hand => exact Or.inr (Or.inr ⟨rfl, h⟩)
  | writeMsg i =>
    simp only [step] at h
    split at h
    · refine Or.inl ⟨⟨i, endpointStep_flow h fun c hc => ?_⟩, by simp⟩
      rw [Endpoint.writeMsg_flow hc]
      exact .stay _
    · cases h

/-- A step of the system moves its flows. -/
theorem step_move {U : Users} {e : Event Buf} (hk : s.Keeps U e) (h : s.step e = some t) : Move U s t := by
  rcases step_cases hk h with ⟨⟨i, hi, hstep, hothers, hrouter, hroute, hrecord⟩, -⟩ | ⟨i, order, -, hi, htake⟩ |
    ⟨-, hhand⟩
  · exact .endpoint i hi hstep hothers hrouter hroute hrecord
  · obtain ⟨msgArr, rest, routed, hreceiving, -, hup, horder, hturn, hroute, hrecord, hflow⟩ := take_inv htake
    exact .take i order msgArr rest routed hi hreceiving hup horder hturn hroute hrecord hflow
  · obtain ⟨hrouter, hrecord, ⟨k, msgArr, hsending, hroute, hflow⟩ | ⟨k, hsending, hroute, hflow⟩⟩ := hand_inv hhand
    · exact .hand k msgArr hsending hroute hrouter hrecord hflow
    · exact .handDone k hsending hroute hrouter hrecord hflow

end

end System

end SwAxi
