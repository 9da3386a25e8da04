import SwAxi.Bridge

/-! The two threads of a started bridge, `Bridge::reader` and `Bridge::writer` (`src/lib/SwAxi.cc`), and the
bridge as a transition system: calls of its masters, the steps of both threads, and whatever its socket
gives. -/

namespace SwAxi
open Wire (Flatbuffers)

namespace Bridge
variable {S Buf : Type} [Slave S] [Flatbuffers Buf] (b : Bridge S)

/-! ### Reader -/

/-- An exit of the reader. -/
def readerExit (st : Status) : Bridge S :=
  { b with readerStatus := st, queue := b.queue.finish, readerThread := some .returned }

def readerCrash : Bridge S := { b with readerThread := some .crashed }

/-- What the reader makes of what `receiveTransaction` comes to. -/
def readerReturn : Option (RouterClient × Option Transaction × Status) → Bridge S
  | none => b.readerCrash
  | some (client, txn, st) =>
    let b := { b with client }
    if st.isError then b.readerExit (if st.code ≠ RouterClient.DONE then st else {})
    else match txn with
    | none => b.readerCrash
    | some txn => { b with readerThread := some (.holding txn) }

/-- The call of `receiveTransaction`, as one step. -/
def readerReceive (read : RouterClient.Received Buf) : Bridge S := b.readerReturn (b.client.receiveTransaction read)

/-- `memcpy` to the front of a buffer. -/
def overwrite (buffer data : List UInt8) : List UInt8 := data ++ buffer.drop data.length

/-- `promise.set_value`; to set a promise twice, or one without future, throws. -/
def setPromise (promise : Option Nat) (st : Status) (response : Transaction) : Bridge S :=
  match promise with
  | none => b.readerCrash
  | some p =>
    match b.futures p with
    | some _ => b.readerCrash
    | none =>
      { b with
        futures := Function.update b.futures p (some st)
        history := { b.history with fulfilled := b.history.fulfilled ++ [(p, response)] }
        readerThread := some .receiving }

/-- The status a response resolves its request with. -/
def responseStatus (response : Transaction) : Status := if response.ok then {} else ⟨1, response.message⟩

/-- `masterMap[master] = md`. -/
def setMasterMd (master : UInt64) (md : MasterMd) : Bridge S :=
  { b with masterMap := Function.update b.masterMap master (some md) }

/-- The response is matched: its entry is erased, its data are copied for a read that went well, and the
    promise is set. -/
def resolve (md : MasterMd) (mTxn : Master.Txn) (response : Transaction) : Bridge S :=
  let b := b.setMasterMd response.initiator { md with txns := Function.update md.txns response.id none }
  if response.type = .readResp ∧ response.ok = true then
    match mTxn.buffer with
    | none => if response.data = [] then b.setPromise mTxn.promise (responseStatus response) response else b.readerCrash
    | some p =>
      { b with buffers := Function.update b.buffers p (overwrite (b.buffers p) response.data) }.setPromise
        mTxn.promise (responseStatus response) response
  else b.setPromise mTxn.promise (responseStatus response) response

/-- The reader's branch for responses, under the lock of `masterMapMutex`. -/
def readerResponse (txn : Transaction) : Bridge S :=
  match b.masterMap txn.initiator with
  | none => b.readerExit ⟨1, "Got a response for an unknown master: " ++ toString txn.initiator⟩
  | some md =>
    match md.txns txn.id with
    | none => b.readerExit ⟨1, "Got a response for an unknown request: " ++ toString txn.id⟩
    | some mTxn => b.resolve md mTxn txn

/-- What a slave makes of a request: its new state and the response. A read starts on a zeroed buffer, for which
    `respTxn->data.resize` has found room. -/
def serve (s : S) (txn : Transaction) : S × Transaction :=
  let (s, ret, type, data) :=
    if txn.type = .writeReq then
      let (s, ret) := Slave.handleWrite s { data := txn.data, size := txn.size, address := txn.address }
      (s, ret, TransactionType.writeResp, [])
    else
      let (s, ret, bytes) :=
        Slave.handleRead s { data := List.replicate txn.size.toNat 0, size := txn.size, address := txn.address }
      (s, ret, TransactionType.readResp, (List.range txn.size.toNat).map bytes)
  let resp : Transaction :=
    { type, initiator := txn.initiator, target := txn.target, id := txn.id, address := txn.address,
      size := txn.size, data, ok := true }
  (s, if ret ≠ 0 then { resp with data := [], ok := false, message := "Slave operation failed" } else resp)

/-- The reader's branch for requests. -/
def readerRequest (txn : Transaction) : Bridge S :=
  match b.slaveMap txn.target with
  | none => b.readerExit ⟨1, "Got a request meant for an unknown slave: " ++ toString txn.target⟩
  | some s =>
    let (s, resp) := serve s txn
    { b with
      slaveMap := Function.update b.slaveMap txn.target (some s)
      queue := b.queue.push { type := .transaction, txn := resp }
      readerThread := some .receiving }

/-- `respTxn->data.resize` throws on the size of the read. Nothing catches that, so it ends the process: no state
    follows. -/
def Throws (txn : Transaction) : Prop :=
  txn.type = .readReq ∧ (b.slaveMap txn.target).isSome = true ∧ maxSize < txn.size.toNat

instance (txn : Transaction) : Decidable (b.Throws txn) := inferInstanceAs (Decidable (_ ∧ _))

/-- The rest of a turn of the reader's loop. -/
def readerProcess (txn : Transaction) : Bridge S :=
  if txn.type.isRequest then b.readerRequest txn else b.readerResponse txn

/-! ### Writer -/

/-- What the writer does with an outcome of `queue.pop`. -/
def popped (q : Queue Master.Txn) : Popped Master.Txn → Bridge S
  | .blocked => { b with queue := q }
  | .item txn => { b with queue := q, writerThread := some (.holding txn) }
  | .finished => { b with queue := q, writerStatus := {}, writerThread := some (.sending .logout) }

/-- A request gets the next id of its master and is put among the master's outstanding requests, under the
    lock of `masterMapMutex`. -/
def assign (txn : Master.Txn) : Bridge S :=
  let m := txn.txn.initiator
  let md := (b.masterMap m).getD {}
  let txn := { txn with txn := { txn.txn with id := md.lastTxnId } }
  let b := b.setMasterMd m
    { txns := Function.update md.txns md.lastTxnId (some txn), lastTxnId := md.lastTxnId + 1 }
  { b with
    history := { b.history with
      assigned := b.history.assigned ++ txn.promise.toList.map fun p => (p, m, md.lastTxnId) }
    writerThread := some (.sending (.transaction txn.txn)) }

/-- The writer's turn for an item, up to the send operation. -/
def writerDispatch (txn : Master.Txn) : Bridge S :=
  if txn.type = .termination then { b with writerThread := some (.sending (.termination txn.txn.id)) }
  else if txn.txn.type.isRequest then b.assign txn
  else { b with writerThread := some (.sending (.transaction txn.txn)) }

/-- What the writer makes of what its send operation returns. -/
def writerReturn (out : Outgoing) : RouterClient × Status → Bridge S
  | (client, st) =>
    if out = .logout then { b with client, writerStatus := st, writerThread := some .returned }
    else if st.isError then { b with client, writerStatus := st, writerThread := some .returned }
    else { b with client, writerThread := some .popping }

/-- The writer's send operation, as one step. -/
def writerSent (out : Outgoing) (write : Except String Unit) : Bridge S :=
  b.writerReturn out <| match out with
    | .transaction _ => b.client.sendTransaction write
    | .termination _ => b.client.sendTermination write
    | .logout => b.client.sendLogout write

/-! ### The bridge as a whole -/

inductive Event (Buf : Type) where
  | read (master : UInt64) (buffer : Buffer)
  | write (master : UInt64) (buffer : Buffer)
  | terminate (master : UInt64)
  | notify
  | spurious
  | pop
  | resume
  | dispatch
  | sent (write : Except String Unit)
  | receive (read : RouterClient.Received Buf)
  | process

/-- A step of the bridge; the calls of masters are possible at any time. -/
def step : Event Buf → Option (Bridge S)
  | .read m buffer => some (b.read m buffer)
  | .write m buffer => some (b.write m buffer)
  | .terminate m => some (b.terminate m)
  | .notify => b.queue.notify.map fun queue => { b with queue }
  | .spurious => b.queue.spurious.map fun queue => { b with queue }
  | .pop => if b.writerThread = some .popping then b.queue.pop.map fun (q, r) => b.popped q r else none
  | .resume => if b.writerThread = some .popping then b.queue.resume.map fun (q, r) => b.popped q r else none
  | .dispatch =>
    match b.writerThread with
    | some (.holding txn) => some (b.writerDispatch txn)
    | _ => none
  | .sent write =>
    match b.writerThread with
    | some (.sending out) => some (b.writerSent out write)
    | _ => none
  | .receive read => if b.readerThread = some .receiving then some (b.readerReceive read) else none
  | .process =>
    match b.readerThread with
    | some (.holding txn) => if b.Throws txn then none else some (b.readerProcess txn)
    | _ => none

/-- What a step can do. -/
inductive Moves : Event Buf → Bridge S → Prop where
  | read (m : UInt64) (buffer : Buffer) : Moves (.read m buffer) (b.read m buffer)
  | write (m : UInt64) (buffer : Buffer) : Moves (.write m buffer) (b.write m buffer)
  | terminate (m : UInt64) : Moves (.terminate m) (b.terminate m)
  | notify (queue : Queue Master.Txn) (hq : b.queue.notify = some queue) : Moves .notify { b with queue }
  | spurious (queue : Queue Master.Txn) (hq : b.queue.spurious = some queue) : Moves .spurious { b with queue }
  | pop (q : Queue Master.Txn) (r : Popped Master.Txn) (hw : b.writerThread = some .popping)
      (hq : b.queue.pop = some (q, r)) : Moves .pop (b.popped q r)
  | resume (q : Queue Master.Txn) (r : Popped Master.Txn) (hw : b.writerThread = some .popping)
      (hq : b.queue.resume = some (q, r)) : Moves .resume (b.popped q r)
  | dispatch (tx : Master.Txn) (hw : b.writerThread = some (.holding tx)) : Moves .dispatch (b.writerDispatch tx)
  | sent (out : Outgoing) (write : Except String Unit) (hw : b.writerThread = some (.sending out)) :
      Moves (.sent write) (b.writerSent out write)
  | receive (read : RouterClient.Received Buf) (hr : b.readerThread = some .receiving) :
      Moves (.receive read) (b.readerReceive read)
  | process (txn : Transaction) (hr : b.readerThread = some (.holding txn)) (hsize : ¬b.Throws txn) :
      Moves .process (b.readerProcess txn)

theorem moves_of_step {b t : Bridge S} {e : Event Buf} (h : b.step e = some t) : b.Moves e t := by
  cases e with
  | read m buffer =>
    cases h
    exact .read m buffer
  | write m buffer =>
    cases h
    exact .write m buffer
  | terminate m =>
    cases h
    exact .terminate m
  | notify =>
    obtain ⟨q, hq, rfl⟩ := Option.map_eq_some_iff.mp h
    exact .notify q hq
  | spurious =>
    obtain ⟨q, hq, rfl⟩ := Option.map_eq_some_iff.mp h
    exact .spurious q hq
  | pop =>
    simp only [step] at h
    split at h
    · obtain ⟨⟨q, r⟩, hq, rfl⟩ := Option.map_eq_some_iff.mp h
      exact .pop q r ‹_› hq
    · cases h
  | resume =>
    simp only [step] at h
    split at h
    · obtain ⟨⟨q, r⟩, hq, rfl⟩ := Option.map_eq_some_iff.mp h
      exact .resume q r ‹_› hq
    · cases h
  | dispatch =>
    simp only [step] at h
    split at h
    · cases h
      exact .dispatch _ ‹_›
    · cases h
  | sent write =>
    simp only [step] at h
    split at h
    · cases h
      exact .sent _ write ‹_›
    · cases h
  | receive read =>
    simp only [step] at h
    split at h
    · cases h
      exact .receive read ‹_›
    · cases h
  | process =>
    simp only [step] at h
    split at h
    · split at h
      · cases h
      · cases h
        exact .process _ ‹_› ‹_›
    · cases h

end Bridge

end SwAxi
