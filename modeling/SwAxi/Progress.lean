import SwAxi.Pipeline

/-! Work that is pending gets done: as long as no master has been terminated and no thread has returned with an
error, some reader, some writer or `route` can make a step, whatever the capacities of the sockets. -/

namespace SwAxi
open Wire (Flatbuffers)
open Wire.Flatbuffers (getRoot)
open RouterClient (decode transactionMessage)
open Transition

namespace Bridge
variable {S Buf : Type}

/-- No `TERMINATE` has been issued, and no thread has returned with an error. -/
structure Serving (b : Bridge S) : Prop where
  terminated : b.history.terminated = []
  reader : b.readerThread = some .returned → b.readerStatus.isError = false
  writer : b.writerThread = some .returned → b.writerStatus.isError = false

/-! ### The threads apart -/

/-- What the reader leaves alone. -/
structure ByReader (b t : Bridge S) : Prop where
  thread : t.writerThread = b.writerThread
  status : t.writerStatus = b.writerStatus
  terminated : t.history.terminated = b.history.terminated

/-- What the writer leaves alone. -/
structure ByWriter (b t : Bridge S) : Prop where
  thread : t.readerThread = b.readerThread
  status : t.readerStatus = b.readerStatus
  terminated : t.history.terminated = b.history.terminated

section
variable [Flatbuffers Buf] {b t : Bridge S}

theorem byReader_receive (read : RouterClient.Received Buf) : b.ByReader (b.readerReceive read) := by
  unfold readerReceive readerReturn
  split
  · exact ⟨rfl, rfl, rfl⟩
  · simp only
    split
    · exact ⟨rfl, rfl, rfl⟩
    · split <;> exact ⟨rfl, rfl, rfl⟩

theorem byReader_response (txn : Transaction) : b.ByReader (b.readerResponse txn) := by
  unfold readerResponse
  cases b.masterMap txn.initiator with
  | none => exact ⟨rfl, rfl, rfl⟩
  | some md =>
    simp only
    cases md.txns txn.id with
    | none => exact ⟨rfl, rfl, rfl⟩
    | some mTxn =>
      rcases b.resolve_cases md mTxn txn with ⟨-, buffers, heq⟩ | ⟨p, -, -, heq⟩
      · simp only [heq]
        exact ⟨rfl, rfl, rfl⟩
      · simp only [heq]
        exact ⟨rfl, rfl, rfl⟩

theorem byReader_process [Slave S] (txn : Transaction) : b.ByReader (b.readerProcess txn) := by
  unfold readerProcess
  split
  · unfold readerRequest
    split <;> exact ⟨rfl, rfl, rfl⟩
  · exact byReader_response txn

theorem byWriter_popped (q : Queue Master.Txn) (r : Popped Master.Txn) : b.ByWriter (b.popped q r) := by
  cases r <;> exact ⟨rfl, rfl, rfl⟩

theorem byWriter_dispatch (tx : Master.Txn) : b.ByWriter (b.writerDispatch tx) := by
  unfold writerDispatch
  split
  · exact ⟨rfl, rfl, rfl⟩
  · split <;> exact ⟨rfl, rfl, rfl⟩

theorem byWriter_sent (out : Outgoing) (write : Except String Unit) : b.ByWriter (b.writerSent out write) := by
  unfold writerSent writerReturn
  split
  split
  · exact ⟨rfl, rfl, rfl⟩
  · split <;> exact ⟨rfl, rfl, rfl⟩

theorem ByReader.before {th : ReaderThread} (h : b.ByReader t) (hr : b.readerThread = some th) (hth : th ≠ .returned)
    (hs : t.Serving) : b.Serving where
  terminated := h.terminated ▸ hs.terminated
  reader hret := absurd (Option.some.inj (hr.symm.trans hret)) hth
  writer hret := h.status ▸ hs.writer (h.thread.trans hret)

theorem ByWriter.before {th : WriterThread} (h : b.ByWriter t) (hw : b.writerThread = some th) (hth : th ≠ .returned)
    (hs : t.Serving) : b.Serving where
  terminated := h.terminated ▸ hs.terminated
  reader hret := h.status ▸ hs.reader (h.thread.trans hret)
  writer hret := absurd (Option.some.inj (hw.symm.trans hret)) hth

/-- The bridge has been serving all the time. -/
theorem Serving.before [Slave S] {e : Event Buf} (h : t.Serving) (hs : b.step e = some t) : b.Serving := by
  cases moves_of_step hs with
  | read m buffer => exact ⟨h.terminated, h.reader, h.writer⟩
  | write m buffer => exact ⟨h.terminated, h.reader, h.writer⟩
  | terminate m => simpa [terminate] using h.terminated
  | notify q hq => exact ⟨h.terminated, h.reader, h.writer⟩
  | spurious q hq => exact ⟨h.terminated, h.reader, h.writer⟩
  | pop q r hw hq => exact (byWriter_popped q r).before hw (by simp) h
  | resume q r hw hq => exact (byWriter_popped q r).before hw (by simp) h
  | dispatch tx hw => exact (byWriter_dispatch tx).before hw (by simp) h
  | sent out write hw => exact (byWriter_sent out write).before hw (by simp) h
  | receive read hr => exact (byReader_receive read).before hr (by simp) h
  | process txn hr => exact (byReader_process txn).before hr (by simp) h

end

/-! ### Threads at work -/

/-- The threads are at work, and nothing but transactions goes through the queue. -/
structure Live (b : Bridge S) : Prop where
  client : b.client.state = .started
  reader : b.readerThread = some .receiving ∨ ∃ txn, b.readerThread = some (.holding txn)
  writer : b.writerThread = some .popping ∨
    (∃ tx, b.writerThread = some (.holding tx) ∧ tx.type = .transaction) ∨
    ∃ txn, b.writerThread = some (.sending (.transaction txn))
  done : b.queue.done = false
  items : ∀ tx ∈ b.queue.items, tx.type = .transaction
  outside : b.writerThread ≠ some .popping → b.queue.condVar.waiter = .outside
  /-- The writer does not sleep over an item. -/
  awake : b.queue.items ≠ [] → ¬b.queue.condVar.Stuck

/-- No response that the reader has makes it crash. -/
def Safe (b : Bridge S) : Prop :=
  ∀ txn tx, b.readerThread = some (.holding txn) → txn.type.isRequest = false →
    (b.ledger.masters txn.initiator).txns txn.id = some tx →
      (∃ p, tx.promise = some p ∧ b.futures p = none) ∧ (txn.type = .readResp → tx.buffer ≠ none)

section
variable {b t : Bridge S}

theorem Live.push (h : b.Live) (tx : Master.Txn) (htype : tx.type = .transaction) :
    ({ b with queue := b.queue.push tx } : Bridge S).Live :=
  { h with
    items := fun x hx => by
      rcases List.mem_append.mp hx with hx | hx
      · exact h.items x hx
      · rw [List.mem_singleton.mp hx]
        exact htype
    awake := fun _ => CondVar.not_stuck_signal }

/-- A request is issued. -/
theorem Live.issue (h : b.Live) (buffer : Option (List UInt8)) (txn : Transaction) : (b.issue buffer txn).Live :=
  { h.push { type := .transaction, buffer := buffer.map fun _ => b.history.issued.length, txn,
             promise := some b.history.issued.length } rfl with }

/-- The writer is woken up, or a notification is lost as it is awake. -/
theorem Live.wake (h : b.Live) {c : CondVar} (hstuck : ¬c.Stuck)
    (houtside : b.queue.condVar.waiter = .outside → c.waiter = .outside) :
    ({ b with queue := { b.queue with condVar := c } } : Bridge S).Live :=
  { h with
    outside := fun hw => houtside (h.outside hw)
    awake := fun _ => hstuck }

/-- The head of the loop in `pop`. -/
theorem Live.popped (h : b.Live) (hw : b.writerThread = some .popping) {q : Queue Master.Txn} {r : Popped Master.Txn}
    (hq : b.queue.loopHead = (q, r)) : (b.popped q r).Live := by
  rcases Queue.loopHead_cases (q := b.queue) with ⟨hnil, heq⟩ | ⟨a, rest, hcons, heq⟩
  · rw [heq] at hq
    cases hq
    exact { h with
            outside := fun hne => absurd hw hne
            awake := fun hne => absurd hnil hne }
  · rw [heq] at hq
    cases hq
    exact { h with
            writer := Or.inr (Or.inl ⟨a, rfl, h.items a (hcons ▸ List.mem_cons_self)⟩)
            items := fun x hx => h.items x (hcons ▸ List.mem_cons_of_mem _ hx)
            outside := fun _ => rfl
            awake := fun _ => CondVar.not_stuck_leave }

theorem Live.dispatch (h : b.Live) {tx : Master.Txn} (hw : b.writerThread = some (.holding tx)) :
    (b.writerDispatch tx).Live := by
  have htype : tx.type = .transaction := by
    rcases h.writer with hw' | ⟨tx', hw', htype⟩ | ⟨txn, hw'⟩
    · rw [hw] at hw'
      cases hw'
    · rw [hw] at hw'
      cases hw'
      exact htype
    · rw [hw] at hw'
      cases hw'
  have houtside := h.outside (by simp [hw])
  unfold writerDispatch
  rw [if_neg (by simp [htype])]
  split
  · exact { h with
            writer := Or.inr (Or.inr ⟨_, rfl⟩)
            outside := fun _ => houtside }
  · exact { h with
            writer := Or.inr (Or.inr ⟨_, rfl⟩)
            outside := fun _ => houtside }

theorem Live.sent (h : b.Live) {out : Outgoing} (hw : b.writerThread = some (.sending out)) :
    (b.writerSent out (.ok ())).Live := by
  have hne : out ≠ .logout := by
    rintro rfl
    rcases h.writer with hw' | ⟨tx, hw', -⟩ | ⟨txn, hw'⟩ <;> rw [hw] at hw' <;> cases hw'
  have houtside := h.outside (by simp [hw])
  rcases writerSent_started h.client out with ⟨heq, -⟩ | ⟨-, heq⟩
  · exact absurd heq hne
  · rw [heq]
    exact { h with
            writer := Or.inl rfl
            outside := fun _ => houtside }

theorem Live.receive [Flatbuffers Buf] (h : b.Live) {msgArr : Buf} {txn : Transaction} (hdec : decode msgArr = some txn) :
    (b.readerReceive (.ok msgArr)).Live := by
  rcases readerReceive_cases h.client msgArr with ⟨txn', -, heq⟩ | ⟨hnone, -⟩ | ⟨hnone, -⟩
  · rw [heq]
    exact { h with reader := Or.inr ⟨txn', rfl⟩ }
  · rw [hdec] at hnone
    cases hnone
  · rw [hdec] at hnone
    cases hnone

/-- The reader deals with what it has, unless it ends with an error. -/
theorem Live.process [Slave S] (h : b.Live) (hsafe : b.Safe) {txn : Transaction}
    (hr : b.readerThread = some (.holding txn)) (hserving : (b.readerProcess txn).Serving) :
    (b.readerProcess txn).Live := by
  unfold readerProcess at hserving ⊢
  split
  · rename_i hreq
    rw [if_pos hreq] at hserving
    unfold readerRequest at hserving ⊢
    cases hs : b.slaveMap txn.target with
    | none =>
      simp only [hs] at hserving
      exact absurd (hserving.reader rfl) (by simp [readerExit, Status.isError])
    | some s =>
      simp only
      exact { h.push { type := .transaction, txn := (serve s txn).2 } rfl with reader := Or.inl rfl }
  · rename_i hreq
    rw [if_neg hreq] at hserving
    unfold readerResponse at hserving ⊢
    cases hm : b.masterMap txn.initiator with
    | none =>
      simp only [hm] at hserving
      exact absurd (hserving.reader rfl) (by simp [readerExit, Status.isError])
    | some md =>
      simp only [hm] at hserving ⊢
      cases hid : md.txns txn.id with
      | none =>
        simp only [hid] at hserving
        exact absurd (hserving.reader rfl) (by simp [readerExit, Status.isError])
      | some mTxn =>
        simp only
        obtain ⟨⟨p, hp, hpending⟩, hbuffer⟩ := hsafe txn mTxn hr (by simpa using hreq) (outstanding_masters hm hid)
        rcases b.resolve_cases md mTxn txn with ⟨hset | ⟨hnull, hread, -⟩, -⟩ | ⟨p, -, -, heq⟩
        · exact absurd hpending (hset p hp)
        · exact absurd hnull (hbuffer hread)
        · rw [heq]
          exact { h with reader := Or.inl rfl }

theorem Live.step [Slave S] [Flatbuffers Buf] (h : b.Live) (hsafe : b.Safe) {e : Event Buf} (hserving : t.Serving)
    (hs : b.step e = some t) (hsent : ∀ write, e ≠ .sent write) (hreceive : ∀ read, e ≠ .receive read) : t.Live := by
  cases moves_of_step hs with
  | read m buffer => exact h.issue _ _
  | write m buffer => exact h.issue _ _
  | terminate m =>
    have hnone : b.history.terminated ++ [m] = [] := hserving.terminated
    simp at hnone
  | notify q hq =>
    obtain ⟨c, hc, rfl⟩ := Option.map_eq_some_iff.mp hq
    exact h.wake (CondVar.not_stuck_notify hc) (CondVar.notify_outside hc).mpr
  | spurious q hq =>
    obtain ⟨c, hc, rfl⟩ := Option.map_eq_some_iff.mp hq
    exact h.wake (CondVar.not_stuck_spurious hc) (CondVar.spurious_outside hc).mpr
  | pop q r hw hq => exact h.popped hw (Queue.pop_inv hq).2
  | resume q r hw hq =>
    rcases (Queue.resume_inv hq).2 with ⟨hdone, -⟩ | ⟨-, hhead⟩
    · rw [h.done] at hdone
      cases hdone
    · exact h.popped hw hhead
  | dispatch tx hw => exact h.dispatch hw
  | sent out write hw => exact absurd rfl (hsent write)
  | receive read hr => exact absurd rfl (hreceive read)
  | process txn hr => exact h.process hsafe hr hserving

end

end Bridge

/-! ### Endpoints at work -/

/-- The message is a transaction, as a bridge sends it. -/
def Sends {Buf : Type} [Flatbuffers Buf] (msgArr : Buf) : Prop := ∃ txn, msgArr = transactionMessage txn

/-- The message is a transaction, as the reader of a bridge takes it. -/
def Brings {Buf : Type} [Flatbuffers Buf] (msgArr : Buf) : Prop := ∃ txn, decode msgArr = some txn

section
variable {Buf : Type} [Flatbuffers Buf]

theorem Brings.type {msgArr : Buf} (h : Brings msgArr) : (getRoot msgArr).getType ≠ .done := by
  intro hdone
  obtain ⟨txn, hdec⟩ := h
  rw [decode_eq_none (by simp [hdone])] at hdec
  cases hdec

theorem Sends.type {msgArr : Buf} (h : Sends msgArr) : (getRoot msgArr).getType ≠ .done := by
  obtain ⟨txn, rfl⟩ := h
  simp

end

namespace Endpoint
variable {S Buf : Type} [Flatbuffers Buf]

/-- The bridge and the goroutines are at work, and nothing but transactions is on its way. -/
structure Live (c : Endpoint S Buf) : Prop where
  bridge : c.bridge.Live
  reader : c.reader = .reading ∨ ∃ msgArr, c.reader = .offering msgArr ∧ Sends msgArr
  toRouter : ∀ msgArr ∈ c.toRouter, Sends msgArr
  writer : c.writer = .waiting ∨ ∃ msgArr, c.writer = .writing msgArr ∧ Brings msgArr
  toClient : ∀ msgArr ∈ c.toClient, Brings msgArr

variable {c c' : Endpoint S Buf}

theorem Live.local? [Slave S] (h : c.Live) (hsafe : c.bridge.Safe) {e : Bridge.Event Buf} (hserving : c'.bridge.Serving)
    (hs : c.local? e = some c') : c'.Live := by
  obtain ⟨hpossible, b, hb, rfl⟩ := local?_inv hs
  have hbridge : b.Live := h.bridge.step hsafe hserving hb (by rintro write rfl; exact hpossible)
    (by rintro read rfl; exact hpossible)
  exact { h with bridge := hbridge }

theorem Live.sent (h : c.Live) (hs : c.sent = some c') : c'.Live := by
  unfold Endpoint.sent at hs
  split at hs
  · rename_i out hw
    cases hs
    have hout : Sends (out.message : Buf) := by
      rcases h.bridge.writer with hw' | ⟨tx, hw', -⟩ | ⟨txn, hw'⟩ <;> rw [hw] at hw' <;> cases hw'
      exact ⟨txn, rfl⟩
    refine { h with bridge := h.bridge.sent hw, toRouter := fun msgArr hmem => ?_ }
    simp only [h.bridge.client, if_true] at hmem
    rcases List.mem_append.mp hmem with hmem | hmem
    · exact h.toRouter msgArr hmem
    · rw [List.mem_singleton.mp hmem]
      exact hout
  · cases hs

theorem Live.receive (h : c.Live) (hs : c.receive = some c') : c'.Live := by
  unfold Endpoint.receive at hs
  split at hs
  · rw [if_pos h.bridge.client] at hs
    split at hs
    · cases hs
    · rename_i msgArr rest hdown
      cases hs
      obtain ⟨txn, hdec⟩ := h.toClient msgArr (hdown ▸ List.mem_cons_self)
      exact { h with
              bridge := h.bridge.receive hdec
              toClient := fun out hmem => h.toClient out (hdown ▸ List.mem_cons_of_mem _ hmem) }
  · cases hs

theorem Live.readMsg (h : c.Live) (hs : c.readMsg = some c') : c'.Live := by
  unfold Endpoint.readMsg at hs
  split at hs
  · rename_i msgArr rest hr hup
    cases hs
    have hsends : Sends msgArr := h.toRouter msgArr (hup ▸ List.mem_cons_self)
    rw [if_neg hsends.type]
    exact { h with
            toRouter := fun out hmem => h.toRouter out (hup ▸ List.mem_cons_of_mem _ hmem)
            reader := Or.inr ⟨msgArr, rfl, hsends⟩ }
  · cases hs

theorem Live.writeMsg (h : c.Live) (hs : c.writeMsg = some c') : c'.Live := by
  unfold Endpoint.writeMsg at hs
  split at hs
  · rename_i msgArr hw
    cases hs
    have hbrings : Brings msgArr := by
      rcases h.writer with hw' | ⟨msgArr', hw', hbrings⟩ <;> rw [hw] at hw' <;> cases hw'
      exact hbrings
    rw [if_neg hbrings.type]
    exact { h with
            toClient := fun out hmem => by
              rcases List.mem_append.mp hmem with hmem | hmem
              · exact h.toClient out hmem
              · rw [List.mem_singleton.mp hmem]
                exact hbrings
            writer := Or.inl rfl }
  · cases hs

theorem readMsg_bridge (hs : c.readMsg = some c') : c'.bridge = c.bridge := by
  unfold Endpoint.readMsg at hs
  split at hs
  · cases hs
    rfl
  · cases hs

theorem writeMsg_bridge (hs : c.writeMsg = some c') : c'.bridge = c.bridge := by
  unfold Endpoint.writeMsg at hs
  split at hs
  · cases hs
    rfl
  · cases hs

end Endpoint

/-! ### The system at work -/

namespace System
variable {S Buf : Type} [Flatbuffers Buf]

/-- No `TERMINATE` has been issued, and no thread of a bridge has returned with an error. -/
def Serving (s : System S Buf) : Prop := ∀ i < s.clients, (s.endpoints i).bridge.Serving

structure Live (s : System S Buf) : Prop where
  endpoints : ∀ i < s.clients, (s.endpoints i).Live
  route : s.route = .receiving ∨ ∃ k msgArr, s.route = .sending k msgArr ∧ k < s.clients ∧ Brings msgArr

variable {s t : System S Buf}

theorem Ready.live (h : s.Ready) : s.Live where
  endpoints i hi := by
    have hb := h.bridges i hi
    have hqueue := h.queues i hi
    obtain ⟨hup, hdown⟩ := h.sockets i hi
    exact
      { bridge :=
          { client := hb.client
            reader := Or.inl hb.reader
            writer := Or.inl hb.writer
            done := by rw [hqueue]
            items := by simp [hqueue]
            outside := fun _ => by rw [hqueue]
            awake := by simp [hqueue] }
        reader := Or.inl (h.goroutines i).1
        toRouter := by simp [hup]
        writer := Or.inl (h.goroutines i).2
        toClient := by simp [hdown] }
  route := Or.inl h.route

omit [Flatbuffers Buf] in
theorem setEndpoint_forall {P : Endpoint S Buf → Prop} {i : Nat} {c : Endpoint S Buf}
    (h : ∀ j < s.clients, P (s.endpoints j)) (hc : P c) : ∀ j < s.clients, P ((s.setEndpoint i c).endpoints j) := by
  intro j hj
  by_cases hji : j = i
  · subst hji
    rw [setEndpoint_self]
    exact hc
  · rw [setEndpoint_ne hji]
    exact h j hj

variable [Slave S]

theorem Piping.safe {C : Contract S} {own : UInt64 → Prop} (h : s.Piping C own) :
    ∀ i < s.clients, (s.endpoints i).bridge.Safe := by
  intro i hi txn tx hr hreq htx
  have hheld : (s.flow i).held = some txn := by simp [flow, Flow.deliver, Endpoint.flow, Endpoint.held, hr]
  by_cases hi0 : i = 0
  · subst hi0
    obtain ⟨k, hk⟩ := h.served
    exact hk.sound hheld hreq htx
  · rw [(h.quiet i hi hi0).held] at hheld
    cases hheld

omit [Slave S] in
/-- What an endpoint step does to an endpoint at work. -/
theorem Live.endpointStep (h : s.Live) {i : Nat} {next : Endpoint S Buf → Option (Endpoint S Buf)}
    (hs : s.endpointStep i next = some t) (hserving : t.Serving)
    (hnext : i < s.clients → ∀ c, next (s.endpoints i) = some c → c.bridge.Serving → c.Live) : t.Live := by
  obtain ⟨hi, c, hc, rfl⟩ := endpointStep_inv hs
  have hc' : c.bridge.Serving := by
    have hself := hserving i hi
    rwa [setEndpoint_self] at hself
  exact ⟨setEndpoint_forall h.endpoints (hnext hi c hc hc'), h.route⟩

omit [Slave S] in
/-- `route` takes a message and has one to hand on. -/
theorem Live.take (h : s.Live) (hwithin : s.Within) {i : Nat} {order : List IpInfo} (hi : i < s.clients)
    (hs : s.take i order = some t) : t.Live := by
  unfold System.take at hs
  split at hs
  · rename_i msgArr hreceiving hoffering
    split at hs
    · rename_i horder
      obtain ⟨out, hmsg, hout⟩ := (hwithin.flows i hi).up msgArr (offered_mem hoffering)
      have hsends : Sends msgArr := by
        rcases (h.endpoints i hi).reader with hr | ⟨msgArr', hr, hsends⟩
        · rw [hoffering] at hr
          cases hr
        · rw [hoffering] at hr
          cases hr
          exact hsends
      obtain ⟨txn, rfl⟩ := hsends
      have hlt : txn.initiator.toNat < s.router.ips.length := hout.initiator_lt hmsg.symm
      have hendpoints := setEndpoint_forall h.endpoints (P := Endpoint.Live) (i := i)
        (c := { s.endpoints i with reader := .reading }) { h.endpoints i hi with reader := Or.inl rfl }
      generalize hturn : s.router.route order (transactionMessage txn : Buf) = turn at hs
      rcases hwithin.kept.route_transaction horder hturn with ⟨target, client, hreq, -, hlt, rfl⟩ |
        ⟨err, ip, hreq, -, -, hlt, rfl⟩ | ⟨ip, -, -, hlt, rfl⟩ | ⟨hnone, -⟩
      · cases hs
        exact ⟨hendpoints, Or.inr ⟨_, _, rfl, hlt, _, decode_mutateTarget txn target⟩⟩
      · cases hs
        exact ⟨hendpoints, Or.inr ⟨_, _, rfl, hlt, _, decode_createErrorTxn hreq err⟩⟩
      · cases hs
        exact ⟨hendpoints, Or.inr ⟨_, _, rfl, hlt, _, decode_transactionMessage txn⟩⟩
      · exact absurd (List.getElem?_eq_none_iff.mp hnone) (Nat.not_le.mpr hlt)
    · cases hs
  · cases hs

omit [Slave S] in
/-- A message is handed over. -/
theorem Live.hand (h : s.Live) (hs : s.hand = some t) : t.Live := by
  rcases h.route with hroute | ⟨k, msgArr, hroute, hk, hbrings⟩
  · simp [System.hand, hroute] at hs
  · unfold System.hand at hs
    rw [hroute] at hs
    simp only at hs
    split at hs
    · cases hs
      have hwriting : ({ s.endpoints k with writer := .writing msgArr } : Endpoint S Buf).Live :=
        { h.endpoints k hk with writer := Or.inr ⟨msgArr, rfl, hbrings⟩ }
      exact ⟨setEndpoint_forall h.endpoints hwriting, Or.inl rfl⟩
    · cases hs

theorem Live.step {C : Contract S} {own : UInt64 → Prop} (h : s.Live) (hp : s.Piping C own) {e : Event Buf}
    (hserving : t.Serving) (hs : s.step e = some t) : t.Live := by
  cases e with
  | bridge i e =>
    simp only [System.step] at hs
    exact h.endpointStep hs hserving fun hi c hc hc' => (h.endpoints i hi).local? (hp.safe i hi) hc' hc
  | sent i =>
    simp only [System.step] at hs
    exact h.endpointStep hs hserving fun hi c hc _ => (h.endpoints i hi).sent hc
  | receive i =>
    simp only [System.step] at hs
    exact h.endpointStep hs hserving fun hi c hc _ => (h.endpoints i hi).receive hc
  | readMsg i =>
    simp only [System.step] at hs
    split at hs
    · exact h.endpointStep hs hserving fun hi c hc _ => (h.endpoints i hi).readMsg hc
    · cases hs
  | take i order =>
    simp only [System.step] at hs
    split at hs
    · exact h.take hp.within ‹_› hs
    · cases hs
  | hand => exact h.hand hs
  | writeMsg i =>
    simp only [System.step] at hs
    split at hs
    · exact h.endpointStep hs hserving fun hi c hc _ => (h.endpoints i hi).writeMsg hc
    · cases hs

/-! ### The sessions so far -/

omit [Slave S] in
theorem take_bridges {i : Nat} {order : List IpInfo} (hs : s.take i order = some t) :
    t.clients = s.clients ∧ ∀ j, (t.endpoints j).bridge = (s.endpoints j).bridge := by
  unfold System.take at hs
  split at hs
  · rename_i msgArr hreceiving hoffering
    split at hs
    · obtain ⟨n, hn⟩ := s.router.route_router order msgArr
      generalize s.router.route order msgArr = turn at hs hn
      obtain ⟨router, routed⟩ := turn
      cases hs
      have hrouter : router = { s.router with masterCount := n } := hn
      refine ⟨by rw [clients, hrouter, clients], fun j => ?_⟩
      by_cases hji : j = i
      · subst hji
        simp only [setEndpoint_self]
      · simp only [setEndpoint_ne hji]
    · cases hs
  · cases hs

omit [Slave S] in
theorem hand_bridges (hs : s.hand = some t) :
    t.clients = s.clients ∧ ∀ j, (t.endpoints j).bridge = (s.endpoints j).bridge := by
  have hset : ∀ i msgArr j,
      ((s.setEndpoint i { s.endpoints i with writer := .writing msgArr }).endpoints j).bridge = (s.endpoints j).bridge := by
    intro i msgArr j
    by_cases hji : j = i
    · subst hji
      rw [setEndpoint_self]
    · rw [setEndpoint_ne hji]
  unfold System.hand at hs
  split at hs
  · split at hs
    · cases hs
      exact ⟨rfl, hset _ _⟩
    · cases hs
  · split at hs
    · cases hs
      exact ⟨rfl, hset _ _⟩
    · cases hs
  · cases hs

/-- What the event is to the bridge of the client with this number. -/
inductive Event.Drives {Buf : Type} : Event Buf → Nat → Bridge.Event Buf → Prop where
  | bridge (i : Nat) (e : Bridge.Event Buf) (hsent : ∀ write, e ≠ .sent write) : Drives (.bridge i e) i e
  | sent (i : Nat) : Drives (.sent i) i (.sent (.ok ()))
  | receive (i : Nat) (read : RouterClient.Received Buf) : Drives (.receive i) i (.receive read)

/-- A step of the system is one of a bridge, or leaves the bridges alone. -/
theorem bridge_of_step {e : Event Buf} (hs : s.step e = some t) : t.clients = s.clients ∧
    ((∀ j, (t.endpoints j).bridge = (s.endpoints j).bridge) ∨
      ∃ i < s.clients, ∃ e', e.Drives i e' ∧ (s.endpoints i).bridge.step e' = some (t.endpoints i).bridge ∧
        ∀ j, j ≠ i → t.endpoints j = s.endpoints j) := by
  have hdrives : ∀ {i : Nat} {next : Endpoint S Buf → Option (Endpoint S Buf)}, s.endpointStep i next = some t →
      (∀ c, next (s.endpoints i) = some c → ∃ e', e.Drives i e' ∧ (s.endpoints i).bridge.step e' = some c.bridge) →
      t.clients = s.clients ∧ ((∀ j, (t.endpoints j).bridge = (s.endpoints j).bridge) ∨
        ∃ i < s.clients, ∃ e', e.Drives i e' ∧ (s.endpoints i).bridge.step e' = some (t.endpoints i).bridge ∧
          ∀ j, j ≠ i → t.endpoints j = s.endpoints j) := by
    intro i next hnext hbridge
    obtain ⟨hi, c, hc, rfl⟩ := endpointStep_inv hnext
    obtain ⟨e', he, hstep⟩ := hbridge c hc
    refine ⟨rfl, Or.inr ⟨i, hi, e', he, ?_, fun j hji => setEndpoint_ne hji⟩⟩
    rw [setEndpoint_self]
    exact hstep
  have hsame : ∀ {i : Nat} {next : Endpoint S Buf → Option (Endpoint S Buf)}, s.endpointStep i next = some t →
      (∀ c, next (s.endpoints i) = some c → c.bridge = (s.endpoints i).bridge) →
      t.clients = s.clients ∧ ∀ j, (t.endpoints j).bridge = (s.endpoints j).bridge := by
    intro i next hnext hbridge
    obtain ⟨hi, c, hc, rfl⟩ := endpointStep_inv hnext
    refine ⟨rfl, fun j => ?_⟩
    by_cases hji : j = i
    · subst hji
      rw [setEndpoint_self]
      exact hbridge c hc
    · rw [setEndpoint_ne hji]
  cases e with
  | bridge i e =>
    simp only [System.step] at hs
    refine hdrives hs fun c hc => ?_
    obtain ⟨hpossible, b, hb, rfl⟩ := Endpoint.local?_inv hc
    refine ⟨e, .bridge i e ?_, hb⟩
    rintro write rfl
    exact hpossible
  | sent i =>
    simp only [System.step] at hs
    refine hdrives hs fun c hc => ?_
    unfold Endpoint.sent at hc
    split at hc
    · rename_i out hw
      cases hc
      exact ⟨_, .sent i, by simp [Bridge.step, hw]⟩
    · cases hc
  | receive i =>
    simp only [System.step] at hs
    refine hdrives hs fun c hc => ?_
    unfold Endpoint.receive at hc
    split at hc
    · rename_i hr
      split at hc
      · split at hc
        · cases hc
        · rename_i msgArr rest hdown
          cases hc
          exact ⟨_, .receive i (.ok msgArr), by simp [Bridge.step, hr]⟩
      · cases hc
        exact ⟨_, .receive i (.error ""), by simp [Bridge.step, hr]⟩
    · cases hc
  | readMsg i =>
    simp only [System.step] at hs
    split at hs
    · exact (hsame hs fun c hc => Endpoint.readMsg_bridge hc).imp_right Or.inl
    · cases hs
  | take i order =>
    simp only [System.step] at hs
    split at hs
    · exact (take_bridges hs).imp_right Or.inl
    · cases hs
  | hand => exact (hand_bridges hs).imp_right Or.inl
  | writeMsg i =>
    simp only [System.step] at hs
    split at hs
    · exact (hsame hs fun c hc => Endpoint.writeMsg_bridge hc).imp_right Or.inl
    · cases hs

theorem Serving.before (h : t.Serving) {e : Event Buf} (hs : s.step e = some t) : s.Serving := by
  obtain ⟨hclients, hsame | ⟨i, hi, e', -, he', hothers⟩⟩ := bridge_of_step hs
  · intro j hj
    rw [← hsame j]
    exact h j (hclients ▸ hj)
  · intro j hj
    have hserving := h j (hclients ▸ hj)
    by_cases hji : j = i
    · subst hji
      exact hserving.before he'
    · rwa [hothers j hji] at hserving

end System

/-! ### Sockets of bounded capacity -/

/-- How many messages fit into the socket of each client, in each direction. -/
structure Capacity where
  toRouter : Nat → Nat
  toClient : Nat → Nat
  toRouter_pos : ∀ i, 0 < toRouter i
  toClient_pos : ∀ i, 0 < toClient i

/-- Requests of all kinds. -/
def unrestricted (S : Type) [Slave S] : Contract S where
  issues _ x := x.target = 0
  foreign _ := True
  admits _ := True
  refuses _ := True
  slaves _ _ := True
  answers _ _ _ := True
  target h := h
  serve _ _ _ _ := ⟨trivial, trivial⟩
  drop _ _ := trivial
  serveForeign _ _ _ := trivial

/-- Those for which a reader finds room. -/
def Transaction.Fits (txn : Transaction) : Prop := txn.type = .readReq → txn.size.toNat ≤ maxSize

/-- Reads that a reader finds room for, and writes. -/
def fitting (S : Type) [Slave S] : Contract S where
  issues _ x := x.target = 0 ∧ x.Fits
  foreign y := y.Fits
  admits _ := True
  refuses _ := True
  slaves _ _ := True
  answers _ _ _ := True
  target h := h.1
  serve _ _ _ _ := ⟨trivial, trivial⟩
  drop _ _ := trivial
  serveForeign _ _ _ := trivial

namespace System
variable {S Buf : Type} [Slave S] [Flatbuffers Buf]

/-- A send operation on a socket waits for room in it. -/
def Room (cap : Capacity) (s : System S Buf) : Event Buf → Prop
  | .sent i => (s.endpoints i).bridge.client.state = .started → (s.endpoints i).toRouter.length < cap.toRouter i
  | .writeMsg i => (s.endpoints i).toClient.length < cap.toClient i
  | _ => True

instance (cap : Capacity) (s : System S Buf) (e : Event Buf) : Decidable (s.Room cap e) :=
  match e with
  | .sent _ => inferInstanceAs (Decidable (_ = _ → _ < _))
  | .writeMsg _ => inferInstanceAs (Decidable (_ < _))
  | .bridge _ _ | .receive _ | .readMsg _ | .take _ _ | .hand => isTrue trivial

def boundedStep (cap : Capacity) (s : System S Buf) (e : Event Buf) : Option (System S Buf) :=
  if s.Room cap e then s.step e else none

/-- A step of a reader, of a writer, or of `route`. A writer that sleeps in `pop` is woken by the end of the `push`
    that it sleeps over. -/
def Event.OfThread : Event Buf → Prop
  | .bridge _ (.read ..) | .bridge _ (.write ..) | .bridge _ (.terminate _) | .bridge _ .spurious => False
  | _ => True

end System

/-- There is an item in the queue, a message in a socket, or one that a thread or a goroutine has. -/
def Endpoint.Pending {S Buf : Type} (c : Endpoint S Buf) : Prop :=
  c.bridge.queue.items ≠ [] ∨ c.toRouter ≠ [] ∨ c.toClient ≠ [] ∨
    (∃ txn, c.bridge.readerThread = some (.holding txn)) ∨ (∃ tx, c.bridge.writerThread = some (.holding tx)) ∨
    (∃ out, c.bridge.writerThread = some (.sending out)) ∨ (∃ msgArr, c.reader = .offering msgArr) ∨
    ∃ msgArr, c.writer = .writing msgArr

namespace System
variable {S Buf : Type} [Slave S] [Flatbuffers Buf]

def Pending (s : System S Buf) : Prop :=
  (∃ i < s.clients, (s.endpoints i).Pending) ∨ (∃ k msgArr, s.route = .sending k msgArr) ∨ ∃ k, s.route = .sendDone k

/-- Some reader, some writer or `route` can make a step. -/
def CanStep (cap : Capacity) (s : System S Buf) : Prop := ∃ e t, e.OfThread ∧ s.boundedStep cap e = some t

/-- The next step of a reader ends its process, as a `resize` throws. -/
def Throwing (s : System S Buf) : Prop :=
  ∃ i < s.clients, ∃ txn, (s.endpoints i).bridge.readerThread = some (.holding txn) ∧ (s.endpoints i).bridge.Throws txn

/-- Some reader, some writer or `route` can make a step, be it the last one of its process. -/
def Enabled (cap : Capacity) (s : System S Buf) : Prop := s.CanStep cap ∨ s.Throwing

variable {s t : System S Buf} {cap : Capacity} {i : Nat}

theorem boundedStep_step {e : Event Buf} (h : s.boundedStep cap e = some t) : s.step e = some t := by
  unfold boundedStep at h
  split at h
  · exact h
  · cases h

omit [Slave S] in
theorem Live.running (h : s.Live) : s.running = true := by
  rcases h.route with hroute | ⟨k, msgArr, hroute, -⟩ <;> simp [System.running, hroute]

theorem canStep_of_step (e : Event Buf) (hthread : e.OfThread) (hroom : s.Room cap e) (h : ∃ t, s.step e = some t) :
    s.CanStep cap := by
  obtain ⟨t, ht⟩ := h
  exact ⟨e, t, hthread, (if_pos hroom).trans ht⟩

omit [Slave S] [Flatbuffers Buf] in
theorem endpointStep_of {next : Endpoint S Buf → Option (Endpoint S Buf)} (hi : i < s.clients)
    (h : ∃ c, next (s.endpoints i) = some c) : ∃ t, s.endpointStep i next = some t := by
  obtain ⟨c, hc⟩ := h
  exact ⟨s.setEndpoint i c, by simp [endpointStep, hi, hc]⟩

/-- A step of the bridge that no socket takes part in. -/
theorem canStep_bridge (e : Bridge.Event Buf) (hthread : (Event.bridge i e).OfThread) (hi : i < s.clients)
    (hpossible : (s.endpoints i).Possible e) (h : ∃ b, (s.endpoints i).bridge.step e = some b) : s.CanStep cap := by
  obtain ⟨b, hb⟩ := h
  have hnext : ∃ t, s.endpointStep i (fun c => c.local? e) = some t :=
    endpointStep_of hi ⟨{ s.endpoints i with bridge := b }, by simp [Endpoint.local?, hpossible, hb]⟩
  exact canStep_of_step (.bridge i e) hthread trivial hnext

theorem canStep_process (hi : i < s.clients) {txn : Transaction}
    (hr : (s.endpoints i).bridge.readerThread = some (.holding txn)) (hsize : ¬(s.endpoints i).bridge.Throws txn) :
    s.CanStep cap :=
  canStep_bridge .process trivial hi trivial (by simp [Bridge.step, hr, hsize])

theorem Live.canStep_receive (h : s.Live) (hi : i < s.clients)
    (hr : (s.endpoints i).bridge.readerThread = some .receiving) (hdown : (s.endpoints i).toClient ≠ []) :
    s.CanStep cap := by
  obtain ⟨msgArr, rest, hdown⟩ := List.exists_cons_of_ne_nil hdown
  have hnext : ∃ t, s.endpointStep i (fun c => c.receive) = some t :=
    endpointStep_of hi (by simp [Endpoint.receive, hr, (h.endpoints i hi).bridge.client, hdown])
  exact canStep_of_step (.receive i) trivial trivial hnext

theorem Live.canStep_writeMsg (h : s.Live) (hi : i < s.clients) {msgArr : Buf}
    (hw : (s.endpoints i).writer = .writing msgArr) (hdown : (s.endpoints i).toClient = []) : s.CanStep cap := by
  have hroom : s.Room cap (.writeMsg i) := by
    rw [Room, hdown]
    exact cap.toClient_pos i
  have hnext : ∃ t, s.endpointStep i (fun c => c.writeMsg) = some t :=
    endpointStep_of hi (by simp [Endpoint.writeMsg, hw])
  exact canStep_of_step (.writeMsg i) trivial hroom (by simpa [System.step, h.running] using hnext)

theorem canStep_hand {k : Nat} {msgArr : Buf} (hroute : s.route = .sending k msgArr)
    (hw : (s.endpoints k).writer = .waiting) : s.CanStep cap :=
  canStep_of_step .hand trivial trivial (by simp [System.step, System.hand, hroute, Endpoint.listening, hw])

theorem canStep_take (hi : i < s.clients) {msgArr : Buf} (hroute : s.route = .receiving)
    (hr : (s.endpoints i).reader = .offering msgArr) : s.CanStep cap := by
  have horder : s.router.IterationOrder (s.router.ipMMap.map Prod.snd) := List.Perm.refl _
  exact canStep_of_step (.take i (s.router.ipMMap.map Prod.snd)) trivial trivial
    (by simp [System.step, hi, System.take, hroute, hr, horder])

theorem Live.canStep_readMsg (h : s.Live) (hi : i < s.clients) (hr : (s.endpoints i).reader = .reading)
    (hup : (s.endpoints i).toRouter ≠ []) : s.CanStep cap := by
  obtain ⟨msgArr, rest, hup⟩ := List.exists_cons_of_ne_nil hup
  have hnext : ∃ t, s.endpointStep i (fun c => c.readMsg) = some t :=
    endpointStep_of hi (by simp [Endpoint.readMsg, hr, hup])
  exact canStep_of_step (.readMsg i) trivial trivial (by simpa [System.step, h.running] using hnext)

theorem canStep_sent (hi : i < s.clients) {out : Outgoing}
    (hw : (s.endpoints i).bridge.writerThread = some (.sending out)) (hup : (s.endpoints i).toRouter = []) :
    s.CanStep cap := by
  have hroom : s.Room cap (.sent i) := by
    rw [Room, hup]
    exact fun _ => cap.toRouter_pos i
  have hnext : ∃ t, s.endpointStep i (fun c => c.sent) = some t := endpointStep_of hi (by simp [Endpoint.sent, hw])
  exact canStep_of_step (.sent i) trivial hroom hnext

theorem canStep_dispatch (hi : i < s.clients) {tx : Master.Txn}
    (hw : (s.endpoints i).bridge.writerThread = some (.holding tx)) : s.CanStep cap :=
  canStep_bridge .dispatch trivial hi trivial (by simp [Bridge.step, hw])

/-- The writer gets to an item in its queue. -/
theorem Live.canStep_pop (h : s.Live) (hi : i < s.clients)
    (hw : (s.endpoints i).bridge.writerThread = some .popping) (hitems : (s.endpoints i).bridge.queue.items ≠ []) :
    s.CanStep cap := by
  have hawake := (h.endpoints i hi).bridge.awake hitems
  cases hwaiter : (s.endpoints i).bridge.queue.condVar.waiter with
  | outside => exact canStep_bridge .pop trivial hi trivial (by simp [Bridge.step, hw, Queue.pop, hwaiter])
  | woken =>
    have hdone := (h.endpoints i hi).bridge.done
    exact canStep_bridge .resume trivial hi trivial (by simp [Bridge.step, hw, Queue.resume, hwaiter, hdone])
  | blocked =>
    obtain ⟨c, hc, -⟩ := CondVar.notify_of_blocked hwaiter fun hzero => hawake ⟨hwaiter, hzero⟩
    exact canStep_bridge .notify trivial hi trivial (by simp [Bridge.step, Queue.notify, hc])

/-- From the readers of the bridges back to their writers: whatever waits for something waits for a later stage, and
    the last stage waits for nothing. -/
theorem Live.canStep (h : s.Live) (hpending : s.Pending) (hsize : ¬s.Throwing) : s.CanStep cap := by
  by_cases hheld : ∃ i < s.clients, ∃ txn, (s.endpoints i).bridge.readerThread = some (.holding txn)
  · obtain ⟨i, hi, txn, hr⟩ := hheld
    exact canStep_process hi hr fun hthrows => hsize ⟨i, hi, txn, hr, hthrows⟩
  have hreader : ∀ i < s.clients, (s.endpoints i).bridge.readerThread = some .receiving := fun i hi =>
    (h.endpoints i hi).bridge.reader.resolve_right fun hr => hheld ⟨i, hi, hr⟩
  by_cases hdown : ∃ i < s.clients, (s.endpoints i).toClient ≠ []
  · obtain ⟨i, hi, hdown⟩ := hdown
    exact h.canStep_receive hi (hreader i hi) hdown
  have hdown : ∀ i < s.clients, (s.endpoints i).toClient = [] := by simpa using hdown
  by_cases hwriting : ∃ i < s.clients, ∃ msgArr, (s.endpoints i).writer = .writing msgArr
  · obtain ⟨i, hi, msgArr, hw⟩ := hwriting
    exact h.canStep_writeMsg hi hw (hdown i hi)
  have hwaiting : ∀ i < s.clients, (s.endpoints i).writer = .waiting := fun i hi =>
    (h.endpoints i hi).writer.resolve_right fun ⟨msgArr, hw, _⟩ => hwriting ⟨i, hi, msgArr, hw⟩
  rcases h.route with hroute | ⟨k, msgArr, hroute, hk, -⟩
  swap
  · exact canStep_hand hroute (hwaiting k hk)
  by_cases hoffering : ∃ i < s.clients, ∃ msgArr, (s.endpoints i).reader = .offering msgArr
  · obtain ⟨i, hi, msgArr, hr⟩ := hoffering
    exact canStep_take hi hroute hr
  have hreading : ∀ i < s.clients, (s.endpoints i).reader = .reading := fun i hi =>
    (h.endpoints i hi).reader.resolve_right fun ⟨msgArr, hr, _⟩ => hoffering ⟨i, hi, msgArr, hr⟩
  by_cases hup : ∃ i < s.clients, (s.endpoints i).toRouter ≠ []
  · obtain ⟨i, hi, hup⟩ := hup
    exact h.canStep_readMsg hi (hreading i hi) hup
  have hup : ∀ i < s.clients, (s.endpoints i).toRouter = [] := by simpa using hup
  -- What is pending is with the writer of a bridge, or in its queue.
  rcases hpending with ⟨i, hi, hpending⟩ | ⟨k, msgArr, hsending⟩ | ⟨k, hsending⟩
  · rcases (h.endpoints i hi).bridge.writer with hw | ⟨tx, hw, -⟩ | ⟨txn, hw⟩
    · refine h.canStep_pop hi hw ?_
      simpa [Endpoint.Pending, hup i hi, hdown i hi, hreader i hi, hw, hreading i hi, hwaiting i hi] using hpending
    · exact canStep_dispatch hi hw
    · exact canStep_sent hi hw (hup i hi)
  · rw [hroute] at hsending
    cases hsending
  · rw [hroute] at hsending
    cases hsending

theorem Live.enabled (h : s.Live) (hpending : s.Pending) : s.Enabled cap := by
  by_cases hthrowing : s.Throwing
  · exact Or.inr hthrowing
  · exact Or.inl (h.canStep hpending hthrowing)

/-- A request that a reader holds is one that was issued. -/
theorem Piping.not_throwing {own : UInt64 → Prop} (h : s.Piping (fitting S) own) : ¬s.Throwing := by
  rintro ⟨i, hi, txn, hr, hread, -, hsize⟩
  have hheld : (s.flow i).held = some txn := by simp [flow, Flow.deliver, Endpoint.flow, Endpoint.held, hr]
  by_cases hi0 : i = 0
  swap
  · rw [(h.quiet i hi hi0).held] at hheld
    cases hheld
  subst hi0
  obtain ⟨k, hk⟩ := h.served
  have hadmitted := hk.held
  rw [hheld] at hadmitted
  obtain ⟨o, -, ho, -, -⟩ := List.forall₂_cons_right_iff.mp hadmitted
  have hfits : txn.Fits := by
    cases ho.bears with
    | request p x hx =>
      obtain ⟨-, -, bytes, huser⟩ := hk.tracked.users x (List.mem_of_getElem? hx)
      exact huser.2
    | refused p x err hx hreq =>
      have hresponse := (errorResponse_answers (y := sentAs (s.flow 0).ledger.issued p x) hreq err).isRequest
      rw [hread] at hresponse
      cases hresponse
    | response p x r hx hanswers =>
      have hresponse := hanswers.isRequest
      rw [hread] at hresponse
      cases hresponse
    | stray y hstray => exact (hstray.request (by rw [hread]; rfl)).1
  exact absurd (hfits hread) (Nat.not_le.mpr hsize)

omit [Flatbuffers Buf] in
theorem keeps_unrestricted (e : Event Buf) : s.Keeps (unrestricted S).users e := by
  cases e with
  | bridge i e => cases e <;> first | exact rfl | trivial
  | _ => trivial

/-- In every run of a router with its clients, over sockets of any capacity: as long as no `TERMINATE` has been issued
    and no reader or writer of a bridge has returned with an error, whatever is pending, some reader, some writer or
    `route` can make a step. -/
theorem no_deadlock (hs : s.Opened) {es : List (Event Buf)} (hr : run (boundedStep cap) s es = some t)
    (hserving : t.Serving) (hpending : t.Pending) : t.Enabled cap := by
  obtain ⟨own, hpiping⟩ : ∃ own, s.Piping (unrestricted S) own :=
    ⟨_, hs.ready.piping (fun order _ bytes x _ => by split <;> trivial) (fun _ _ _ _ _ _ _ => trivial) trivial⟩
  have keep : ∀ (s : System S Buf) e t, (s.Piping (unrestricted S) own ∧ (s.Serving → s.Live)) →
      s.boundedStep cap e = some t → t.Piping (unrestricted S) own ∧ (t.Serving → t.Live) := by
    rintro s e t ⟨hp, hlive⟩ hs
    have hs := boundedStep_step hs
    exact ⟨hp.step (keeps_unrestricted e) hs, fun hserving => (hlive (hserving.before hs)).step hp hserving hs⟩
  have hrun := run_invariant keep ⟨hpiping, fun _ => hs.ready.live⟩ hr
  exact (hrun.2 hserving).enabled hpending

/-- Room for a single message everywhere. -/
def Capacity.single : Capacity where
  toRouter _ := 1
  toClient _ := 1
  toRouter_pos _ := Nat.one_pos
  toClient_pos _ := Nat.one_pos

/-- The writer has a second request to send, and the first fills the socket. -/
def socketFull : List (Event Wire.Message) :=
  let readTwo := .bridge 0 (.read 1 { data := [0, 0], size := 2, address := 0x1000 })
  [readTwo, readTwo, .bridge 0 .pop, .bridge 0 .dispatch, .sent 0, .bridge 0 .pop, .bridge 0 .dispatch]

theorem no_deadlock_socketFull :
    (run (boundedStep Capacity.single) opened (socketFull ++ [.sent 0])).isNone = true ∧
      ∃ t, run (boundedStep Capacity.single) opened socketFull = some t ∧ t.Enabled Capacity.single := by
  let second : Transaction := { type := .readReq, initiator := 1, id := 1, address := 0x1000, size := 2, ok := true }
  have hrun : (run (boundedStep Capacity.single) opened socketFull).map (fun t => (t.clients,
      (t.endpoints 0).bridge.history.terminated, (t.endpoints 0).bridge.readerThread,
      (t.endpoints 0).bridge.writerThread)) =
      some (1, [], some .receiving, some (.sending (.transaction second))) := by decide
  obtain ⟨t, hr, heq⟩ := Option.map_eq_some_iff.mp hrun
  simp only [Prod.mk.injEq] at heq
  obtain ⟨hclients, hterminated, hreader, hw⟩ := heq
  have hserving : t.Serving := fun i hi => by
    obtain rfl : i = 0 := by omega
    exact ⟨hterminated, by simp [hreader], by simp [hw]⟩
  have hpending : t.Pending := Or.inl ⟨0, by omega, by simp [Endpoint.Pending, hw]⟩
  exact ⟨by decide, t, hr, no_deadlock opened_opened hr hserving hpending⟩

end System

end SwAxi
