import SwAxi.Progress
import SwAxi.Account
import SwAxi.Effort

/-! Every request gets its response: the requests that wait for theirs are no more than the messages under way, so that
none is left waiting when the threads and the goroutines have come to rest. -/

namespace SwAxi
open Wire (Flatbuffers)
open Wire.Flatbuffers (getRoot)
open RouterClient (decode transactionMessage)
open Bridge (serve)
open Transition
open Total

/-! ### Pending requests -/

namespace Ledger
variable {l : Ledger}

theorem pending_issue (l : Ledger) (waiting : List Master.Txn) (txn : Transaction) :
    ({ l with waiting, issued := l.issued ++ [txn] } : Ledger).pending ≤ l.pending + 1 := by
  have hlast : ∀ (q : Nat → Bool) n, (List.range (n + 1)).countP q ≤ (List.range n).countP q + 1 := by
    intro q n
    rw [List.range_succ, List.countP_append, List.countP_singleton]
    split <;> omega
  unfold pending
  rw [List.length_append, List.length_singleton]
  exact hlast _ _

theorem countP_range_clear {q q' : Nat → Bool} {p n : Nat} (hp : p < n) (hq : q p = true) (hq' : q' p = false)
    (hne : ∀ j, j ≠ p → q' j = q j) : (List.range n).countP q' + 1 = (List.range n).countP q := by
  induction n with
  | zero => omega
  | succ n ih =>
    rw [List.range_succ, List.countP_append, List.countP_append, List.countP_singleton, List.countP_singleton]
    by_cases hpn : p = n
    · subst hpn
      have hsame : (List.range p).countP q' = (List.range p).countP q :=
        List.countP_congr fun j hj => by rw [hne j (Nat.ne_of_lt (List.mem_range.mp hj))]
      simp [hsame, hq, hq']
    · have hrest := ih (by omega)
      rw [hne n (Ne.symm hpn)]
      omega

/-- A promise that is set leaves one request less. -/
theorem pending_resolve {p : Nat} (hp : p < l.issued.length) (hf : l.futures p = none) (response : Transaction) :
    (l.resolve p response).pending + 1 = l.pending := by
  refine countP_range_clear hp (by rw [hf]; rfl) ?_ fun j hj => ?_
  · rw [resolve_futures_self]
    rfl
  · rw [resolve_futures_of_ne hj]

/-- The request of an outstanding entry has been issued. -/
theorem Booked.promise_lt (h : l.Booked) {m id : UInt64} {tx : Master.Txn} (htx : (l.masters m).txns id = some tx)
    {p : Nat} (hp : tx.promise = some p) : p < l.issued.length := by
  obtain ⟨p', hp', hassigned, -⟩ := h.outstanding m id tx htx
  rw [hp] at hp'
  cases hp'
  obtain ⟨txn, htxn, -⟩ := h.owner p m id hassigned
  exact (List.getElem?_eq_some_iff.mp htxn).1

end Ledger

/-! ### What is under way -/

namespace Flow
variable {S Buf : Type}

def pending (f : Flow S Buf) : Nat := f.ledger.pending

/-- The items and messages of the flow. -/
def load (f : Flow S Buf) : Nat :=
  f.ledger.waiting.length + f.up.length + f.down.length + f.held.toList.length

/-- No request is left without something under way. -/
def Conserves (f f' : Flow S Buf) : Prop := f'.pending + f.load ≤ f.pending + f'.load

section
variable {f f' : Flow S Buf}

theorem Conserves.refl (f : Flow S Buf) : f.Conserves f := le_rfl

theorem conserves_of_load (hpending : f'.pending = f.pending) (hload : f.load ≤ f'.load) :
    f.Conserves f' := by
  rw [Conserves, hpending]
  omega

theorem load_deliver (f : Flow S Buf) (msgs : List Buf) : (f.deliver msgs).load = f.load + msgs.length := by
  simp only [load, Flow.deliver, List.length_append]
  omega

theorem pending_deliver (f : Flow S Buf) (msgs : List Buf) : (f.deliver msgs).pending = f.pending := rfl

theorem Conserves.deliver (h : f.Conserves f') (msgs : List Buf) : (f.deliver msgs).Conserves (f'.deliver msgs) := by
  unfold Conserves at h ⊢
  rw [load_deliver, load_deliver, pending_deliver, pending_deliver]
  omega

/-- Nothing that the reader holds is dropped, and nothing else gets lost between threads at work. -/
theorem Step.conserves [Slave S] [Flatbuffers Buf] {U : Users} (h : Step U f f') (hintact : f.intact = true)
    (hup : ∀ msgArr ∈ f.up, (getRoot msgArr).getType ≠ .done) (hdown : ∀ msgArr ∈ f.down, Brings msgArr)
    (hheld : f.held ≠ none → f'.held ≠ none) : f.Conserves f' := by
  cases h with
  | stay => exact .refl f
  | issue bytes txn =>
    have hpending : (f.issue bytes txn).pending ≤ f.pending + 1 := Ledger.pending_issue _ _ _
    have hload : (f.issue bytes txn).load = f.load + 1 := by
      simp only [load, Flow.issue, List.length_append, List.length_singleton]
      omega
    unfold Conserves
    omega
  | terminate m =>
    refine conserves_of_load rfl ?_
    simp only [load, Flow.push, List.length_append]
    omega
  | termination tx rest hw =>
    refine conserves_of_load rfl ?_
    simp only [load, Flow.send, hw, List.length_append, List.length_cons, List.length_nil]
    omega
  | request tx rest hw =>
    refine conserves_of_load rfl ?_
    simp only [load, Flow.assign, Ledger.assign_waiting, hw, List.length_append, List.length_cons, List.length_nil]
    omega
  | response tx rest hw =>
    refine conserves_of_load rfl ?_
    simp only [load, Flow.send, hw, List.length_append, List.length_cons, List.length_nil]
    omega
  | logout =>
    refine conserves_of_load rfl ?_
    simp only [load, List.length_append]
    omega
  | lose up msgArr hlast hlost => exact absurd hintact (by simp [hlost])
  | leave msgArr rest hfront htype => exact absurd htype (hup msgArr (by simp [hfront]))
  | receive msgArr rest txn hfront hdec hnone =>
    refine conserves_of_load rfl ?_
    simp only [load, hfront, hnone, List.length_cons, Option.toList_none, Option.toList_some, List.length_nil]
    omega
  | finish msgArr rest hfront htype => exact absurd htype (hdown msgArr (by simp [hfront])).type
  | reject msgArr rest intact hfront hdec =>
    obtain ⟨txn, hbrings⟩ := hdown msgArr (by simp [hfront])
    rw [hdec] at hbrings
    cases hbrings
  | serve txn s hsome => exact absurd rfl (hheld (by simp [hsome]))
  | unknownSlave txn hsome => exact absurd rfl (hheld (by simp [hsome]))
  | unknownRequest txn hsome => exact absurd rfl (hheld (by simp [hsome]))
  | crash txn tx buffers hsome => exact absurd rfl (hheld (by simp [hsome]))
  | resolve txn tx p hsome => exact absurd rfl (hheld (by simp [hsome]))

end

end Flow

/-! ### Endpoints -/

namespace Endpoint
variable {S Buf : Type} [Flatbuffers Buf] {c c' : Endpoint S Buf}

theorem Live.up_type (h : c.Live) : ∀ msgArr ∈ c.flow.up, (getRoot msgArr).getType ≠ .done := by
  intro msgArr hmem
  rcases List.mem_append.mp hmem with hmem | hmem
  · rcases List.mem_append.mp hmem with hmem | hmem
    · rcases h.reader with hr | ⟨offered, hr, hsends⟩
      · simp [offered, hr] at hmem
      · obtain rfl : msgArr = offered := by simpa [Endpoint.offered, hr] using hmem
        exact hsends.type
    · exact (h.toRouter msgArr hmem).type
  · rcases h.bridge.writer with hw | ⟨tx, hw, -⟩ | ⟨txn, hw⟩
    · simp [sending, hw] at hmem
    · simp [sending, hw] at hmem
    · obtain rfl : msgArr = transactionMessage txn := by simpa [sending, hw, Outgoing.message] using hmem
      simp

theorem Live.down_brings (h : c.Live) : ∀ msgArr ∈ c.flow.down, Brings msgArr := by
  intro msgArr hmem
  rcases List.mem_append.mp hmem with hmem | hmem
  · exact h.toClient msgArr hmem
  · rcases h.writer with hw | ⟨written, hw, hbrings⟩
    · simp [written, hw] at hmem
    · obtain rfl : msgArr = written := by simpa [Endpoint.written, hw] using hmem
      exact hbrings

theorem Live.intact (h : c.Live) : c.flow.intact = true := by simp [flow, h.bridge.client]

/-- A step by which the reader does not deal with what it has. -/
theorem Live.conserves [Slave S] (h : c.Live) {U : Users} (hs : Flow.Step U c.flow c'.flow)
    (hheld : c.held ≠ none → c'.held ≠ none) : c.flow.Conserves c'.flow :=
  hs.conserves h.intact h.up_type h.down_brings hheld

/-- A reader at work has neither returned nor crashed. -/
theorem Live.reader_at_work (h : c.Live) :
    c.bridge.readerThread ≠ some .returned ∧ c.bridge.readerThread ≠ some .crashed := by
  rcases h.bridge.reader with hr | ⟨txn, hr⟩ <;> simp [hr]

/-- The reader passes a request on to its slave, or sets the promise of a response. -/
theorem conserves_process [Slave S] (hbooked : c.bridge.ledger.Booked) {txn : Transaction}
    (hr : c.bridge.readerThread = some (.holding txn))
    (hlive : ({ c with bridge := c.bridge.readerProcess txn } : Endpoint S Buf).Live) :
    c.flow.Conserves ({ c with bridge := c.bridge.readerProcess txn } : Endpoint S Buf).flow := by
  have hheld : c.flow.held = some txn := by simp [flow, held, hr]
  obtain ⟨hreturned, hcrashed⟩ := hlive.reader_at_work
  have hexit : ∀ {st}, c.bridge.readerProcess txn ≠ c.bridge.readerExit st := fun heq =>
    hreturned (congrArg Bridge.readerThread heq)
  generalize hb : c.bridge.readerProcess txn = b at *
  unfold Bridge.readerProcess at hb
  split at hb
  · unfold Bridge.readerRequest at hb
    split at hb
    · exact absurd hb.symm hexit
    · rename_i s hs
      subst hb
      let response : Master.Txn := { type := .transaction, txn := (serve s txn).2 }
      let c' : Endpoint S Buf := { c with
        bridge := { c.bridge with
          slaveMap := Function.update c.bridge.slaveMap txn.target (some (serve s txn).1)
          queue := c.bridge.queue.push response
          readerThread := some .receiving } }
      have hwaiting : c'.flow.ledger.waiting = c.flow.ledger.waiting ++ [response] := (List.append_assoc _ _ _).symm
      have hload : c'.flow.load = c.flow.load := by
        have hup : c'.flow.up = c.flow.up := rfl
        have hdown : c'.flow.down = c.flow.down := rfl
        have hnone : c'.flow.held = none := rfl
        simp only [Flow.load, hwaiting, hup, hdown, hnone, hheld, List.length_append, Option.toList_none,
          Option.toList_some, List.length_cons, List.length_nil]
        omega
      exact (show c.flow.Conserves c'.flow from Flow.conserves_of_load rfl hload.ge)
  · unfold Bridge.readerResponse at hb
    split at hb
    · exact absurd hb.symm hexit
    · rename_i md hm
      split at hb
      · exact absurd hb.symm hexit
      · rename_i tx htx
        rcases c.bridge.resolve_cases md tx txn with ⟨-, buffers, heq⟩ | ⟨p, hp, hf, heq⟩
        · rw [heq] at hb
          subst hb
          exact absurd rfl hcrashed
        · rw [heq] at hb
          subst hb
          have hentry : (c.bridge.ledger.masters txn.initiator).txns txn.id = some tx := by
            rw [Bridge.masters_txns, hm, Option.bind_some, htx]
          have hpending : (c.bridge.ledger.resolve p txn).pending + 1 = c.bridge.ledger.pending :=
            Ledger.pending_resolve (hbooked.promise_lt hentry hp) hf txn
          let c' : Endpoint S Buf := { c with
            bridge := { c.bridge.erased md txn with
              buffers := Bridge.filled c.bridge.buffers tx txn
              futures := Function.update c.bridge.futures p (some (Bridge.responseStatus txn))
              history := { c.bridge.history with fulfilled := c.bridge.history.fulfilled ++ [(p, txn)] }
              readerThread := some .receiving } }
          have hledger : c'.flow.ledger = c.bridge.ledger.resolve p txn := Bridge.resolved_ledger hm p
          have hload : c'.flow.load + 1 = c.flow.load := by
            have hwaiting : c'.flow.ledger.waiting = c.flow.ledger.waiting := by rw [hledger]; rfl
            have hup : c'.flow.up = c.flow.up := rfl
            have hdown : c'.flow.down = c.flow.down := rfl
            have hnone : c'.flow.held = none := rfl
            simp only [Flow.load, hwaiting, hup, hdown, hnone, hheld, Option.toList_none, Option.toList_some,
              List.length_cons, List.length_nil]
          have hconserves : c.flow.Conserves c'.flow := by
            have hbefore : c.flow.pending = c.bridge.ledger.pending := rfl
            rw [Flow.Conserves, Flow.pending, hledger, hbefore]
            omega
          exact hconserves

theorem Live.conserves_local? [Slave S] (h : c.Live) (hbooked : c.bridge.ledger.Booked) (hlive : c'.Live)
    {e : Bridge.Event Buf} (hs : c.local? e = some c') : c.flow.Conserves c'.flow := by
  have hstep : Flow.Step System.anyone c.flow c'.flow := local?_flow (by cases e <;> trivial) hs
  obtain ⟨hpossible, b, hb, rfl⟩ := local?_inv hs
  -- Whatever the bridge does but for the reader's turn, the reader keeps what it has.
  have hother : b.readerThread = c.bridge.readerThread → c.flow.Conserves ({ c with bridge := b } : Endpoint S Buf).flow :=
    fun hthread => h.conserves hstep fun hheld => by
      have hsame : ({ c with bridge := b } : Endpoint S Buf).held = c.held := by simp only [held, hthread]
      rwa [hsame]
  cases Bridge.moves_of_step hb with
  | read m buffer => exact hother rfl
  | write m buffer => exact hother rfl
  | terminate m => exact hother rfl
  | notify q hq => exact hother rfl
  | spurious q hq => exact hother rfl
  | pop q r hw hq => exact hother (Bridge.byWriter_popped q r).thread
  | resume q r hw hq => exact hother (Bridge.byWriter_popped q r).thread
  | dispatch tx hw => exact hother (Bridge.byWriter_dispatch tx).thread
  | sent out write hw => exact hpossible.elim
  | receive read hr => exact hpossible.elim
  | process txn hr => exact conserves_process hbooked hr hlive

theorem Live.conserves_sent [Slave S] (h : c.Live) (hs : c.sent = some c') : c.flow.Conserves c'.flow := by
  refine h.conserves (U := System.anyone) (sent_flow hs) fun hheld => ?_
  unfold Endpoint.sent at hs
  split at hs
  · cases hs
    simp only [held, (Bridge.byWriter_sent _ _).thread] at hheld ⊢
    exact hheld
  · cases hs

theorem Live.conserves_receive [Slave S] (h : c.Live) (hs : c.receive = some c') : c.flow.Conserves c'.flow := by
  refine h.conserves (U := System.anyone) (receive_flow hs) fun hheld => ?_
  unfold Endpoint.receive at hs
  split at hs
  · exact absurd (by simp [held, *]) hheld
  · cases hs

theorem Live.conserves_readMsg [Slave S] (h : c.Live) (hs : c.readMsg = some c') : c.flow.Conserves c'.flow := by
  refine h.conserves (U := System.anyone) (readMsg_flow hs) fun hheld => ?_
  rwa [held, readMsg_bridge hs]

end Endpoint

/-! ### The system -/

namespace System
variable {S Buf : Type} [Flatbuffers Buf]

/-- No more requests wait for their responses than there are items and messages under way. -/
structure Balanced (s : System S Buf) : Prop where
  booked : ∀ i < s.clients, (s.flow i).ledger.Booked
  conserved : total s.clients Flow.pending s.flow ≤ total s.clients Flow.load s.flow

variable {s t : System S Buf}

theorem Ready.balanced (h : s.Ready) : s.Balanced where
  booked i hi := (h.bridges i hi).inv.toBooked
  conserved := by
    have hnone : ∀ i < s.clients, (s.flow i).pending = 0 := by
      intro i hi
      have hissued : (s.flow i).ledger.issued = [] := by
        show (s.endpoints i).bridge.history.issued = []
        rw [(h.bridges i hi).history]
      rw [Flow.pending, Ledger.pending, hissued]
      rfl
    rw [total_eq_zero hnone]
    exact Nat.zero_le _

variable [Slave S]

theorem Move.clients {U : Users} (h : Move U s t) : t.clients = s.clients := by
  unfold System.clients
  cases h with
  | endpoint i hi hstep hothers hrouter hroute hrecord => rw [hrouter]
  | take i order msgArr rest routed hi hreceiving hup horder hturn hroute hrecord hflow =>
    obtain ⟨n, hn⟩ := s.router.route_router order msgArr
    rw [hturn] at hn
    have hrouter : t.router = { s.router with masterCount := n } := hn
    rw [hrouter]
  | hand k msgArr hsending hroute hrouter hrecord hflow => rw [hrouter]
  | handDone k hsending hroute hrouter hrecord hflow => rw [hrouter]

theorem Move.booked {U : Users} (h : Move U s t) (hb : ∀ i < s.clients, (s.flow i).ledger.Booked) :
    ∀ i < s.clients, (t.flow i).ledger.Booked := by
  intro j hj
  cases h with
  | endpoint i hi hstep hothers hrouter hroute hrecord =>
    by_cases hji : j = i
    · subst hji
      exact (hb j hj).step hstep.ledger
    · rw [hothers j hji]
      exact hb j hj
  | take i order msgArr rest routed hi hreceiving hup horder hturn hroute hrecord hflow =>
    have hledger : (t.flow j).ledger = (s.flow j).ledger := by
      rw [hflow, Flow.pass_apply]
      by_cases hji : j = i
      · subst hji
        rw [Function.update_self]
        rfl
      · rw [Function.update_of_ne hji]
        rfl
    rw [hledger]
    exact hb j hj
  | hand k msgArr hsending hroute hrouter hrecord hflow =>
    rw [hflow]
    exact hb j hj
  | handDone k hsending hroute hrouter hrecord hflow =>
    have hledger : (t.flow j).ledger = (s.flow j).ledger := by
      rw [hflow]
      by_cases hjk : j = k
      · subst hjk
        rw [Function.update_self]
        rfl
      · rw [Function.update_of_ne hjk]
    rw [hledger]
    exact hb j hj

omit [Slave S] in
theorem Balanced.endpointStep (h : s.Balanced) {i : Nat} {next : Endpoint S Buf → Option (Endpoint S Buf)}
    (hs : s.endpointStep i next = some t)
    (hnext : i < s.clients → ∀ c, next (s.endpoints i) = some c → (s.endpoints i).flow.Conserves c.flow) :
    total t.clients Flow.pending t.flow ≤ total t.clients Flow.load t.flow := by
  obtain ⟨hi, c, hc, rfl⟩ := endpointStep_inv hs
  have hflow : (s.setEndpoint i c).flow i = c.flow.deliver (s.handing i) := by
    rw [flow, setEndpoint_self]
    rfl
  have hothers : ∀ j, j ≠ i → (s.setEndpoint i c).flow j = s.flow j := fun j hj => setEndpoint_flow_ne hj
  have hpending := total_of_others (g := Flow.pending) hi hothers
  have hload := total_of_others (g := Flow.load) hi hothers
  have hconserves : (s.flow i).Conserves ((s.setEndpoint i c).flow i) := by
    rw [hflow]
    exact (hnext hi c hc).deliver _
  have hbefore := h.conserved
  unfold Flow.Conserves at hconserves
  have hclients : (s.setEndpoint i c).clients = s.clients := rfl
  rw [hclients]
  omega

omit [Slave S] in
/-- A message that `route` takes goes on as one message. -/
theorem Balanced.take (h : s.Balanced) (hlive : s.Live) (hwithin : s.Within) {i : Nat} {order : List IpInfo}
    (hi : i < s.clients) (hs : s.take i order = some t) :
    total t.clients Flow.pending t.flow ≤ total t.clients Flow.load t.flow := by
  obtain ⟨msgArr, rest, routed, hreceiving, hoffering, hup, horder, hturn, hroute, -, hflow⟩ := take_inv hs
  obtain ⟨out, hmsg, hout⟩ := (hwithin.flows i hi).up msgArr (offered_mem hoffering)
  obtain ⟨txn, rfl⟩ : Sends msgArr := by
    rcases (hlive.endpoints i hi).reader with hr | ⟨offered, hr, hsends⟩ <;> rw [hoffering] at hr <;> cases hr
    exact hsends
  have hlt : txn.initiator.toNat < s.router.ips.length := hout.initiator_lt hmsg.symm
  obtain ⟨k, sent, hk, hclients, rfl⟩ : ∃ k sent, k < s.clients ∧ t.clients = s.clients ∧ routed = .send k sent := by
    rcases hwithin.kept.route_transaction horder hturn with ⟨target, client, -, -, hlt, heq⟩ |
      ⟨err, ip, -, -, -, hlt, heq⟩ | ⟨ip, -, -, hlt, heq⟩ | ⟨hnone, -⟩
    · obtain ⟨hrouter, rfl⟩ := Prod.mk.inj heq
      exact ⟨_, _, hlt, by rw [clients, hrouter, clients], rfl⟩
    · obtain ⟨hrouter, rfl⟩ := Prod.mk.inj heq
      exact ⟨_, _, hlt, by rw [clients, hrouter, clients], rfl⟩
    · obtain ⟨hrouter, rfl⟩ := Prod.mk.inj heq
      exact ⟨_, _, hlt, by rw [clients, hrouter, clients], rfl⟩
    · exact absurd (List.getElem?_eq_none_iff.mp hnone) (Nat.not_le.mpr hlt)
  have htaken : ((s.flow i).taken rest).load + 1 = (s.flow i).load := by
    simp only [Flow.load, Flow.taken, hup, List.length_cons]
    omega
  let taken := Function.update s.flow i ((s.flow i).taken rest)
  have hdelivered : ((taken k).deliver [sent]).load = (taken k).load + 1 := Flow.load_deliver _ _
  have hload₁ : total s.clients Flow.load taken + (s.flow i).load = total s.clients Flow.load s.flow +
      ((s.flow i).taken rest).load := total_update hi _
  have hload₂ := total_update (g := Flow.load) (F := taken) hk ((taken k).deliver [sent])
  have hpending₁ : total s.clients Flow.pending taken + (s.flow i).pending = total s.clients Flow.pending s.flow +
      ((s.flow i).taken rest).pending := total_update hi _
  have hpending₂ := total_update (g := Flow.pending) (F := taken) hk ((taken k).deliver [sent])
  have hsame₁ : ((s.flow i).taken rest).pending = (s.flow i).pending := rfl
  have hsame₂ : ((taken k).deliver [sent]).pending = (taken k).pending := rfl
  have hbefore := h.conserved
  have hpass : t.flow = Function.update taken k ((taken k).deliver [sent]) := hflow
  rw [hclients, hpass]
  omega

theorem Balanced.step {C : Contract S} {own : UInt64 → Prop} (h : s.Balanced) (hlive : s.Live) (hp : s.Piping C own)
    (hlive' : t.Live) {e : Event Buf} (hs : s.step e = some t) : t.Balanced := by
  have hmove : Move anyone s t := step_move (keeps_anyone e) hs
  have hclients : t.clients = s.clients := hmove.clients
  refine ⟨fun i hi => hmove.booked h.booked i (hclients ▸ hi), ?_⟩
  cases e with
  | bridge i e =>
    simp only [System.step] at hs
    refine h.endpointStep hs fun hi c hc => ?_
    have hlive'' : c.Live := by
      obtain ⟨-, c', hc', rfl⟩ := endpointStep_inv hs
      obtain rfl : c = c' := Option.some.inj (hc.symm.trans hc')
      have hself := hlive'.endpoints i hi
      rwa [setEndpoint_self] at hself
    exact (hlive.endpoints i hi).conserves_local? (h.booked i hi) hlive'' hc
  | sent i =>
    simp only [System.step] at hs
    exact h.endpointStep hs fun hi c hc => (hlive.endpoints i hi).conserves_sent hc
  | receive i =>
    simp only [System.step] at hs
    exact h.endpointStep hs fun hi c hc => (hlive.endpoints i hi).conserves_receive hc
  | readMsg i =>
    simp only [System.step] at hs
    split at hs
    · exact h.endpointStep hs fun hi c hc => (hlive.endpoints i hi).conserves_readMsg hc
    · cases hs
  | take i order =>
    simp only [System.step] at hs
    split at hs
    · exact h.take hlive hp.within ‹_› hs
    · cases hs
  | hand =>
    obtain ⟨-, -, ⟨k, msgArr, -, -, hflow⟩ | ⟨k, hsending, -⟩⟩ := hand_inv hs
    · rw [hclients, hflow]
      exact h.conserved
    · rcases hlive.route with hroute | ⟨k', msgArr, hroute, -⟩ <;> rw [hsending] at hroute <;> cases hroute
  | writeMsg i =>
    simp only [System.step] at hs
    split at hs
    · refine h.endpointStep hs fun hi c hc => ?_
      rw [Endpoint.writeMsg_flow hc]
      exact .refl _
    · cases hs

/-! ### At rest -/

omit [Slave S] in
/-- Threads at work with nothing pending have nothing under way. -/
theorem Live.load_eq_zero (h : s.Live) (hrest : ¬s.Pending) {i : Nat} (hi : i < s.clients) : (s.flow i).load = 0 := by
  have hc := h.endpoints i hi
  have hno : ¬(s.endpoints i).Pending := fun hp => hrest (Or.inl ⟨i, hi, hp⟩)
  simp only [Endpoint.Pending, not_or, not_exists] at hno
  obtain ⟨hitems, hup, hdown, hholding, hwriting, hsending, hoffering, hwritten⟩ := hno
  have hpopping : (s.endpoints i).bridge.writerThread = some .popping := by
    rcases hc.bridge.writer with hw | ⟨tx, hw, -⟩ | ⟨txn, hw⟩
    · exact hw
    · exact absurd hw (hwriting tx)
    · exact absurd hw (hsending _)
  have hreceiving : (s.endpoints i).bridge.readerThread = some .receiving := by
    rcases hc.bridge.reader with hr | ⟨txn, hr⟩
    · exact hr
    · exact absurd hr (hholding txn)
  have hreading : (s.endpoints i).reader = .reading := by
    rcases hc.reader with hr | ⟨msgArr, hr, -⟩
    · exact hr
    · exact absurd hr (hoffering msgArr)
  have hwaiting : (s.endpoints i).writer = .waiting := by
    rcases hc.writer with hw | ⟨msgArr, hw, -⟩
    · exact hw
    · exact absurd hw (hwritten msgArr)
  have hhanding : s.handing i = [] := handing_of_ne (fun k msgArr hroute => hrest (Or.inr (Or.inl ⟨k, msgArr, hroute⟩))) i
  have hwaits : (s.endpoints i).bridge.ledger.waiting = [] := by
    simp only [Bridge.ledger, Bridge.writerItem_popping hpopping, List.nil_append]
    simpa using hitems
  have hflow : (s.endpoints i).flow.load = 0 := by
    have htoRouter : (s.endpoints i).toRouter = [] := by simpa using hup
    have htoClient : (s.endpoints i).toClient = [] := by simpa using hdown
    simp [Flow.load, Endpoint.flow, hwaits, Endpoint.offered, hreading, htoRouter, Endpoint.sending, hpopping,
      htoClient, Endpoint.written, hwaiting, Endpoint.held, hreceiving]
  rw [flow, hhanding, Flow.load_deliver, hflow]
  rfl

/-- The future of every request is set. -/
def Resolved (s : System S Buf) : Prop :=
  ∀ i < s.clients, ∀ p < (s.endpoints i).bridge.history.issued.length, (s.endpoints i).bridge.futures p ≠ none

omit [Slave S] in
theorem Balanced.resolved (h : s.Balanced) (hload : ∀ i < s.clients, (s.flow i).load = 0) : s.Resolved := by
  intro i hi p hp hnone
  have hle : (s.flow i).pending ≤ total s.clients Flow.pending s.flow := le_total hi
  have hconserved := h.conserved
  rw [total_eq_zero hload] at hconserved
  have hzero : (List.range (s.endpoints i).bridge.history.issued.length).countP
      (fun p => ((s.endpoints i).bridge.futures p).isNone) = 0 := by
    have hpending : (s.flow i).pending = 0 := by omega
    exact hpending
  have hset := List.countP_eq_zero.mp hzero p (List.mem_range.mpr hp)
  rw [hnone] at hset
  exact hset rfl

variable {cap : Capacity}

/-- What holds of the sessions so far, as long as nothing has gone wrong in them. -/
theorem Opened.balanced (hs : s.Opened) {es : List (Event Buf)} (hr : run (boundedStep cap) s es = some t)
    (hserving : t.Serving) : t.Live ∧ t.Balanced := by
  obtain ⟨own, hpiping⟩ : ∃ own, s.Piping (unrestricted S) own :=
    ⟨_, hs.ready.piping (fun order _ bytes x _ => by split <;> trivial) (fun _ _ _ _ _ _ _ => trivial) trivial⟩
  have keep : ∀ (s : System S Buf) e t, (s.Piping (unrestricted S) own ∧ (s.Serving → s.Live ∧ s.Balanced)) →
      s.boundedStep cap e = some t → t.Piping (unrestricted S) own ∧ (t.Serving → t.Live ∧ t.Balanced) := by
    rintro s e t ⟨hp, hkept⟩ hs
    have hs := boundedStep_step hs
    refine ⟨hp.step (keeps_unrestricted e) hs, fun hserving => ?_⟩
    obtain ⟨hlive, hbalanced⟩ := hkept (hserving.before hs)
    have hlive' : t.Live := hlive.step hp hserving hs
    exact ⟨hlive', hbalanced.step hlive hp hlive' hs⟩
  exact (run_invariant keep ⟨hpiping, fun _ => ⟨hs.ready.live, hs.ready.balanced⟩⟩ hr).2 hserving

omit [Slave S] [Flatbuffers Buf] in
theorem Event.OfThread.cost {e : Event Buf} (h : e.OfThread) : e.cost = 0 := by
  cases e with
  | bridge i e => cases e <;> first | rfl | exact h.elim
  | _ => rfl

omit [Slave S] [Flatbuffers Buf] in
theorem Event.cost_of_threads {es : List (Event Buf)} (h : ∀ e ∈ es, Event.OfThread e) :
    (es.map Event.cost).sum = 0 := by
  refine List.sum_eq_zero fun n hn => ?_
  obtain ⟨e, he, rfl⟩ := List.mem_map.mp hn
  exact (h e he).cost

theorem Event.OfThread.effort {e : Event Buf} (h : e.OfThread) (hs : s.step e = some t) : t.effort + 1 ≤ s.effort := by
  have hstep : t.effort + 1 ≤ s.effort + e.cost := effort_step hs
  rwa [h.cost] at hstep

/-- The read is of no more bytes than the slave's process can make room for. -/
def Event.Fits : Event Buf → Prop
  | .bridge _ (.read _ buffer) => buffer.size.toNat ≤ maxSize
  | _ => True

omit [Flatbuffers Buf] in
theorem Event.Fits.keeps {e : Event Buf} (h : e.Fits) : s.Keeps (fitting S).users e := by
  cases e with
  | bridge i e =>
    cases e with
    | read m buffer => exact ⟨rfl, fun _ => h⟩
    | write m buffer => exact ⟨rfl, nofun⟩
    | _ => trivial
  | _ => trivial

omit [Slave S] [Flatbuffers Buf] in
theorem Event.OfThread.fits {e : Event Buf} (h : e.OfThread) : e.Fits := by
  cases e with
  | bridge i e =>
    cases e with
    | read m buffer => exact h.elim
    | _ => trivial
  | _ => trivial

/-- Where every read fits, no reader comes to a `resize` that throws. -/
theorem Opened.not_throwing (hs : s.Opened) {es : List (Event Buf)} (hfits : ∀ e ∈ es, e.Fits)
    (hr : run (boundedStep cap) s es = some t) : ¬t.Throwing := by
  obtain ⟨own, hpiping⟩ : ∃ own, s.Piping (fitting S) own :=
    ⟨_, hs.ready.piping (fun order _ bytes x _ => by split <;> trivial) (fun _ _ _ _ _ _ h => h.2) trivial⟩
  have keep : ∀ (s : System S Buf) e t, s.Piping (fitting S) own → e.Fits → s.boundedStep cap e = some t →
      t.Piping (fitting S) own := fun s e t hp he hs => hp.step he.keeps (boundedStep_step hs)
  have hsteps : EveryStep (boundedStep cap) (fun _ e => e.Fits) s es := everyStep_of_forall fun e he _ => hfits e he
  exact (run_invariant_of_everyStep keep hpiping hsteps hr).not_throwing

/-- From any state that a run over sockets of any capacity has reached, whose reads all fit, and however the threads
    and the goroutines are scheduled from there: they stop after a bounded number of steps, and as long as no
    `TERMINATE` has been issued and no reader or writer has returned with an error, they stop only when the future of
    every request is set. -/
theorem threads_resolve (hs : s.Opened) {es : List (Event Buf)} (hfits : ∀ e ∈ es, e.Fits)
    (hr : run (boundedStep cap) s es = some t) {fs : List (Event Buf)} (hfs : ∀ e ∈ fs, e.OfThread) {u : System S Buf}
    (hu : run (boundedStep cap) t fs = some u) :
    es.length + fs.length ≤ 15 * s.clients + (es.map Event.cost).sum ∧ (u.Serving → u.CanStep cap ∨ u.Resolved) := by
  have hrun : run (boundedStep cap) s (es ++ fs) = some u := run_append.mpr ⟨t, hr, hu⟩
  constructor
  · have hbound := run_potential (fun _ _ _ h => effort_step (boundedStep_step h)) hrun
    have hready := hs.ready.effort
    have hzero : (fs.map Event.cost).sum = 0 := Event.cost_of_threads hfs
    simp only [List.length_append, List.map_append, List.sum_append] at hbound
    omega
  · intro hserving
    obtain ⟨hlive, hbalanced⟩ := hs.balanced hrun hserving
    by_cases hpending : u.Pending
    · have hfits : ∀ e ∈ es ++ fs, e.Fits := fun e he =>
        (List.mem_append.mp he).elim (hfits e) fun he => (hfs e he).fits
      exact Or.inl (hlive.canStep hpending (hs.not_throwing hfits hrun))
    · exact Or.inr (hbalanced.resolved fun i hi => hlive.load_eq_zero hpending hi)

/-- The threads answer the read over sockets that hold a single message. -/
theorem threads_resolve_readAnswered :
    ∃ t u, run (boundedStep Capacity.single) opened (readAnswered.take 1) = some t ∧
      run (boundedStep Capacity.single) t (readAnswered.drop 1) = some u ∧ u.Serving ∧
      (u.CanStep Capacity.single ∨ u.Resolved) := by
  have hrun : (run (boundedStep Capacity.single) opened readAnswered).map (fun u => (u.clients,
      (u.endpoints 0).bridge.history.terminated, (u.endpoints 0).bridge.readerThread,
      (u.endpoints 0).bridge.writerThread)) = some (1, [], some .receiving, some .popping) := by decide
  obtain ⟨u, hu, heq⟩ := Option.map_eq_some_iff.mp hrun
  simp only [Prod.mk.injEq] at heq
  obtain ⟨hclients, hterminated, hreader, hwriter⟩ := heq
  obtain ⟨t, ht, hu⟩ := run_append.mp (show run (boundedStep Capacity.single) opened
    (readAnswered.take 1 ++ readAnswered.drop 1) = some u from hu)
  have hserving : u.Serving := fun i hi => by
    obtain rfl : i = 0 := by omega
    exact ⟨hterminated, by simp [hreader], by simp [hwriter]⟩
  have hthreads : ∀ e ∈ readAnswered.drop 1, e.OfThread := by simp [readAnswered, Event.OfThread]
  have hfits : ∀ e ∈ readAnswered.take 1, e.Fits := by simp [readAnswered, Event.Fits, maxSize]
  exact ⟨t, u, ht, hu, hserving, (threads_resolve opened_opened hfits ht hthreads hu).2 hserving⟩

end System

end SwAxi
