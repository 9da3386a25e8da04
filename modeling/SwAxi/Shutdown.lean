import SwAxi.Ahead

/-! The shutdown of the system: what is under way when `route` leaves its loop, and whether the goroutines of
the router can end. -/

namespace SwAxi
open Wire (Flatbuffers)
open Wire.Flatbuffers (getRoot)
open Transition
open Total
open RouterClient (transactionMessage terminateMessage doneMessage)

/-! ### What a graceful shutdown is -/

def ClientReader.finished {Buf : Type} : ClientReader Buf → Bool
  | .done => true
  | _ => false

def ClientWriter.finished {Buf : Type} : ClientWriter Buf → Bool
  | .done => true
  | _ => false

def RouteLoop.finished {Buf : Type} : RouteLoop Buf → Bool
  | .exited => true
  | _ => false

namespace System
variable {S Buf : Type}

/-- What `r.wg` has come down to, once all goroutines run. -/
def waitGroup (s : System S Buf) : Nat :=
  (List.range s.clients).countP (fun i => !(s.endpoints i).reader.finished) +
    (List.range s.clients).countP (fun i => !(s.endpoints i).writer.finished) +
    if s.route.finished then 0 else 1

/-- What is to hold from the moment on at which `route` leaves its loop. -/
structure Drained [Flatbuffers Buf] (s : System S Buf) : Prop where
  /-- Every forwarded request has had its response forwarded to the client of its initiator. -/
  answered : ∀ κ ∈ s.record.forwarded, ∃ i < s.clients, ((s.endpoints i).bridge.masterMap κ.1).isSome = true ∧
    s.record.forwarded.count κ ≤ s.record.answered.count (i, κ)
  /-- Nothing is offered to `route`, and nothing but a `DONE` is on its way there. -/
  offers : ∀ i < s.clients, (s.endpoints i).offered = [] ∧
    ∀ msgArr ∈ (s.endpoints i).toRouter, (getRoot msgArr).getType = .done
  /-- No reader of a bridge has a request to serve. -/
  idle : ∀ i < s.clients, ∀ txn, (s.endpoints i).bridge.readerThread = some (.holding txn) → txn.type.isRequest = false

/-- A call of `terminate` is made when every request of the master has its promise set. -/
def TerminatesResolved (s : System S Buf) : Event Buf → Prop
  | .bridge i (.terminate m) => ∀ p, (hp : p < (s.endpoints i).bridge.history.issued.length) →
      ((s.endpoints i).bridge.history.issued[p]).initiator = m → (s.endpoints i).bridge.futures p ≠ none
  | _ => True

instance (s : System S Buf) (e : Event Buf) : Decidable (s.TerminatesResolved e) := by
  unfold TerminatesResolved
  split <;> infer_instance

end System

/-! ### The goroutines -/

namespace Endpoint
variable {S Buf : Type} [Flatbuffers Buf] (c : Endpoint S Buf)

/-- `client.writer` runs, and has no `DONE`. -/
def Open : Prop := c.writer.finished = false ∧ ∀ msgArr ∈ c.written, (getRoot msgArr).getType ≠ .done

/-- `client.writer` has its `DONE`, or has ended with it. -/
def Closing : Prop := c.listening = false ∧ ∀ msgArr ∈ c.written, (getRoot msgArr).getType = .done

variable {c} {c' : Endpoint S Buf}

theorem Open.congr (h : c.Open) (hw : c'.writer = c.writer) : c'.Open := by
  unfold Open written at *
  rwa [hw]

theorem Closing.congr (h : c.Closing) (hw : c'.writer = c.writer) : c'.Closing := by
  unfold Closing written listening at *
  rwa [hw]

theorem Open.writeMsg (h : c.Open) (hw : c.writeMsg = some c') : c'.Open := by
  unfold Endpoint.writeMsg at hw
  split at hw
  · rename_i msgArr hwriting
    cases hw
    have htype : (getRoot msgArr).getType ≠ .done := h.2 msgArr (by simp [written, hwriting])
    simp [Open, written, ClientWriter.finished, htype]
  · cases hw

theorem Closing.writeMsg (h : c.Closing) (hw : c.writeMsg = some c') : c'.Closing := by
  unfold Endpoint.writeMsg at hw
  split at hw
  · rename_i msgArr hwriting
    cases hw
    have htype : (getRoot msgArr).getType = .done := h.2 msgArr (by simp [written, hwriting])
    simp [Closing, written, listening, htype]
  · cases hw

/-- The steps of the bridge leave the goroutines of its client alone. -/
theorem bridge_goroutines [Slave S] {e : Bridge.Event Buf}
    (h : c.local? e = some c' ∨ c.sent = some c' ∨ c.receive = some c') :
    c'.reader = c.reader ∧ c'.writer = c.writer := by
  rcases h with h | h | h
  · obtain ⟨-, b, -, rfl⟩ := local?_inv h
    exact ⟨rfl, rfl⟩
  · unfold sent at h
    split at h
    · cases h
      exact ⟨rfl, rfl⟩
    · cases h
  · unfold receive at h
    split at h
    · split at h
      · split at h
        · cases h
        · cases h
          exact ⟨rfl, rfl⟩
      · cases h
        exact ⟨rfl, rfl⟩
    · cases h

theorem readMsg_goroutines (h : c.readMsg = some c') :
    c'.writer = c.writer ∧ ∀ msgArr ∈ c'.offered, (getRoot msgArr).getType ≠ .done := by
  unfold readMsg at h
  split at h
  · rename_i msgArr rest hr hup
    cases h
    refine ⟨rfl, fun out hout => ?_⟩
    by_cases htype : (getRoot msgArr).getType = .done
    · simp [offered, htype] at hout
    · have heq : out = msgArr := by simpa [offered, htype] using hout
      rw [heq]
      exact htype
  · cases h

theorem writeMsg_reader (h : c.writeMsg = some c') : c'.reader = c.reader := by
  unfold writeMsg at h
  split at h
  · cases h
    rfl
  · cases h

end Endpoint

namespace System
variable {S Buf : Type} [Flatbuffers Buf] {s t : System S Buf}

/-- The writers of the clients and `route` are in step. -/
def InStep (s : System S Buf) : Prop :=
  match s.route with
  | .receiving => ∀ i < s.clients, (s.endpoints i).Open
  | .sending _ msgArr => (getRoot msgArr).getType ≠ .done ∧ ∀ i < s.clients, (s.endpoints i).Open
  | .sendDone k => k < s.clients ∧ (∀ i < k, (s.endpoints i).Closing) ∧
      ∀ i < s.clients, k ≤ i → (s.endpoints i).Open
  | .exited => ∀ i < s.clients, (s.endpoints i).Closing
  | .aborted => True

structure Paced (s : System S Buf) : Prop where
  /-- A reader that has read a `DONE` offers nothing more. -/
  offers : ∀ i, ∀ msgArr ∈ (s.endpoints i).offered, (getRoot msgArr).getType ≠ .done
  inStep : s.InStep

/-- The writers stay in step where each keeps what it has. -/
theorem InStep.of_writers (h : s.InStep) (hroute : t.route = s.route) (hclients : t.clients = s.clients)
    (hopen : ∀ i, (s.endpoints i).Open → (t.endpoints i).Open)
    (hclosing : ∀ i, (s.endpoints i).Closing → (t.endpoints i).Closing) : t.InStep := by
  unfold InStep at *
  rw [hroute, hclients]
  split at h
  · exact fun i hi => hopen i (h i hi)
  · exact ⟨h.1, fun i hi => hopen i (h.2 i hi)⟩
  · exact ⟨h.1, fun i hi => hclosing i (h.2.1 i hi), fun i hi hk => hopen i (h.2.2 i hi hk)⟩
  · exact fun i hi => hclosing i (h i hi)
  · trivial

theorem Paced.endpoint (h : s.Paced) {i : Nat} {c : Endpoint S Buf}
    (hoffered : ∀ msgArr ∈ c.offered, (getRoot msgArr).getType ≠ .done)
    (hopen : (s.endpoints i).Open → c.Open) (hclosing : (s.endpoints i).Closing → c.Closing) :
    (s.setEndpoint i c).Paced := by
  have hset : ∀ {P : Endpoint S Buf → Prop}, (P (s.endpoints i) → P c) → ∀ j, P (s.endpoints j) →
      P ((s.setEndpoint i c).endpoints j) := by
    intro P hP j hj
    by_cases hji : j = i
    · subst hji
      rw [setEndpoint_self]
      exact hP hj
    · rwa [setEndpoint_ne hji]
  refine ⟨fun j => ?_, h.inStep.of_writers rfl rfl (hset hopen) (hset hclosing)⟩
  exact hset (P := fun c => ∀ msgArr ∈ c.offered, (getRoot msgArr).getType ≠ .done) (fun _ => hoffered) j (h.offers j)

theorem Paced.endpointStep (h : s.Paced) {i : Nat} {next : Endpoint S Buf → Option (Endpoint S Buf)}
    (hs : s.endpointStep i next = some t)
    (hnext : ∀ c, next (s.endpoints i) = some c → (∀ msgArr ∈ c.offered, (getRoot msgArr).getType ≠ .done) ∧
      ((s.endpoints i).Open → c.Open) ∧ ((s.endpoints i).Closing → c.Closing)) : t.Paced := by
  obtain ⟨-, c, hc, rfl⟩ := endpointStep_inv hs
  obtain ⟨hoffered, hopen, hclosing⟩ := hnext c hc
  exact h.endpoint hoffered hopen hclosing

theorem Paced.bridge [Slave S] (h : s.Paced) {i : Nat} {c : Endpoint S Buf} {e : Bridge.Event Buf}
    (hc : (s.endpoints i).local? e = some c ∨ (s.endpoints i).sent = some c ∨ (s.endpoints i).receive = some c) :
    (∀ msgArr ∈ c.offered, (getRoot msgArr).getType ≠ .done) ∧
      ((s.endpoints i).Open → c.Open) ∧ ((s.endpoints i).Closing → c.Closing) := by
  obtain ⟨hreader, hwriter⟩ := Endpoint.bridge_goroutines hc
  refine ⟨?_, fun hopen => hopen.congr hwriter, fun hclosing => hclosing.congr hwriter⟩
  have hoffered := h.offers i
  unfold Endpoint.offered at *
  rwa [hreader]

theorem Paced.take (h : s.Paced) {i : Nat} {order : List IpInfo} (hi : i < s.clients) (hs : s.take i order = some t) :
    t.Paced := by
  unfold System.take at hs
  split at hs
  · rename_i msgArr hreceiving hoffering
    split at hs
    · generalize hturn : s.router.route order msgArr = turn at hs
      obtain ⟨router, routed⟩ := turn
      cases hs
      have hopen : ∀ j < s.clients, ((s.setEndpoint i { s.endpoints i with reader := .reading }).endpoints j).Open := by
        have hstep := h.inStep
        unfold InStep at hstep
        rw [hreceiving] at hstep
        intro j hj
        by_cases hji : j = i
        · subst hji
          rw [setEndpoint_self]
          exact (hstep j hj).congr rfl
        · rw [setEndpoint_ne hji]
          exact hstep j hj
      have hclients : router.clients = s.router.clients := by
        obtain ⟨n, hn⟩ := s.router.route_router order msgArr
        rw [hturn] at hn
        rw [show router = _ from hn]
      refine ⟨fun j => ?_, ?_⟩
      · by_cases hji : j = i
        · subst hji
          simp only [setEndpoint_self]
          simp [Endpoint.offered]
        · simp only [setEndpoint_ne hji]
          exact h.offers j
      · unfold InStep clients
        simp only [hclients]
        cases routed with
        | send k out =>
          refine ⟨?_, hopen⟩
          rw [Router.route_send hturn]
          simp
        | next => exact hopen
        | done => exact ⟨Nat.zero_lt_of_lt hi, fun j hj => absurd hj (Nat.not_lt_zero j), fun j hj _ => hopen j hj⟩
        | fatal text => trivial
        | panic => trivial
    · cases hs
  · cases hs

theorem Paced.hand (h : s.Paced) (hs : s.hand = some t) : t.Paced := by
  have hstep := h.inStep
  unfold InStep at hstep
  unfold System.hand at hs
  split at hs
  · rename_i k msgArr hsending
    rw [hsending] at hstep
    split at hs
    · cases hs
      refine ⟨fun j => ?_, fun j hj => ?_⟩
      · by_cases hjk : j = k
        · subst hjk
          simp only [setEndpoint_self]
          exact h.offers j
        · simp only [setEndpoint_ne hjk]
          exact h.offers j
      · by_cases hjk : j = k
        · subst hjk
          simp only [setEndpoint_self]
          simpa [Endpoint.Open, Endpoint.written, ClientWriter.finished] using hstep.1
        · simp only [setEndpoint_ne hjk]
          exact hstep.2 j hj
    · cases hs
  · rename_i k hsending
    rw [hsending] at hstep
    obtain ⟨hk, hclosing, hopen⟩ := hstep
    split at hs
    · cases hs
      have hself : ({ s.endpoints k with writer := .writing Router.doneMessage } : Endpoint S Buf).Closing := by
        refine ⟨rfl, fun msgArr hmem => ?_⟩
        rw [List.mem_singleton.mp hmem]
        exact Flatbuffers.getType_finish _
      have hclosed : ∀ j < s.clients, j ≤ k →
          ((s.setEndpoint k { s.endpoints k with writer := .writing Router.doneMessage }).endpoints j).Closing := by
        intro j hj hjk
        rcases Nat.lt_or_eq_of_le hjk with hlt | rfl
        · rw [setEndpoint_ne (Nat.ne_of_lt hlt)]
          exact hclosing j hlt
        · rw [setEndpoint_self]
          exact hself
      refine ⟨fun j => ?_, ?_⟩
      · by_cases hjk : j = k
        · subst hjk
          simp only [setEndpoint_self]
          exact h.offers j
        · simp only [setEndpoint_ne hjk]
          exact h.offers j
      · unfold InStep
        by_cases hlast : k + 1 < s.clients
        · simp only [if_pos hlast]
          refine ⟨hlast, fun j hj => hclosed j (by omega) (by omega), fun j hj hkj => ?_⟩
          rw [setEndpoint_ne (by omega)]
          exact hopen j hj (by omega)
        · simp only [if_neg hlast]
          exact fun j hj => hclosed j hj (by change j < s.clients at hj; omega)
    · cases hs
  · cases hs

theorem Paced.step [Slave S] {e : Event Buf} (h : s.Paced) (hs : s.step e = some t) : t.Paced := by
  cases e with
  | bridge i e =>
    simp only [System.step] at hs
    exact h.endpointStep hs fun c hc => h.bridge (Or.inl hc)
  | sent i =>
    simp only [System.step] at hs
    exact h.endpointStep hs fun c hc => h.bridge (e := .pop) (Or.inr (Or.inl hc))
  | receive i =>
    simp only [System.step] at hs
    exact h.endpointStep hs fun c hc => h.bridge (e := .pop) (Or.inr (Or.inr hc))
  | readMsg i =>
    simp only [System.step] at hs
    split at hs
    · refine h.endpointStep hs fun c hc => ?_
      obtain ⟨hwriter, hoffered⟩ := Endpoint.readMsg_goroutines hc
      exact ⟨hoffered, fun hopen => hopen.congr hwriter, fun hclosing => hclosing.congr hwriter⟩
    · cases hs
  | take i order =>
    simp only [System.step] at hs
    split at hs
    · exact h.take ‹_› hs
    · cases hs
  | hand => exact h.hand hs
  | writeMsg i =>
    simp only [System.step] at hs
    split at hs
    · refine h.endpointStep hs fun c hc => ⟨?_, fun hopen => hopen.writeMsg hc, fun hclosing => hclosing.writeMsg hc⟩
      have hoffered := h.offers i
      unfold Endpoint.offered at *
      rwa [Endpoint.writeMsg_reader hc]
    · cases hs

/-! ### Once the loop is left -/

theorem Ready.paced (h : s.Ready) : s.Paced := by
  refine ⟨fun i => ?_, ?_⟩
  · simp [Endpoint.offered, (h.goroutines i).1]
  · simp only [InStep, h.route]
    intro i hi
    simp [Endpoint.Open, Endpoint.written, ClientWriter.finished, (h.goroutines i).2]

/-- At the start nothing is under way. -/
theorem Ready.accounted (h : s.Ready) {ms : List (Nat × UInt64)} (hlen : ms.length ≤ s.router.masterCount.toNat)
    (hcounted : ∀ i < s.clients, ∀ m, ((s.endpoints i).bridge.masterMap m).isSome = true → (i, m) ∈ ms) :
    s.Accounted ms := by
  have hflow : ∀ i, s.flow i = (s.endpoints i).flow := flow_of_ne (by simp [h.route])
  have hledger : ∀ i, (s.flow i).ledger = (s.endpoints i).bridge.ledger := fun i => by rw [hflow]; rfl
  have hhistory : ∀ i < s.clients, (s.endpoints i).bridge.history = {} := fun i hi => (h.bridges i hi).history
  have hissued : ∀ i < s.clients, (s.flow i).ledger.issued = [] := fun i hi => by
    simp [hledger, Bridge.ledger, hhistory i hi]
  have hfulfilled : ∀ i < s.clients, (s.flow i).ledger.fulfilled = [] := fun i hi => by
    simp [hledger, Bridge.ledger, hhistory i hi]
  have hzero : ∀ g : Flow S Buf → Nat, (∀ i < s.clients, g (s.flow i) = 0) → total s.clients g s.flow = 0 :=
    fun g hg => total_eq_zero hg
  refine ⟨h.kept, fun i hi => ?_, fun κ => ?_, fun κ => ?_, fun i hi κ => ?_, fun m => ?_, ?_⟩
  · obtain ⟨-, hup, -, -, -, hterminated⟩ := h.flow_eq hi
    refine ⟨hledger i ▸ (h.bridges i hi).inv.toBooked, fun m hm => ?_, ?_, ?_, ?_, ?_⟩
    · rw [hflow] at hm
      exact hcounted i hi m hm
    · simp [hissued i hi]
    · simp [hterminated]
    · simp [hterminated]
    · simp [hup]
  · rw [hzero (Flow.asked κ) fun i hi => by simp [Flow.asked, (h.flow_eq hi).2.1]]
    simp [h.record]
  · rw [hzero (Flow.serving κ) fun i hi => ?_]
    · simp [h.record]
    · obtain ⟨hwaiting, hup, hdown, hheld, -⟩ := h.flow_eq hi
      simp [Flow.serving, hup, hdown, hheld, hwaiting]
  · obtain ⟨-, -, hdown, hheld, -⟩ := h.flow_eq hi
    simp [Flow.due, Flow.settled, hdown, hheld, hfulfilled i hi]
  · rw [hzero (Flow.ending m) fun i hi => by simp [Flow.ending, (h.flow_eq hi).1, (h.flow_eq hi).2.1]]
    simp [h.record]
  · simp only [Phase, h.route, h.record]
    exact ⟨trivial, hlen⟩

theorem Ready.tidy (h : s.Ready) : s.Tidy :=
  fun _ _ hi hended => absurd (h.flow_eq hi).2.2.2.2.2 hended

theorem Accounted.drained (h : s.Accounted ms) (ht : s.Tidy) (hp : s.Paced) (hleft : s.Left) : s.Drained := by
  have hup : ∀ i < s.clients, ∀ msgArr ∈ (s.endpoints i).offered ++ (s.endpoints i).toRouter,
      (getRoot msgArr).getType = .done := by
    intro i hi msgArr hmem
    have heq : msgArr = doneMessage := h.up_left ht hleft hi (List.mem_append_left _ hmem)
    rw [heq]
    exact getType_doneMessage
  refine ⟨fun κ hκ => ?_, fun i hi => ⟨?_, fun msgArr hmem => ?_⟩, fun j hj txn hr => ?_⟩
  · obtain ⟨-, -, i, hi, hle, hhas⟩ := h.requests_left ht hleft κ
    exact ⟨i, hi, hhas (List.count_pos_iff.mpr hκ), hle⟩
  · refine List.eq_nil_iff_forall_not_mem.mpr fun msgArr hmem => ?_
    exact hp.offers i msgArr hmem (hup i hi msgArr (List.mem_append_left _ hmem))
  · exact hup i hi msgArr (List.mem_append_right _ hmem)
  · obtain ⟨hlast, i, m, hi, -, hmem, -⟩ := h.lastMaster hleft
    refine h.idle hlast hi hmem (ht hlast i hi (List.ne_nil_of_mem hmem)) hj ?_
    change (s.endpoints j).held = some txn
    simp [Endpoint.held, hr]

/-! ### Requests that are resolved -/

/-- Where every request of the one master is resolved, none is on its way. -/
theorem Accounted.behind (h : s.Accounted ms) (hlast : s.LastCall) {i : Nat} (hi : i < s.clients) {m : UInt64}
    (hhas : (s.flow i).has m = true) (hres : (s.flow i).ledger.Resolved m) :
    (s.flow i).Behind s.router s.record i := by
  have hsound := h.sound i hi
  have howned : (i, m) ∈ ms := hsound.masters m hhas
  obtain ⟨halone, htotal⟩ := h.alone hlast hi howned
  have hgiven : ∀ κ, (s.flow i).given κ ≤ s.record.answered.count (i, κ) + s.record.errored.count (i, κ) := fun κ => by
    rcases Nat.eq_zero_or_pos ((s.flow i).given κ) with hzero | hpos
    · omega
    · have hmaster : κ.1 = m := halone κ.1 (h.owned_of_given hi hpos).2
      have hsettled := hsound.given_le (hmaster ▸ hres)
      have hdue := h.due i hi κ
      omega
  have herrored : ∀ κ, s.record.errored.count (i, κ) ≤ s.record.errored.countP fun a => a.2 = κ :=
    Record.count_le_countP _ i
  refine ⟨fun a _ => ?_, fun msgArr hmem txn htxn hreq => ?_, fun tx htx hreq => ?_⟩
  · have hle := hgiven a.2
    have hle' := herrored a.2
    omega
  · -- It would not have been answered.
    exfalso
    have hpos : 0 < (s.flow i).asked txn.key := by
      refine List.countP_pos_iff.mpr ⟨msgArr, hmem, ?_⟩
      rw [carries_of_decode htxn, Transaction.matches_iff]
      exact ⟨hreq, rfl⟩
    have hasked := h.asked txn.key
    have hserving := h.serving txn.key
    have hle := hgiven txn.key
    have hle' := herrored txn.key
    have hsum : (s.flow i).asked txn.key ≤ total s.clients (Flow.asked txn.key) s.flow := le_total hi
    have hanswered := Record.count_le_countP s.record.answered i txn.key
    have heq := htotal txn.key
    omega
  · -- Its promise would not have been set.
    exfalso
    obtain ⟨p, hp, hget⟩ : ∃ p, tx.promise = some p ∧ (s.flow i).ledger.issued[p]? = some tx.txn := by
      simpa [hreq] using hsound.booked.waiting tx htx
    have hini := halone _ (hsound.issuers _ (List.mem_of_getElem? hget))
    obtain ⟨st, hst⟩ := Option.ne_none_iff_exists'.mp (hres p tx.txn hget hini)
    obtain ⟨response, hr, -⟩ := hsound.booked.resolved p st hst
    have hassigned := (hsound.booked.matched p response hr).1
    exact (List.nodup_append.mp hsound.booked.promises).2.2 p (List.mem_filterMap.mpr ⟨tx, htx, hp⟩) p
      (List.mem_map.mpr ⟨_, hassigned, rfl⟩) rfl

theorem TerminatesResolved.timely [Slave S] {e : Event Buf} (he : s.TerminatesResolved e) (h : s.Accounted ms)
    (hs : s.step e = some t) : s.Timely e := by
  cases e with
  | bridge i e =>
    cases e with
    | terminate m =>
      intro hlast
      simp only [System.step] at hs
      obtain ⟨hi, c, hc, -⟩ := endpointStep_inv hs
      obtain ⟨⟨hhas, -⟩, -⟩ := Endpoint.local?_inv hc
      refine h.behind hlast hi hhas fun p txn hget hini => ?_
      obtain ⟨hp, rfl⟩ := List.getElem?_eq_some_iff.mp hget
      exact he p hp hini
    | _ => trivial
  | _ => trivial

end System

end SwAxi
