import SwAxi.Owners
import Mathlib.Data.List.Nodup

/-! Termination of the router: its masters send one `TERMINATE` each, in any order and between any
transactions. -/

namespace SwAxi
open Wire (Flatbuffers)
open Wire.Flatbuffers (getRoot finish mutateTarget)
open Transition

/-- What the client of a master sends once it is started. -/
inductive Sent where
  | terminate (id : UInt64)
  | transaction (txn : Transaction)
  deriving DecidableEq, Repr

namespace Sent

def message {Buf : Type} [Flatbuffers Buf] : Sent → Buf
  | .terminate id => RouterClient.terminateMessage id
  | .transaction txn => RouterClient.transactionMessage txn

def isTransaction : Sent → Bool
  | .terminate _ => false
  | .transaction _ => true

/-- The masters terminated by the messages, in order. -/
def terminations (ms : List (List IpInfo × Sent)) : List UInt64 :=
  ms.filterMap fun m =>
    match m.2 with
    | .terminate id => some id
    | .transaction _ => none

end Sent

namespace RouterRun
variable {Buf : Type} {s t : RouterRun Buf}

/-! ### The handshake -/

/-- The registered masters. -/
def masters (s : RouterRun Buf) : List IpInfo := s.router.ips.filter fun ip => ip.type.isMaster

/-- `masterCount` is the number of registered masters. -/
def Counted (s : RouterRun Buf) : Prop := s.router.masterCount.toNat = s.masters.length

theorem Counted.of_eq (h : s.Counted) (hips : t.router.ips = s.router.ips)
    (hcount : t.router.masterCount = s.router.masterCount) : t.Counted := by
  unfold Counted masters
  rw [hips, hcount]
  exact h

theorem Fresh.counted (h : s.Fresh) : s.Counted := by
  obtain ⟨uri, n, r₀, h0, heq⟩ := h.router
  obtain ⟨-, rfl⟩ := Router.newRouter_inv h0
  unfold Counted masters
  rw [heq]
  rfl

variable [Flatbuffers Buf]

/-- The step registers no master that is refused. -/
def NoneRefused (s : RouterRun Buf) (e : Event Buf) : Prop :=
  match e with
  | .receive msgArr =>
    match s.registering msgArr with
    | some (_, ip) => ip.type.isMaster = true → ∀ b ∈ s.router.ips, overlaps ip b = false
    | none => True
  | .write => True
  | .turn _ _ => False

instance (s : RouterRun Buf) : DecidablePred s.NoneRefused := fun e => by
  unfold NoneRefused
  split
  · split <;> infer_instance
  · infer_instance
  · infer_instance

/-- The state is reached by a handshake in which no master was refused, and the router starts to route. -/
def Handshaken (s : RouterRun Buf) : Prop :=
  ∃ s₀ es, s₀.Fresh ∧ run step s₀ es = some s ∧ EveryStep step NoneRefused s₀ es ∧ s.stage = .serve

theorem Counted.step {e : Event Buf} (h : s.Counted) (hn : s.NoneRefused e)
    (hs : s.step e = some t) : t.Counted := by
  rcases step_inv hs with ⟨i, c, c', -, -, -, -, heq⟩ | ⟨msgArr, i, ip, res, rfl, hreg, hres, -⟩ | ⟨n, heq, -, -, hn'⟩
  · exact h.of_eq (by rw [heq]) (by rw [heq])
  · have hfree : ip.type.isMaster = true → ∀ b ∈ s.router.ips, overlaps ip b = false := by
      simpa [NoneRefused, show s.registering msgArr = some (i, ip) from hreg] using hn
    exact Router.registerIp_masters h hfree hres
  · refine h.of_eq (by rw [heq]) ?_
    rcases hn' with rfl | ⟨order, msgArr, rfl⟩
    · rw [heq]
    · cases hn

theorem Handshaken.sound (h : s.Handshaken) : s.Sound := by
  obtain ⟨s₀, es, h₀, hr, -, -⟩ := h
  exact h₀.sound.of_run hr

theorem Handshaken.counted (h : s.Handshaken) : s.Counted := by
  obtain ⟨s₀, es, h₀, hr, hn, -⟩ := h
  have keep : ∀ (s : RouterRun Buf) e t, (s.Sound ∧ s.Counted) → s.NoneRefused e → s.step e = some t →
      t.Sound ∧ t.Counted := fun s e t hs hn he => ⟨hs.1.step he, hs.2.step hn he⟩
  exact (run_invariant_of_everyStep keep ⟨h₀.sound, h₀.counted⟩ hn hr).2

/-! ### Turns -/

theorem turn_of_route {order : List IpInfo} {msgArr : Buf} {router : Router} {routed : Routed Buf}
    (hstage : s.stage = .serve) (horder : s.router.IterationOrder order)
    (hroute : s.router.route order msgArr = (router, routed)) :
    s.turn order msgArr = some ({ s with router, stage := routed.stage }, routed) := by
  simp [turn, hstage, horder, hroute]

/-- `route` can deal with the transaction: it is a request for a registered block, or its initiator is a
    registered block. -/
def Deliverable (s : RouterRun Buf) (order : List IpInfo) (txn : Transaction) : Prop :=
  (txn.type.isRequest = true ∧ ∃ found, Router.findTarget order txn.address txn.size = .ok found) ∨
    txn.initiator.toNat < s.router.ips.length

/-- Every transaction ahead of the first termination is deliverable. -/
def Deliverables (s : RouterRun Buf) (ms : List (List IpInfo × Sent)) : Prop :=
  ∀ m ∈ ms.takeWhile fun m => m.2.isTransaction, ∀ txn, m.2 = .transaction txn → s.Deliverable m.1 txn

section
variable {order : List IpInfo}

theorem getType_createErrorTxn (initiator id : UInt64) (typ : Wire.TransactionType) (err : String) :
    (getRoot (createErrorTxn initiator id typ err : Buf)).getType = .transaction :=
  Flatbuffers.getType_finish _

/-- A transaction is put on one outgoing channel, as a transaction, or takes the process down. -/
theorem route_transaction_cases (hs : s.Sound) (horder : s.router.IterationOrder order) (txn : Transaction) :
    (s.Deliverable order txn ∧ ∃ client msgArr,
      s.router.route order (RouterClient.transactionMessage txn : Buf) = (s.router, .send client msgArr) ∧
        (getRoot msgArr).getType = .transaction) ∨
    (¬s.Deliverable order txn ∧
      s.router.route order (RouterClient.transactionMessage txn : Buf) = (s.router, .panic)) := by
  rcases hs.kept.route_transaction horder (rfl : s.router.route order (RouterClient.transactionMessage txn : Buf) = _)
    with ⟨target, client, hreq, hfound, -, heq⟩ | ⟨err, ip, -, -, hip, -, heq⟩ | ⟨ip, -, hip, -, heq⟩ |
      ⟨hnone, hunresolved, heq⟩
  · exact Or.inl ⟨Or.inl ⟨hreq, _, hfound⟩, _, _, heq, by simp⟩
  · obtain ⟨hlt, -⟩ := List.getElem?_eq_some_iff.mp hip
    exact Or.inl ⟨Or.inr hlt, _, _, heq, getType_createErrorTxn _ _ _ _⟩
  · obtain ⟨hlt, -⟩ := List.getElem?_eq_some_iff.mp hip
    exact Or.inl ⟨Or.inr hlt, _, _, heq, RouterClient.getType_transactionMessage txn⟩
  · refine Or.inr ⟨?_, heq⟩
    rintro (⟨hreq, found, hfound⟩ | hlt)
    · obtain ⟨err, herr⟩ := hunresolved hreq
      rw [hfound] at herr
      cases herr
    · exact Nat.not_lt.mpr (List.getElem?_eq_none_iff.mp hnone) hlt

end

/-! ### Runs -/

/-- Each transaction is served; a `TERMINATE` while another master is active leaves the loop running with one
    master less; the last one sends `DONE` once to each client and ends the loop; no other turn sends `DONE`. -/
def Graceful : RouterRun Buf → List (List IpInfo × Sent) → Prop
  | _, [] => True
  | s, (order, m) :: ms => ∃ t routed, s.turn order (m.message : Buf) = some (t, routed) ∧
    match m with
    | .terminate _ =>
      if Sent.terminations ms = [] then
        t.stage = .routed ∧ ∀ i < s.router.clients.length,
          (s.router.outgoing routed).filter (fun x => x.1 = i) = [(i, Router.doneMessage)]
      else
        t.stage = .serve ∧ t.router.masterCount.toNat + 1 = s.router.masterCount.toNat ∧
          (∀ x ∈ s.router.outgoing routed, (getRoot x.2).getType ≠ .done) ∧ Graceful t ms
    | .transaction _ =>
      t.stage = .serve ∧ (∀ x ∈ s.router.outgoing routed, (getRoot x.2).getType ≠ .done) ∧ Graceful t ms

theorem sendDone_once {r : Router} {i : Nat} (hi : i < r.clients.length) :
    (r.sendDone : List (Nat × Buf)).filter (fun x => x.1 = i) = [(i, Router.doneMessage)] := by
  have hcount : (List.range r.clients.length).count i = 1 :=
    List.count_eq_one_of_mem List.nodup_range (List.mem_range.mpr hi)
  have hfilter : (List.range r.clients.length).filter (fun j => j = i) = [i] := by
    rw [List.filter_eq, hcount]
    rfl
  rw [Router.sendDone, List.filter_map]
  exact congrArg (List.map fun j => (j, (Router.doneMessage : Buf))) hfilter

section
variable {order : List IpInfo} {ms : List (List IpInfo × Sent)}

theorem graceful_transaction (hs : s.Sound) (hstage : s.stage = .serve) (horder : s.router.IterationOrder order)
    (txn : Transaction) : s.Graceful ((order, .transaction txn) :: ms) ↔ s.Deliverable order txn ∧ s.Graceful ms := by
  rcases route_transaction_cases hs horder txn with ⟨hd, client, msgArr, hroute, htype⟩ | ⟨hd, hroute⟩
  · have hturn : s.turn order (Sent.transaction txn).message = some (s, .send client msgArr) := by
      rw [show (Sent.transaction txn).message = (RouterClient.transactionMessage txn : Buf) from rfl,
        turn_of_route hstage horder hroute, show (Routed.send client msgArr).stage = s.stage from hstage.symm]
    have hdone : ∀ x ∈ s.router.outgoing (.send client msgArr), (getRoot x.2).getType ≠ .done := by
      intro x hx
      rw [List.mem_singleton.mp hx, htype]
      simp
    constructor
    · rintro ⟨t, routed, ht, -, -, hg⟩
      rw [hturn] at ht
      cases ht
      exact ⟨hd, hg⟩
    · rintro ⟨-, hg⟩
      exact ⟨s, _, hturn, hstage, hdone, hg⟩
  · refine iff_of_false ?_ fun h => hd h.1
    rintro ⟨t, routed, ht, hserve, -⟩
    rw [show (Sent.transaction txn).message = (RouterClient.transactionMessage txn : Buf) from rfl,
      turn_of_route hstage horder hroute] at ht
    cases ht
    cases hserve

theorem graceful_terminate (hs : s.Sound) (hstage : s.stage = .serve) (horder : s.router.IterationOrder order)
    {id : UInt64} (hid : id.toNat < s.router.ips.length)
    (hcount : s.router.masterCount.toNat = (Sent.terminations ms).length + 1) :
    s.Graceful ((order, .terminate id) :: ms) ↔ Sent.terminations ms = [] := by
  have hturn : s.turn order (Sent.terminate id).message = _ :=
    turn_of_route hstage horder (hs.kept.route_terminate hid)
  have hone : s.router.masterCount.toNat - 1 = (s.router.masterCount - 1).toNat := by
    rw [UInt64.toNat_sub_of_le _ _ (by rw [UInt64.le_iff_toNat_le, UInt64.toNat_one]; omega), UInt64.toNat_one]
  have hlast : s.router.masterCount - 1 = 0 ↔ Sent.terminations ms = [] := by
    rw [← UInt64.toNat_inj, ← hone, hcount, UInt64.toNat_zero, Nat.add_sub_cancel, List.length_eq_zero_iff]
  by_cases hnil : Sent.terminations ms = []
  · refine iff_of_true ⟨_, _, hturn, ?_⟩ hnil
    simp only [hnil, if_true, hlast.mpr hnil]
    exact ⟨rfl, fun i hi => sendDone_once hi⟩
  · refine iff_of_false ?_ hnil
    rintro ⟨t, routed, ht, hg⟩
    rw [hturn] at ht
    cases ht
    simp only [hnil, if_false, mt hlast.mp hnil] at hg
    cases hg.1

/-- From the start of routing: the masters terminate gracefully exactly when there is one of them, given that
    all transactions ahead of its termination can be delivered. -/
theorem graceful_iff (hs : s.Sound) (hstage : s.stage = .serve) (horders : ∀ m ∈ ms, s.router.IterationOrder m.1)
    (hids : ∀ id ∈ Sent.terminations ms, id.toNat < s.router.ips.length)
    (hcount : s.router.masterCount.toNat = (Sent.terminations ms).length) (hpos : Sent.terminations ms ≠ []) :
    s.Graceful ms ↔ s.router.masterCount = 1 ∧ s.Deliverables ms := by
  induction ms with
  | nil => exact absurd rfl hpos
  | cons m ms ih =>
    obtain ⟨order, m⟩ := m
    have horder := horders (order, m) List.mem_cons_self
    cases m with
    | terminate id =>
      have hlen : s.router.masterCount.toNat = (Sent.terminations ms).length + 1 := hcount
      have hone : s.router.masterCount = 1 ↔ Sent.terminations ms = [] := by
        rw [← UInt64.toNat_inj, hlen, UInt64.toNat_one, Nat.add_eq_right, List.length_eq_zero_iff]
      have hempty : s.Deliverables ((order, .terminate id) :: ms) := by simp [Deliverables, Sent.isTransaction]
      rw [graceful_terminate hs hstage horder (hids id List.mem_cons_self) hlen, hone]
      exact ⟨fun h => ⟨h, hempty⟩, And.left⟩
    | transaction txn =>
      have hcons : s.Deliverables ((order, .transaction txn) :: ms) ↔
          s.Deliverable order txn ∧ s.Deliverables ms := by
        simp [Deliverables, Sent.isTransaction]
      rw [graceful_transaction hs hstage horder, hcons,
        ih (fun m hm => horders m (List.mem_cons_of_mem _ hm)) hids hcount hpos]
      tauto

end

/-- In every state reached by a handshake that accepted masters and refused none: whatever the order of their
    `TERMINATE` messages, one each, and of transactions between them, termination is graceful exactly when
    there is one master, given that all transactions ahead of its `TERMINATE` can be delivered. -/
theorem terminations_graceful_iff (hs : s.Handshaken) (hpos : s.masters ≠ []) (ms : List (List IpInfo × Sent))
    (horders : ∀ m ∈ ms, s.router.IterationOrder m.1)
    (hms : (Sent.terminations ms).Perm (s.masters.map (·.id))) :
    s.Graceful ms ↔ s.masters.length = 1 ∧ s.Deliverables ms := by
  have hsound := hs.sound
  have hlen : (Sent.terminations ms).length = s.masters.length := by simpa using hms.length_eq
  have hids : ∀ id ∈ Sent.terminations ms, id.toNat < s.router.ips.length := by
    intro id hid
    obtain ⟨ip, hip, rfl⟩ := List.mem_map.mp (hms.mem_iff.mp hid)
    obtain ⟨k, hk⟩ := List.getElem?_of_mem (List.mem_of_mem_filter hip)
    rw [hsound.kept.ids k ip hk]
    exact (List.getElem?_eq_some_iff.mp hk).1
  have hcount : s.router.masterCount.toNat = s.masters.length := hs.counted
  have hone : s.router.masterCount = 1 ↔ s.masters.length = 1 := by
    rw [← UInt64.toNat_inj, hcount, UInt64.toNat_one]
  have hne : Sent.terminations ms ≠ [] := fun h => hpos (List.length_eq_zero_iff.mp (by rw [← hlen, h]; rfl))
  obtain ⟨-, -, -, -, -, hstage⟩ := hs
  rw [graceful_iff hsound hstage horders hids (hcount.trans hlen.symm) hne, hone]

/-- The router once the client with one master has started. -/
def oneMaster : RouterRun Wire.Message :=
  { Router.oneClient with
    router := Router.served, clInfo := [{ name := "02-sw-master-lite" }], stage := .serve, arrived := [0, 0] }

theorem oneMaster_handshaken : oneMaster.Handshaken :=
  ⟨Router.oneClient, Router.masterFirst, Router.oneClient_fresh, Router.run_masterFirst, by decide, rfl⟩

theorem terminations_graceful_oneMaster :
    oneMaster.Graceful [([Router.softRam, Router.softMaster], .transaction Router.readRequest),
        ([Router.softRam, Router.softMaster], .terminate 0)] ↔
      oneMaster.masters.length = 1 ∧
        oneMaster.Deliverables [([Router.softRam, Router.softMaster], .transaction Router.readRequest),
          ([Router.softRam, Router.softMaster], .terminate 0)] :=
  terminations_graceful_iff oneMaster_handshaken (by decide) _ (by decide) (by decide)

/-- The messages of one client that registers two masters. -/
def mastersOnly : List (Event Wire.Message) :=
  [.receive (RouterClient.systemInfoMessage { name := "02-sw-master-lite" }),
    .receive (RouterClient.ipInfoMessage (Bridge.masterConfig "first")),
    .receive (RouterClient.ipInfoMessage (Bridge.masterConfig "second")),
    .receive RouterClient.commitMessage, .write, .write, .write, .write, .write, .write]

def twoMasters : RouterRun Wire.Message :=
  let first : IpInfo := { Router.slaveAt "first" 0 0 with type := .master }
  let second : IpInfo := { Router.slaveAt "second" 0 0 with type := .master, id := 1 }
  { Router.oneClient with
    router := { Router.served with masterCount := 2, ipMMap := [(0, second)], ips := [first, second] }
    clInfo := [{ name := "02-sw-master-lite" }], stage := .serve, arrived := [0, 0] }

theorem run_mastersOnly : run step Router.oneClient mastersOnly = some twoMasters := by decide

/-- The first of two masters terminates: the router exits. -/
theorem first_termination_fatal :
    twoMasters.Handshaken ∧ twoMasters.masters.map (·.id) = [0, 1] ∧
      ¬twoMasters.Graceful [(twoMasters.router.ipMMap.map Prod.snd, .terminate 0),
        (twoMasters.router.ipMMap.map Prod.snd, .terminate 1)] := by
  have hsound : twoMasters.Sound := Router.oneClient_fresh.sound.of_run run_mastersOnly
  refine ⟨⟨_, _, Router.oneClient_fresh, run_mastersOnly, by decide, rfl⟩, by decide, fun h => ?_⟩
  have hnil := (graceful_terminate hsound rfl (List.Perm.refl _) (by decide) (by decide)).mp h
  cases hnil

end RouterRun

end SwAxi
