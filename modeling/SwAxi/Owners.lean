import SwAxi.Routing

/-! Owners of blocks: the client that a block's messages are put on the channel of, and the one over whose
connection the block was registered. -/

namespace SwAxi
open Wire (Flatbuffers)
open Wire.Flatbuffers (getRoot finish mutateTarget)
open Transition
open RouterClient (transactionMessage wireTransactionType)

namespace Router
variable {Buf : Type} {r : Router} {order : List IpInfo}

theorem sendToInitiator_of_registered {initiator : UInt64} {ip : IpInfo} {msgArr : Buf}
    (hip : r.ips[initiator.toNat]? = some ip) (hlt : ip.clientId.toNat < r.clients.length) :
    r.sendToInitiator initiator msgArr = .send ip.clientId.toNat msgArr := by
  simp [sendToInitiator, hip, sendTo, hlt]

variable [Flatbuffers Buf]

theorem routeTransaction_response {msgArr : Buf} {table : Wire.Transaction}
    (htype : (getRoot msgArr).getType = .transaction) (htxn : (getRoot msgArr).txn = some table)
    (hresp : table.getType = .readResp ∨ table.getType = .writeResp) :
    r.routeTransaction order msgArr = r.sendToInitiator table.getInitiator msgArr := by
  rcases hresp with hresp | hresp <;> simp [routeTransaction, htype, htxn, hresp]

theorem getType_isResponse {txn : Transaction} (h : txn.type.isRequest = false) :
    (RouterClient.transactionTable txn).omitDefaults.getType = .readResp ∨
      (RouterClient.transactionTable txn).omitDefaults.getType = .writeResp := by
  rw [Wire.Transaction.getType_omitDefaults, RouterClient.getType_transactionTable]
  cases htype : txn.type with
  | readReq => simp [htype, TransactionType.isRequest] at h
  | writeReq => simp [htype, TransactionType.isRequest] at h
  | readResp => exact Or.inl rfl
  | writeResp => exact Or.inr rfl

theorem routeTransaction_unresolved {msgArr : Buf} {table : Wire.Transaction} {err : String}
    (htype : (getRoot msgArr).getType = .transaction) (htxn : (getRoot msgArr).txn = some table)
    (hreq : table.getType = .readReq ∨ table.getType = .writeReq)
    (hf : findTarget order table.getAddress table.getSize = .error err) :
    r.routeTransaction order msgArr = r.sendToInitiator table.getInitiator
      (createErrorTxn table.getInitiator table.getId table.getType err) := by
  rcases hreq with hreq | hreq <;> simp [routeTransaction, htype, htxn, hreq, hf]

omit [Flatbuffers Buf] in
theorem Kept.sendToInitiator_cases (hk : r.Kept) (initiator : UInt64) (msgArr : Buf) :
    (∃ ip, r.ips[initiator.toNat]? = some ip ∧ ip.clientId.toNat < r.clients.length ∧
      r.sendToInitiator initiator msgArr = .send ip.clientId.toNat msgArr) ∨
    (r.ips[initiator.toNat]? = none ∧ r.sendToInitiator initiator msgArr = .panic) := by
  cases hip : r.ips[initiator.toNat]? with
  | none => exact Or.inr ⟨rfl, by simp [sendToInitiator, hip]⟩
  | some ip =>
    have hlt := hk.owners ip (List.mem_of_getElem? hip)
    exact Or.inl ⟨ip, rfl, hlt, sendToInitiator_of_registered hip hlt⟩

/-- What `route` makes of a transaction. -/
theorem Kept.route_transaction {txn : Transaction} {turn : Router × Routed Buf} (hk : r.Kept)
    (horder : r.IterationOrder order) (hturn : r.route order (transactionMessage txn) = turn) :
    (∃ target client, txn.type.isRequest = true ∧ findTarget order txn.address txn.size = .ok (target, client) ∧
      client.toNat < r.clients.length ∧
      turn = (r, .send client.toNat (mutateTarget (transactionMessage txn) target))) ∨
    (∃ err ip, txn.type.isRequest = true ∧ findTarget order txn.address txn.size = .error err ∧
      r.ips[txn.initiator.toNat]? = some ip ∧ ip.clientId.toNat < r.clients.length ∧
      turn = (r, .send ip.clientId.toNat
        (createErrorTxn txn.initiator txn.id (wireTransactionType txn.type) err))) ∨
    (∃ ip, txn.type.isRequest = false ∧ r.ips[txn.initiator.toNat]? = some ip ∧ ip.clientId.toNat < r.clients.length ∧
      turn = (r, .send ip.clientId.toNat (transactionMessage txn))) ∨
    (r.ips[txn.initiator.toNat]? = none ∧
      (txn.type.isRequest = true → ∃ err, findTarget order txn.address txn.size = .error err) ∧
      turn = (r, .panic)) := by
  subst hturn
  have hne : (getRoot (transactionMessage txn : Buf)).getType ≠ .terminate := by simp
  have htype : (getRoot (transactionMessage txn : Buf)).getType = .transaction :=
    RouterClient.getType_transactionMessage txn
  have htxn : (getRoot (transactionMessage txn : Buf)).txn = some _ := RouterClient.txn_transactionMessage txn
  cases hreq : txn.type.isRequest with
  | true =>
    cases hf : findTarget order txn.address txn.size with
    | ok found =>
      obtain ⟨target, client⟩ := found
      obtain ⟨ip, -, -, hlt⟩ := hk.findTarget_ok horder hf
      exact Or.inl ⟨target, client, rfl, rfl, hlt, route_request hreq hf hlt⟩
    | error err =>
      rw [route_of_ne_terminate hne, routeTransaction_unresolved htype htxn (getType_isRequest hreq)
        ((findTarget_transactionTable order txn).trans hf), Wire.Transaction.getInitiator_omitDefaults,
        Wire.Transaction.getId_omitDefaults, Wire.Transaction.getType_omitDefaults]
      rcases hk.sendToInitiator_cases txn.initiator
        (createErrorTxn txn.initiator txn.id (wireTransactionType txn.type) err : Buf) with
        ⟨ip, hip, hlt, hsend⟩ | ⟨hnone, hpanic⟩
      · exact Or.inr (Or.inl ⟨err, ip, rfl, rfl, hip, hlt, congrArg _ hsend⟩)
      · exact Or.inr (Or.inr (Or.inr ⟨hnone, fun _ => ⟨err, rfl⟩, congrArg _ hpanic⟩))
  | false =>
    rw [route_of_ne_terminate hne, routeTransaction_response htype htxn (getType_isResponse hreq),
      Wire.Transaction.getInitiator_omitDefaults]
    rcases hk.sendToInitiator_cases txn.initiator (transactionMessage txn : Buf) with
      ⟨ip, hip, hlt, hsend⟩ | ⟨hnone, hpanic⟩
    · exact Or.inr (Or.inr (Or.inl ⟨ip, rfl, hip, hlt, congrArg _ hsend⟩))
    · exact Or.inr (Or.inr (Or.inr ⟨hnone, fun h => absurd h Bool.false_ne_true, congrArg _ hpanic⟩))

/-- A `TERMINATE` of a registered block ends the loop if it is the last one, and the process otherwise. -/
theorem Kept.route_terminate (hk : r.Kept) {id : UInt64} (hid : id.toNat < r.ips.length) :
    r.route order (RouterClient.terminateMessage id : Buf) = ({ r with masterCount := r.masterCount - 1 },
      if r.masterCount - 1 = 0 then .done else .fatal "Received unexpected message: TERMINATE") := by
  have htype : (getRoot (RouterClient.terminateMessage id : Buf)).getType = .terminate := Flatbuffers.getType_finish _
  have hipId : (getRoot (RouterClient.terminateMessage id : Buf)).getIpId = id := Flatbuffers.getIpId_finish _
  have hip := List.getElem?_eq_getElem hid
  have howner := hk.owners _ (List.mem_of_getElem? hip)
  by_cases hlast : r.masterCount - 1 = 0
  · simp [route, htype, hipId, hip, howner, hlast]
  · simp [route, routeTransaction, htype, hipId, hip, howner, hlast, Wire.MsgType.enumName]

end Router

namespace RouterRun
variable {Buf : Type} {s₀ s t : RouterRun Buf}

/-- Each block carries as its `ClientId` the client over whose connection it arrived. -/
def OwnersRight (s : RouterRun Buf) : Prop := s.router.ips.map (fun ip => ip.clientId.toNat) = s.arrived

theorem OwnersRight.owner (h : s.OwnersRight) (hs : s.Sound) {k owner : Nat} (hk : s.arrived[k]? = some owner) :
    ∃ ip, s.router.ips[k]? = some ip ∧ ip.clientId.toNat = owner ∧ owner < s.router.clients.length := by
  rw [← h, List.getElem?_map, Option.map_eq_some_iff] at hk
  obtain ⟨ip, hip, rfl⟩ := hk
  exact ⟨ip, hip, rfl, hs.kept.owners ip (List.mem_of_getElem? hip)⟩

theorem OwnersRight.arrived (h : s.OwnersRight) {k : Nat} {ip : IpInfo} (hip : s.router.ips[k]? = some ip) :
    s.arrived[k]? = some ip.clientId.toNat := by
  rw [← h, List.getElem?_map, hip]
  rfl

variable [Flatbuffers Buf]

/-- What a turn of `route` makes of a transaction goes to the client that registered its block: the target's
    for a request that is resolved, the initiator's for a response and for an error response. -/
structure RoutesRight (s : RouterRun Buf) (e : Event Buf) : Prop where
  request : ∀ order msgArr table target client, e = .turn order msgArr → (getRoot msgArr).getType = .transaction →
    (getRoot msgArr).txn = some table → table.getType = .readReq ∨ table.getType = .writeReq →
      Router.findTarget order table.getAddress table.getSize = .ok (target, client) →
        ∃ owner, s.arrived[target.toNat]? = some owner ∧
          (s.router.route order msgArr).2 = .send owner (mutateTarget msgArr target)
  response : ∀ order msgArr table owner, e = .turn order msgArr → (getRoot msgArr).getType = .transaction →
    (getRoot msgArr).txn = some table → table.getType = .readResp ∨ table.getType = .writeResp →
      s.arrived[table.getInitiator.toNat]? = some owner →
        (s.router.route order msgArr).2 = .send owner msgArr
  error : ∀ order msgArr table err owner, e = .turn order msgArr → (getRoot msgArr).getType = .transaction →
    (getRoot msgArr).txn = some table → table.getType = .readReq ∨ table.getType = .writeReq →
      Router.findTarget order table.getAddress table.getSize = .error err →
        s.arrived[table.getInitiator.toNat]? = some owner →
          (s.router.route order msgArr).2 =
            .send owner (createErrorTxn table.getInitiator table.getId table.getType err)

/-- The message is a registration by the client `i` that the router accepts. -/
def Accepts (s : RouterRun Buf) (msgArr : Buf) (i : Nat) : Prop :=
  ∃ ip, s.Registers msgArr i ip ∧ (∀ b ∈ s.router.ips, overlaps ip b = false) ∧ s.router.ips.length < maxSliceLength

/-- No registration is accepted of a client but the first. -/
def OnlyFirst (s : RouterRun Buf) (e : Event Buf) : Prop := ∀ msgArr i, e = .receive msgArr → s.Accepts msgArr i → i = 0

/-! ### Keeping the owners right -/

/-- A step keeps the owners right exactly when it accepts no block of another client than the first. -/
theorem ownersRight_iff {e : Event Buf} (hs : s.Sound) (ho : s.OwnersRight) (h : s.step e = some t) :
    t.OwnersRight ↔ s.OnlyFirst e := by
  rcases step_inv h with ⟨i, c, c', hstage, -, -, ha, heq⟩ | ⟨msgArr, i, ip, res, rfl, hreg, hres, ha⟩ |
    ⟨n, heq, ha, hno, -⟩
  · refine iff_of_true (by rw [OwnersRight, heq, ha]; exact ho) ?_
    rintro msgArr j rfl ⟨ip, hreg, -⟩
    rw [registers_iff, hstage] at hreg
    cases hreg.1
  · obtain ⟨hi, hid⟩ := hs.registers hreg
    -- The block carries the `Id` 0 whatever client it arrived from.
    rcases Router.registerIp_inv hres with ⟨b, hb, ho', heq, rfl⟩ | ⟨hfree, hlen, -, heq, rfl⟩
    · refine iff_of_true ?_ ?_
      · rw [OwnersRight, heq, ha, Router.countMaster_ips]
        exact ho.trans (List.append_nil _).symm
      · rintro _ j ⟨⟩ ⟨ip', hreg', hfree, -⟩
        obtain ⟨-, rfl⟩ := hreg.unique hreg'
        rw [hfree b hb] at ho'
        cases ho'
    · have hfirst : t.OwnersRight ↔ i = 0 := by
        rw [OwnersRight, heq, ha, Router.store_ips, Router.countMaster_ips, List.map_append, ho]
        simp [Except.isOk, Except.toBool, hid, eq_comm]
      rw [hfirst]
      constructor
      · rintro rfl _ j ⟨⟩ ⟨ip', hreg', -⟩
        exact (hreg.unique hreg').1.symm
      · intro h
        exact h msgArr i rfl ⟨ip, hreg, hfree, hlen⟩
  · refine iff_of_true (by rw [OwnersRight, heq, ha]; exact ho) ?_
    rintro msgArr j rfl ⟨ip, hreg, hfree, hlen⟩
    obtain ⟨hj, hid⟩ := hs.registers hreg
    have hclient : ip.clientId.toNat < s.router.clients.length := by
      rw [hid]
      exact Nat.zero_lt_of_lt hj
    have hpanic := hno msgArr j ip rfl hreg
    rw [Router.registerIp_of_free hfree hlen hclient] at hpanic
    cases hpanic

theorem routesRight_of_ownersRight {e : Event Buf} (hs : s.Sound) (ho : s.OwnersRight) (h : s.step e = some t) :
    s.RoutesRight e := by
  have hroute : ∀ {order : List IpInfo} {msgArr : Buf}, (getRoot msgArr).getType = .transaction →
      (s.router.route order msgArr).2 = s.router.routeTransaction order msgArr := fun htype => by
    rw [Router.route_of_ne_terminate (by simp [htype])]
  refine ⟨?_, ?_, ?_⟩
  · rintro order msgArr table target client rfl htype htxn hreq hf
    obtain ⟨⟨t, routed⟩, ht, rfl⟩ := Option.map_eq_some_iff.mp h
    obtain ⟨-, horder, -, -⟩ := turn_inv ht
    obtain ⟨ip, hip, rfl, hlt⟩ := hs.kept.findTarget_ok horder hf
    exact ⟨_, ho.arrived hip, by
      rw [hroute htype, Router.routeTransaction_found htype htxn hreq hf, Router.sendTo_of_lt hlt]⟩
  · rintro order msgArr table owner - htype htxn hresp howner
    obtain ⟨ip, hip, rfl, hlt⟩ := ho.owner hs howner
    rw [hroute htype, Router.routeTransaction_response htype htxn hresp,
      Router.sendToInitiator_of_registered hip hlt]
  · rintro order msgArr table err owner - htype htxn hreq hf howner
    obtain ⟨ip, hip, rfl, hlt⟩ := ho.owner hs howner
    rw [hroute htype, Router.routeTransaction_unresolved htype htxn hreq hf,
      Router.sendToInitiator_of_registered hip hlt]

/-- In every run of the router, blocks have the right owners in every state and every turn of `route` goes to
    the right client exactly when no block of another client than the first is accepted. -/
theorem owners_right_iff (h₀ : s₀.Fresh) (es : List (Event Buf)) :
    (EveryState step OwnersRight s₀ es ∧ EveryStep step RoutesRight s₀ es) ↔ EveryStep step OnlyFirst s₀ es := by
  have keep : ∀ (s : RouterRun Buf) e t, s.Sound → s.step e = some t → t.Sound := fun _ _ _ hs he => hs.step he
  have ho : s₀.OwnersRight := by simp [OwnersRight, h₀.router.ips, h₀.arrived]
  have hiff : EveryState step OwnersRight s₀ es ↔ EveryStep step OnlyFirst s₀ es :=
    everyState_iff_everyStep (E := fun _ => True) (fun s e t hs _ he => keep s e t hs he)
      (fun _ _ _ hs _ ho he => ownersRight_iff hs ho he) h₀.sound ho fun _ _ => trivial
  rw [← hiff]
  refine ⟨And.left, fun h => ⟨h, ?_⟩⟩
  exact h.everyStep keep (fun _ _ _ hs ho he => routesRight_of_ownersRight hs ho he) h₀.sound

/-! ### Two clients -/

/-- A router for two clients. -/
def twoClients : RouterRun Wire.Message where
  router := { uri := "unix:///tmp/sw-axi", numClients := 2, clients := [newClient 0, newClient 1] }
  host := { name := "router" }

theorem twoClients_fresh : twoClients.Fresh := ⟨⟨"unix:///tmp/sw-axi", 2, _, rfl, rfl⟩, rfl, rfl, rfl⟩

/-- The first client has a master, the second one the slave. -/
def slaveOfSecond : List (Event Wire.Message) :=
  [.receive (RouterClient.systemInfoMessage { name := "first" }),
    .receive (RouterClient.ipInfoMessage (Bridge.masterConfig "Soft-Master")), .receive RouterClient.commitMessage,
    .receive (RouterClient.systemInfoMessage { name := "second" }),
    .receive (RouterClient.ipInfoMessage { name := "Soft-RAM", address := 0x1000, size := 0x2000, type := .slaveLite })]

theorem owners_right_first :
    (EveryState step OwnersRight twoClients (slaveOfSecond.take 2) ∧
      EveryStep step RoutesRight twoClients (slaveOfSecond.take 2)) ↔
    EveryStep step OnlyFirst twoClients (slaveOfSecond.take 2) :=
  owners_right_iff twoClients_fresh _

/-- The slave of the second client is registered under the first one's `Id`. -/
theorem second_slave_misowned :
    ¬(EveryState step OwnersRight twoClients slaveOfSecond ∧ EveryStep step RoutesRight twoClients slaveOfSecond) := by
  rintro ⟨h, -⟩
  have hright := everyState_iff.mp h _ _ List.prefix_rfl rfl
  revert hright
  unfold OwnersRight
  decide

end RouterRun

end SwAxi
