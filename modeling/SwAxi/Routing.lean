import SwAxi.Run
import SwAxi.Bridge

/-! Routing of transactions: the target a forwarded request arrives with, and the client that requests and
responses are put on the channel of. -/

namespace SwAxi
open Wire (Flatbuffers)
open Wire.Flatbuffers (getRoot finish mutateTarget)
open Transition

/-! ### Encoding and decoding of transactions -/

namespace RouterClient
variable {Buf : Type} [Flatbuffers Buf]

theorem readTransactionType_wire (type : TransactionType) :
    readTransactionType (wireTransactionType type) = some type := by
  cases type <;> rfl

@[simp] theorem getType_transactionMessage (txn : Transaction) :
    (getRoot (transactionMessage txn : Buf)).getType = .transaction :=
  Flatbuffers.getType_finish _

@[simp] theorem txn_transactionMessage (txn : Transaction) :
    (getRoot (transactionMessage txn : Buf)).txn = some (transactionTable txn).omitDefaults := by
  rw [transactionMessage, Flatbuffers.getRoot_finish, Wire.Message.omitDefaults_txn]
  rfl

theorem getType_transactionTable (txn : Transaction) :
    (transactionTable txn).getType = wireTransactionType txn.type := rfl

/-- What arrives when the message has a transaction of a known type. -/
theorem receiveTransaction_of_txn {c : RouterClient} {msgArr : Buf} {table : Wire.Transaction} {txn : Transaction}
    (hc : c.state = .started) (htype : (getRoot msgArr).getType = .transaction)
    (htxn : (getRoot msgArr).txn = some table) (hknown : readTransactionType table.getType = some txn.type)
    (hread : readTransaction table txn.type = some txn) :
    c.receiveTransaction (.ok msgArr) = some (c, some txn, {}) := by
  simp [receiveTransaction, transactionReply, receive, hc, htype, htxn, hknown, hread]

theorem readTransaction_table (txn : Transaction) :
    readTransaction (transactionTable txn).omitDefaults txn.type = some txn := by
  simp [readTransaction]
  rfl

theorem receiveTransaction_transactionMessage {c : RouterClient} (hc : c.state = .started) (txn : Transaction) :
    c.receiveTransaction (.ok (transactionMessage txn : Buf)) = some (c, some txn, {}) := by
  refine receiveTransaction_of_txn hc (getType_transactionMessage txn) (txn_transactionMessage txn) ?_
    (readTransaction_table txn)
  rw [Wire.Transaction.getType_omitDefaults]
  exact readTransactionType_wire txn.type

/-! #### The target -/

/-- The target that arrives after `MutateTarget`: a target that was not sent is not overwritten. -/
def mutatedTarget (sent target : UInt64) : UInt64 := if sent = 0 then 0 else target

theorem mutatedTarget_eq_iff {sent target : UInt64} : mutatedTarget sent target = target ↔ sent ≠ 0 ∨ target = 0 := by
  unfold mutatedTarget
  split
  · simp [*, eq_comm]
  · simp [*]

theorem getTarget_mutateTarget (txn : Transaction) (target : UInt64) :
    ((transactionTable txn).omitDefaults.mutateTarget target).getTarget = mutatedTarget txn.target target := by
  unfold mutatedTarget Wire.Transaction.getTarget Wire.Transaction.mutateTarget Wire.Transaction.omitDefaults
  split
  · simp [transactionTable, *]
  · simp [transactionTable, Wire.omitDefault_of_ne, *]

theorem readTransaction_mutateTarget (t : Wire.Transaction) (target : UInt64) (type : TransactionType) :
    readTransaction (t.mutateTarget target) type =
      (readTransaction t type).map fun txn => { txn with target := (t.mutateTarget target).getTarget } := by
  cases hm : t.message with
  | none => simp [readTransaction, Wire.Transaction.mutateTarget, hm]
  | some message =>
    have hm' : (t.mutateTarget target).message = some message := hm
    simp only [readTransaction, hm, hm']
    rfl

/-- A forwarded request arrives as it was sent, but for the target. -/
theorem receiveTransaction_mutateTarget {c : RouterClient} (hc : c.state = .started) (txn : Transaction)
    (target : UInt64) : c.receiveTransaction (.ok (mutateTarget (transactionMessage txn : Buf) target)) =
      some (c, some { txn with target := mutatedTarget txn.target target }, {}) := by
  have htype : (getRoot (mutateTarget (transactionMessage txn : Buf) target)).getType = .transaction := by simp
  have htxn : (getRoot (mutateTarget (transactionMessage txn : Buf) target)).txn =
      some ((transactionTable txn).omitDefaults.mutateTarget target) := by simp
  have hknown : readTransactionType ((transactionTable txn).omitDefaults.mutateTarget target).getType =
      some txn.type := by
    rw [show ((transactionTable txn).omitDefaults.mutateTarget target).getType =
      (transactionTable txn).omitDefaults.getType from rfl, Wire.Transaction.getType_omitDefaults]
    exact readTransactionType_wire txn.type
  refine receiveTransaction_of_txn hc htype htxn hknown ?_
  rw [readTransaction_mutateTarget, readTransaction_table, Option.map_some, getTarget_mutateTarget]

end RouterClient

namespace Router
open RouterClient (transactionMessage)

/-! ### A turn of `route` on a transaction -/

section
variable {Buf : Type} [Flatbuffers Buf] {r : Router} {order : List IpInfo}

theorem findTarget_inv {address size target client : UInt64} (h : findTarget order address size = .ok (target, client)) :
    ∃ ip ∈ order, ip.address ≤ address ∧ address < ip.address + ip.size ∧ ip.id = target ∧ ip.clientId = client := by
  unfold findTarget at h
  split at h
  · cases h
  · rename_i ip hfind
    split at h
    · cases h
    · cases h
      have hin := List.find?_some hfind
      simp only [Bool.and_eq_true, decide_eq_true_eq] at hin
      exact ⟨ip, List.mem_of_find?_eq_some hfind, hin.1, hin.2, rfl, rfl⟩

theorem IterationOrder.mem (h : r.IterationOrder order) (hk : r.Kept) {ip : IpInfo} (hip : ip ∈ order) : ip ∈ r.ips := by
  obtain ⟨e, he, rfl⟩ := List.mem_map.mp (h.mem_iff.mp hip)
  exact (hk.mapped e he).1

/-- The block that is found is registered under its id. -/
theorem Kept.findTarget_ok (hk : r.Kept) (h : r.IterationOrder order) {address size target client : UInt64}
    (hf : findTarget order address size = .ok (target, client)) :
    ∃ ip, r.ips[target.toNat]? = some ip ∧ ip.clientId = client ∧ client.toNat < r.clients.length := by
  obtain ⟨ip, hip, -, -, rfl, rfl⟩ := findTarget_inv hf
  have hmem := h.mem hk hip
  obtain ⟨k, hget⟩ := List.getElem?_of_mem hmem
  have hid := hk.ids k ip hget
  exact ⟨ip, by rw [hid, hget], rfl, hk.owners ip hmem⟩

theorem route_of_ne_terminate {msgArr : Buf} (h : (getRoot msgArr).getType ≠ .terminate) :
    r.route order msgArr = (r, r.routeTransaction order msgArr) := by
  simp [route, h]

omit [Flatbuffers Buf] in
theorem sendTo_of_lt {client : UInt64} {msgArr : Buf} (h : client.toNat < r.clients.length) :
    r.sendTo client msgArr = .send client.toNat msgArr := by
  simp [sendTo, h]

/-- A request that `findTarget` resolves goes to the client found, with its target overwritten. -/
theorem routeTransaction_found {msgArr : Buf} {table : Wire.Transaction} {target client : UInt64}
    (htype : (getRoot msgArr).getType = .transaction) (htxn : (getRoot msgArr).txn = some table)
    (hreq : table.getType = .readReq ∨ table.getType = .writeReq)
    (hf : findTarget order table.getAddress table.getSize = .ok (target, client)) :
    r.routeTransaction order msgArr = r.sendTo client (mutateTarget msgArr target) := by
  rcases hreq with hreq | hreq <;> simp [routeTransaction, htype, htxn, hreq, hf]

theorem getType_isRequest {txn : Transaction} (h : txn.type.isRequest = true) :
    (RouterClient.transactionTable txn).omitDefaults.getType = .readReq ∨
      (RouterClient.transactionTable txn).omitDefaults.getType = .writeReq := by
  rw [Wire.Transaction.getType_omitDefaults, RouterClient.getType_transactionTable]
  cases htype : txn.type with
  | readReq => exact Or.inl rfl
  | writeReq => exact Or.inr rfl
  | readResp => simp [htype, TransactionType.isRequest] at h
  | writeResp => simp [htype, TransactionType.isRequest] at h

theorem findTarget_transactionTable (order : List IpInfo) (txn : Transaction) :
    findTarget order (RouterClient.transactionTable txn).omitDefaults.getAddress
      (RouterClient.transactionTable txn).omitDefaults.getSize = findTarget order txn.address txn.size := by
  rw [Wire.Transaction.getAddress_omitDefaults, Wire.Transaction.getSize_omitDefaults]
  rfl

theorem route_request {txn : Transaction} (hreq : txn.type.isRequest = true) {target client : UInt64}
    (hf : findTarget order txn.address txn.size = .ok (target, client)) (hlt : client.toNat < r.clients.length) :
    r.route order (transactionMessage txn : Buf) =
      (r, .send client.toNat (mutateTarget (transactionMessage txn) target)) := by
  have hne : (getRoot (transactionMessage txn : Buf)).getType ≠ .terminate := by simp
  rw [route_of_ne_terminate hne, routeTransaction_found (RouterClient.getType_transactionMessage txn)
    (RouterClient.txn_transactionMessage txn) (getType_isRequest hreq), sendTo_of_lt hlt]
  rw [findTarget_transactionTable, hf]

/-- In every state of the router, a request that it resolves arrives at the client found with the resolved
    target, and otherwise as it was sent, exactly when its target was sent or is to be 0. -/
theorem forwarded_target_iff {s₀ s : RouterRun Buf} (h₀ : s₀.Fresh) {es : List (RouterRun.Event Buf)}
    (hr : run RouterRun.step s₀ es = some s) (horder : s.router.IterationOrder order) {txn : Transaction}
    (hreq : txn.type.isRequest = true) {target client : UInt64}
    (hf : findTarget order txn.address txn.size = .ok (target, client)) {c : RouterClient} (hc : c.state = .started) :
    (∃ msgArr : Buf, s.router.route order (transactionMessage txn) = (s.router, .send client.toNat msgArr) ∧
      c.receiveTransaction (.ok msgArr) = some (c, some { txn with target }, {})) ↔ txn.target ≠ 0 ∨ target = 0 := by
  have hk : s.router.Kept := (h₀.sound.of_run hr).kept
  obtain ⟨ip, -, -, hlt⟩ := hk.findTarget_ok horder hf
  have hroute : s.router.route order (transactionMessage txn : Buf) = _ := route_request hreq hf hlt
  have harrives : c.receiveTransaction (.ok (mutateTarget (transactionMessage txn : Buf) target)) = _ :=
    RouterClient.receiveTransaction_mutateTarget hc txn target
  rw [← RouterClient.mutatedTarget_eq_iff]
  constructor
  · rintro ⟨msgArr, hsend, hreceive⟩
    rw [hroute] at hsend
    cases hsend
    rw [harrives] at hreceive
    simpa using hreceive
  · intro heq
    rw [heq] at harrives
    exact ⟨_, hroute, harrives⟩

end

/-- The messages of one client that registers a master, then the slave of the test benches. -/
def masterFirst : List (RouterRun.Event Wire.Message) :=
  [.receive (RouterClient.systemInfoMessage { name := "02-sw-master-lite" }),
    .receive (RouterClient.ipInfoMessage (Bridge.masterConfig "Soft-Master")),
    .receive (RouterClient.ipInfoMessage { name := "Soft-RAM", address := 0x1000, size := 0x2000, type := .slaveLite }),
    .receive RouterClient.commitMessage, .write, .write, .write, .write, .write, .write]

def oneClient : RouterRun Wire.Message := { router := single, host := { name := "router" } }

theorem oneClient_fresh : oneClient.Fresh := ⟨single_accepted, rfl, rfl, rfl⟩

def softMaster : IpInfo := { slaveAt "Soft-Master" 0 0 with type := .master }

def softRam : IpInfo := { slaveAt "Soft-RAM" 0x1000 0x2000 with type := .slaveLite, id := 1 }

/-- The router that serves this client. -/
def served : Router :=
  { single with
    clients := [{ systemInfo := { name := "02-sw-master-lite" } }]
    ipCount := 2
    masterCount := 1
    ipMMap := [(0x1000, softRam), (0, softMaster)]
    ips := [softMaster, softRam] }

theorem run_masterFirst : run RouterRun.step oneClient masterFirst =
    some { oneClient with router := served, clInfo := [{ name := "02-sw-master-lite" }], stage := .serve,
                          arrived := [0, 0] } := by
  decide

/-- The request that `Master::read` of the master builds for the start of the slave. -/
def readRequest : Transaction := { initiator := 0, address := 0x1000, size := 13, ok := true }

def startedClient : RouterClient := { state := .started, connectedUri := "unix:///tmp/sw-axi", sock := 3 }

theorem forwarded_target_sent :
    (∃ msgArr : Wire.Message, served.route [softRam, softMaster] (transactionMessage { readRequest with target := 1 }) =
        (served, .send 0 msgArr) ∧
      startedClient.receiveTransaction (.ok msgArr) =
        some (startedClient, some { readRequest with target := 1 }, {})) ↔ (1 : UInt64) ≠ 0 ∨ (1 : UInt64) = 0 := by
  have horder : served.IterationOrder [softRam, softMaster] := by decide
  have hf : findTarget [softRam, softMaster] readRequest.address readRequest.size = .ok (1, 0) := by decide
  have hreq : { readRequest with target := 1 }.type.isRequest = true := rfl
  exact forwarded_target_iff oneClient_fresh run_masterFirst horder hreq hf rfl

/-- The request is resolved to the slave of id 1, but does not arrive with this target. -/
theorem read_target_lost :
    (run RouterRun.step oneClient masterFirst).map (·.router) = some served ∧
      served.IterationOrder [softRam, softMaster] ∧
      findTarget [softRam, softMaster] readRequest.address readRequest.size = .ok (1, 0) ∧
      ¬∃ msgArr : Wire.Message, served.route [softRam, softMaster] (transactionMessage readRequest) =
          (served, .send 0 msgArr) ∧
        startedClient.receiveTransaction (.ok msgArr) =
          some (startedClient, some { readRequest with target := 1 }, {}) := by
  refine ⟨by rw [run_masterFirst]; rfl, by decide, by decide, ?_⟩
  rintro ⟨msgArr, hsend, hreceive⟩
  have hroute : served.route [softRam, softMaster] (transactionMessage readRequest : Wire.Message) =
      (served, .send 0 (mutateTarget (transactionMessage readRequest) 1)) := by decide
  rw [hroute] at hsend
  cases hsend
  revert hreceive
  decide

end Router

end SwAxi
