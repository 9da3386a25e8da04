import SwAxi.Handshake

/-! The exchanges of the handshake: what each end reads in the messages of the other, and what the calls of a
client make of the router's answers. -/

namespace SwAxi
open Wire (Flatbuffers)
open Wire.Flatbuffers (getRoot)
open Transition

/-! ### Messages between the router and its clients -/

section
variable {Buf : Type} [Flatbuffers Buf]
open RouterClient

theorem getType_systemInfoMessage (si : SystemInfo) : (getRoot (systemInfoMessage si : Buf)).getType = .systemInfo :=
  Flatbuffers.getType_finish _

theorem getType_ackMessage : (getRoot (Client.ackMessage : Buf)).getType = .ack := Flatbuffers.getType_finish _

theorem getType_ipMessage (ip : IpInfo) : (getRoot (Client.ipMessage ip : Buf)).getType = .ipInfo :=
  Flatbuffers.getType_finish _

theorem getType_ackIpInfoMessage (id : UInt64) : (getRoot (Client.ackIpInfoMessage id : Buf)).getType = .ipAck :=
  Flatbuffers.getType_finish _

theorem getIpId_ackIpInfoMessage (id : UInt64) : (getRoot (Client.ackIpInfoMessage id : Buf)).getIpId = id :=
  Flatbuffers.getIpId_finish _

theorem getType_createErrorMessage (err : String) : (getRoot (createErrorMessage err : Buf)).getType = .error :=
  Flatbuffers.getType_finish _

theorem getType_ipInfoMessage (config : IpConfig) : (getRoot (ipInfoMessage config : Buf)).getType = .ipInfo :=
  Flatbuffers.getType_finish _

theorem getType_commitMessage : (getRoot (commitMessage : Buf)).getType = .commit := Flatbuffers.getType_finish _

theorem systemInfo_systemInfoMessage (si : SystemInfo) :
    (getRoot (systemInfoMessage si : Buf)).systemInfo = some (systemInfoTable si).omitDefaults := by
  simp [systemInfoMessage]

theorem readSystemInfo_table (si : SystemInfo) : readSystemInfo (systemInfoTable si).omitDefaults = some si := by
  simp [readSystemInfo]
  rfl

theorem readIpType_wire (type : IpType) : readIpType (wireIpType type) = some type := by cases type <;> rfl

theorem readImplementation_wire (impl : IpImplementation) : readImplementation (wireImplementation impl) = impl := by
  cases impl <;> rfl

theorem goIpType_wire (type : IpType) : Client.goIpType (wireIpType type) = type := by cases type <;> rfl

theorem goImplementation_wire (impl : IpImplementation) : Client.goImplementation (wireImplementation impl) = impl := by
  cases impl <;> rfl

/-- What is left of a block after its registration: its interrupts are not sent. -/
def IpConfig.registered (config : IpConfig) : IpConfig := { config with firstInterrupt := 0, numInterrupts := 0 }

theorem IpConfig.registered_eq_iff {config : IpConfig} :
    config.registered = config ↔ config.firstInterrupt = 0 ∧ config.numInterrupts = 0 := by
  obtain ⟨name, address, size, firstInterrupt, numInterrupts, type, implementation⟩ := config
  simp [registered, eq_comm]

/-- The block that the router makes of a registration. -/
def receivedIp (config : IpConfig) (clientId : UInt64) : IpInfo where
  name := config.name
  address := config.address
  size := config.size
  firstInterrupt := 0
  numInterrupts := 0
  type := config.type
  implementation := config.implementation
  id := 0
  clientId

theorem receiveIpInfo_ipInfoMessage (c : Client) (config : IpConfig) :
    c.receiveIpInfo (ipInfoMessage config : Buf) = some (.ok (some (receivedIp config c.id))) := by
  have htable : (getRoot (ipInfoMessage config : Buf)).ipInfo = some (Wire.IpInfo.omitDefaults {
      name := some config.name, address := some config.address, size := some config.size
      implementation := some (wireImplementation config.implementation), type := some (wireIpType config.type) }) := by
    simp [ipInfoMessage]
  have htype := goIpType_wire config.type
  have himpl := goImplementation_wire config.implementation
  simp [Client.receiveIpInfo, getType_ipInfoMessage, htable, receivedIp]
  exact ⟨rfl, rfl, rfl, rfl, rfl, htype, himpl⟩

theorem retrieveIpConfig_ipMessage {c : RouterClient} (hstate : c.state = .peerInfoReceived) (ip : IpInfo) :
    c.retrieveIpConfig (.ok (Client.ipMessage ip : Buf)) = some (c, some ip.config, {}) := by
  obtain ⟨table, htable, hname, haddress, hsize, hfirst, hnum, htype, himpl⟩ : ∃ table : Wire.IpInfo,
      (getRoot (Client.ipMessage ip : Buf)).ipInfo = some table ∧ table.name = some ip.name ∧
      table.getAddress = ip.address ∧ table.getSize = ip.size ∧ table.getFirstInterrupt = ip.firstInterrupt ∧
      table.getNumInterrupts = ip.numInterrupts ∧ table.getType = wireIpType ip.type ∧
      table.getImplementation = wireImplementation ip.implementation := by
    refine ⟨_, by simp [Client.ipMessage]; rfl, ?_⟩
    simp
    exact ⟨rfl, rfl, rfl, rfl, rfl, rfl⟩
  simp [retrieveIpConfig, ipConfigReply, retrieve, receive, hstate, getType_ipMessage, htable, hname, haddress, hsize,
    hfirst, hnum, htype, himpl, readIpType_wire, readImplementation_wire, IpInfo.config]

theorem receiveIpInfo_commitMessage (c : Client) : c.receiveIpInfo (commitMessage : Buf) = some (.ok none) := by
  simp [Client.receiveIpInfo, getType_commitMessage]

theorem shakeHands_systemInfoMessage (c : Client) (host si : SystemInfo) :
    c.shakeHands host (systemInfoMessage si : Buf) =
      some (.ok ({ c with systemInfo := si }, systemInfoMessage host)) := by
  simp [Client.shakeHands, getType_systemInfoMessage, systemInfo_systemInfoMessage]
  rfl

end

/-! ### What the calls of a client make of the router's messages -/

namespace Bridge
variable {S Buf : Type} [Flatbuffers Buf] {b : Bridge S}
open RouterClient

theorem connect_systemInfo {uri : String} {sock : Nat} {host : SystemInfo} (hstate : b.client.state = .disconnected)
    (huri : ¬(uri.length < 8 ∨ startsWith uri unixPrefix = false)) :
    b.connect uri { (Party.replied (systemInfoMessage host : Buf)) with socket := .ok sock, connect := fun _ => .ok () } =
      some ({ b with client := { state := .connected, connectedUri := uri, sock }, routerInfo := some host }, {}) := by
  simp [connect, connected, RouterClient.connect, dial, connectReply, hstate, huri, receive, Party.replied,
    getType_systemInfoMessage, systemInfo_systemInfoMessage, readSystemInfo_table]

theorem commitIp_ack (hstate : b.client.state = .connected) :
    b.commitIp (Party.replied (Client.ackMessage : Buf)) =
      some ({ b with client := { b.client with state := .committed } }, {}) := by
  simp [commitIp, committed, RouterClient.commitIp, commitIpReply, hstate, exchange, receive, Party.replied, getType_ackMessage]

theorem startTurn_systemInfo {si : SystemInfo} (hstate : b.client.state = .committed) :
    b.startTurn .peers (.ok (systemInfoMessage si : Buf)) =
      some ({ b with peers := b.peers ++ [si] }, .again .peers) := by
  simp [startTurn, peersTurned, retrievePeerInfo, peerInfoReply, retrieve, hstate, receive, getType_systemInfoMessage,
    systemInfo_systemInfoMessage, readSystemInfo_table]

theorem startTurn_peers_ack (hstate : b.client.state = .committed) :
    b.startTurn .peers (.ok (Client.ackMessage : Buf)) =
      some ({ b with client := { b.client with state := .peerInfoReceived } }, .again .ips) := by
  simp [startTurn, peersTurned, retrievePeerInfo, peerInfoReply, retrieve, hstate, receive, getType_ackMessage]

theorem startTurn_ipInfo {ip : IpInfo} (hstate : b.client.state = .peerInfoReceived) :
    b.startTurn .ips (.ok (Client.ipMessage ip : Buf)) =
      some ({ b with ipBlocks := b.ipBlocks ++ [ip.config] }, .again .ips) := by
  simp [startTurn, ipsTurned, retrieveIpConfig_ipMessage hstate]

theorem startTurn_ips_ack (hstate : b.client.state = .peerInfoReceived) :
    b.startTurn .ips (.ok (Client.ackMessage : Buf)) =
      some ({ b with client := { b.client with state := .started }, readerThread := some .receiving,
                     writerThread := some .popping }, .returned {}) := by
  simp [startTurn, ipsTurned, retrieveIpConfig, ipConfigReply, retrieve, hstate, receive, getType_ackMessage]

end Bridge

namespace Party
variable {S Buf : Type} [Flatbuffers Buf] {p : Party S Buf}
open RouterClient

/-- A call that begins waits for its reply, or fails. -/
theorem call_inv {p' : Party S Buf} {out : List Buf} (hc : p.call = some (p', out)) : ∃ calling, p' = { p with calling } ∧
    (calling = .failed ∨ (p.calling = .connect false ∧ calling = .connect true) ∨
      (∃ reg rest, p.calling = .register reg rest false ∧ calling = .register reg rest true) ∨
      (p.calling = .commitIp false ∧ calling = .commitIp true)) := by
  have hcalls : ∀ {ready : Bool} {calling : Calling S} {msgArr : Buf}, p.calls ready calling msgArr = (p', out) →
      p' = { p with calling := .failed } ∨ p' = { p with calling } := by
    intro ready calling msgArr heq
    cases ready with
    | true => exact Or.inr (congrArg Prod.fst heq).symm
    | false => exact Or.inl (congrArg Prod.fst heq).symm
  unfold Party.call at hc
  simp only at hc
  split at hc
  · rename_i hcalling
    rcases hcalls (Option.some.inj hc) with rfl | rfl
    · exact ⟨_, rfl, Or.inl rfl⟩
    · exact ⟨_, rfl, Or.inr (Or.inl ⟨hcalling, rfl⟩)⟩
  · rename_i reg rest hcalling
    rcases hcalls (Option.some.inj hc) with rfl | rfl
    · exact ⟨_, rfl, Or.inl rfl⟩
    · exact ⟨_, rfl, Or.inr (Or.inr (Or.inl ⟨reg, rest, hcalling, rfl⟩))⟩
  · rename_i hcalling
    rcases hcalls (Option.some.inj hc) with rfl | rfl
    · exact ⟨_, rfl, Or.inl rfl⟩
    · exact ⟨_, rfl, Or.inr (Or.inr (Or.inr ⟨hcalling, rfl⟩))⟩
  · cases hc

theorem registerIp_ack {c : RouterClient} {config : IpConfig} {id : UInt64} (hstate : c.state = .connected) :
    c.registerIp config (replied (Client.ackIpInfoMessage id : Buf)) = some (c, id, {}) := by
  simp [RouterClient.registerIp, registerIpReply, hstate, exchange, receive, replied, getType_ackIpInfoMessage,
    getIpId_ackIpInfoMessage]

theorem registerIp_refused {c : RouterClient} (Buf : Type) [Flatbuffers Buf] (config : IpConfig) (err : String)
    (hstate : c.state = .connected) :
    ∃ st, c.registerIp config (replied (createErrorMessage err : Buf)) = some (c.disconnect, 0, st) ∧
      st.isError = true := by
  refine ⟨⟨1, "Cannot register IP " ++ config.name ++ ": " ++ err⟩, ?_, rfl⟩
  have herr : (getRoot (createErrorMessage err : Buf)).errorMessage = some err := by simp [createErrorMessage]
  simp [RouterClient.registerIp, registerIpReply, hstate, exchange, receive, replied, getType_createErrorMessage,
    failWith, fail, herr]

/-- A registration that the router accepts leaves the lists and the connection as they were. -/
theorem register_ack (reg : Registration S) (id : UInt64) (hstate : p.bridge.client.state = .connected) :
    ∃ b, p.register reg (Client.ackIpInfoMessage id : Buf) = some (b, {}) ∧ b.client = p.bridge.client ∧
      b.peers = p.bridge.peers ∧ b.ipBlocks = p.bridge.ipBlocks := by
  cases reg with
  | slave slave config =>
    refine ⟨{ p.bridge with slaveMap := Function.update p.bridge.slaveMap id (some slave) }, ?_, rfl, rfl, rfl⟩
    simp [register, Bridge.registerSlave, Bridge.registeredSlave, registerIp_ack hstate]
  | master name =>
    let masterMap := Function.update p.bridge.masterMap id (some ((p.bridge.masterMap id).getD {}))
    refine ⟨{ p.bridge with masterMap }, ?_, rfl, rfl, rfl⟩
    simp [masterMap, register, Bridge.registerMaster, Bridge.registeredMaster, registerIp_ack hstate]

theorem register_refused (reg : Registration S) (err : String) (hstate : p.bridge.client.state = .connected) :
    ∃ st, p.register reg (createErrorMessage err : Buf) =
      some ({ p.bridge with client := p.bridge.client.disconnect }, st) ∧ st.isError = true := by
  cases reg with
  | slave slave config =>
    obtain ⟨st, hreg, hst⟩ := registerIp_refused Buf config err hstate
    refine ⟨st, ?_, hst⟩
    simp [register, Bridge.registerSlave, Bridge.registeredSlave, hreg, hst]
  | master name =>
    obtain ⟨st, hreg, hst⟩ := registerIp_refused Buf (Bridge.masterConfig name) err hstate
    refine ⟨st, ?_, hst⟩
    simp [register, Bridge.registerMaster, Bridge.registeredMaster, hreg, hst]

end Party

end SwAxi
