import SwAxi.Bridge
import SwAxi.Dpi
import SwAxi.Lib.Transition

/-! The bridge of the simulator (`src/sim/bridge.sv`, `src/sim/utils.sv`), over the library that it calls. -/

namespace SwAxi
open Wire (Flatbuffers)

namespace Sv

/-! ### Data -/

/-- Properties of a connected system. -/
structure SystemInfo where
  name : SvString := svString ""
  systemName : SvString := svString ""
  pid : UInt64 := 0
  hostname : SvString := svString ""
  deriving DecidableEq, Repr

/-- A generic status indicator for operations. -/
structure Status where
  code : UInt32
  message : SvString
  deriving DecidableEq, Repr

def Status.isOk (st : Status) : Bool := st.code == 0

def Status.isError (st : Status) : Bool := st.code != 0

/-- Information about an IP block. -/
structure IpConfig where
  name : SvString := svString ""
  address : UInt64 := 0
  size : UInt64 := 0
  firstInterrupt : UInt16 := 0
  numInterrupts : UInt16 := 0
  typ : IpType := .slave
  implementation : IpImplementation := .software
  deriving DecidableEq, Repr

def convertSystemInfo (si : CHandle) : Dpi SystemInfo := do
  let name ← Dpi.systemInfoGetName si
  let systemName ← Dpi.systemInfoGetSystemName si
  let pid ← Dpi.systemInfoGetPid si
  let hostname ← Dpi.systemInfoGetHostname si
  Dpi.systemInfoDelete si
  return { name, systemName, pid, hostname }

/-- A value that is no enumerator fails its `$cast`, which leaves the variable alone. -/
def convertIpConfig (ipc : CHandle) : Dpi IpConfig := do
  let name ← Dpi.ipConfigGetName ipc
  let (address, size) ← Dpi.ipConfigGetAddressAndSize ipc
  let (firstInterrupt, numInterrupts) ← Dpi.ipConfigGetInterrupts ipc
  let (typ, impl) ← Dpi.ipConfigGetType ipc
  Dpi.ipConfigDelete ipc
  return {
    name, address, size, firstInterrupt, numInterrupts
    typ := (IpType.ofInt typ).getD .slave
    implementation := (IpImplementation.ofInt impl).getD .software }

def convertStatus (st : CHandle) : Dpi Status := do
  let message ← Dpi.statusGetMsg st
  let code ← Dpi.statusGetCode st
  Dpi.statusDelete st
  return { code, message }

section
variable {h : Heap Object} {l : List (Nat × Object)} {n : Nat}

def SystemInfo.ofNative (si : SwAxi.SystemInfo) : SystemInfo where
  name := svString si.name
  systemName := svString si.systemName
  pid := si.pid
  hostname := svString si.hostname

def Status.ofNative (st : SwAxi.Status) : Status where
  code := st.code
  message := svString st.msg

def IpConfig.ofNative (ipc : SwAxi.IpConfig) : IpConfig where
  name := svString ipc.name
  address := ipc.address
  size := ipc.size
  firstInterrupt := ipc.firstInterrupt
  numInterrupts := ipc.numInterrupts
  typ := ipc.type
  implementation := ipc.implementation

/-- The same configuration in the library. -/
def IpConfig.toNative (cfg : IpConfig) : SwAxi.IpConfig where
  name := cfg.name.val
  address := cfg.address
  size := cfg.size
  firstInterrupt := cfg.firstInterrupt
  numInterrupts := cfg.numInterrupts
  type := cfg.typ
  implementation := cfg.implementation

theorem Status.isError_ofNative (st : SwAxi.Status) : (Status.ofNative st).isError = st.isError := rfl

theorem Status.isOk_ofNative (st : SwAxi.Status) : (Status.ofNative st).isOk = !st.isError := by
  simp [Status.isOk, Status.ofNative, SwAxi.Status.isError, bne]

/-- A conversion takes its object. -/
theorem convertSystemInfo_returns {si : SwAxi.SystemInfo} (hh : h.Holds ((n, .systemInfo si) :: l)) :
    (convertSystemInfo (some n)).Returns h (.ofNative si) l := by
  unfold convertSystemInfo
  refine Dpi.Returns.bind (Dpi.field_returns hh List.mem_cons_self rfl) fun _ hh => ?_
  refine Dpi.Returns.bind (Dpi.field_returns hh List.mem_cons_self rfl) fun _ hh => ?_
  refine Dpi.Returns.bind (Dpi.field_returns hh List.mem_cons_self rfl) fun _ hh => ?_
  refine Dpi.Returns.bind (Dpi.field_returns hh List.mem_cons_self rfl) fun _ hh => ?_
  exact Dpi.Returns.bind (Dpi.delete_returns hh rfl) fun _ hh => .pure hh

theorem convertIpConfig_returns {ipc : SwAxi.IpConfig} (hh : h.Holds ((n, .ipConfig ipc) :: l)) :
    (convertIpConfig (some n)).Returns h (.ofNative ipc) l := by
  unfold convertIpConfig
  refine Dpi.Returns.bind (Dpi.field_returns hh List.mem_cons_self rfl) fun _ hh => ?_
  refine Dpi.Returns.bind (Dpi.field_returns hh List.mem_cons_self rfl) fun _ hh => ?_
  refine Dpi.Returns.bind (Dpi.field_returns hh List.mem_cons_self rfl) fun _ hh => ?_
  refine Dpi.Returns.bind (Dpi.field_returns hh List.mem_cons_self rfl) fun _ hh => ?_
  refine Dpi.Returns.bind (Dpi.delete_returns hh rfl) fun _ hh => ?_
  simp only [IpType.ofInt_toInt, IpImplementation.ofInt_toInt, Option.getD_some]
  exact .pure hh

theorem convertStatus_returns {st : SwAxi.Status} (hh : h.Holds ((n, .status st) :: l)) :
    (convertStatus (some n)).Returns h (.ofNative st) l := by
  unfold convertStatus
  refine Dpi.Returns.bind (Dpi.field_returns hh List.mem_cons_self rfl) fun _ hh => ?_
  refine Dpi.Returns.bind (Dpi.field_returns hh List.mem_cons_self rfl) fun _ hh => ?_
  exact Dpi.Returns.bind (Dpi.delete_returns hh rfl) fun _ hh => .pure hh

end

/-! ### The bridge -/

structure Bridge (S : Type) where
  client : CHandle := none
  name : SvString := svString "unnamed"
  routerInfo : SystemInfo := {}
  peers : List SystemInfo := []
  ipBlocks : List IpConfig := []
  slaveMap : UInt64 → Option S := fun _ => none

/-- What a turn of a loop of `start` leads to. -/
inductive StartResult where
  | again (loop : SwAxi.Bridge.StartLoop)
  | returned (status : Status)
  deriving DecidableEq, Repr

namespace Bridge
variable {S Buf : Type} [Flatbuffers Buf] (b : Bridge S)

/-- `connect`; it makes a new client, whatever has become of the last one. -/
def connect (uri : SvString) (x : RouterClient.ConnectCalls Buf) : Dpi (Bridge S × Status) := do
  let client ← Dpi.clientNew
  let (st, si) ← Dpi.clientConnect client uri b.name x
  let routerInfo ← match si with
    | none => pure b.routerInfo
    | some si => convertSystemInfo (some si)
  let status ← convertStatus st
  return ({ b with client, routerInfo }, status)

def registerSlave (slave : S) (cfg : IpConfig) (x : RouterClient.Exchange Buf) : Dpi (Bridge S × Status) := do
  let (st, id) ← Dpi.clientRegisterSlave b.client cfg.name cfg.address cfg.size cfg.firstInterrupt cfg.numInterrupts
    cfg.typ.toInt cfg.implementation.toInt x
  let status ← convertStatus st
  return (if status.isOk then { b with slaveMap := Function.update b.slaveMap id (some slave) } else b, status)

def commitIp (x : RouterClient.Exchange Buf) : Dpi (Bridge S × Status) := do
  let (st, _) ← Dpi.clientCommitIp b.client x
  let status ← convertStatus st
  return (b, status)

/-- One turn of a loop of `start`. -/
def startTurn (loop : SwAxi.Bridge.StartLoop) (read : RouterClient.Received Buf) : Dpi (Bridge S × StartResult) :=
  match loop with
  | .peers => do
    let (st, data) ← Dpi.clientRetrievePeerInfo b.client read
    let status ← convertStatus st
    if status.isError then return (b, .returned status)
    else match data with
    | none => return (b, .again .ips)
    | some data => do
      let si ← convertSystemInfo (some data)
      return ({ b with peers := b.peers ++ [si] }, .again .peers)
  | .ips => do
    let (st, data) ← Dpi.clientRetrieveIpConfig b.client read
    let status ← convertStatus st
    if status.isError then return (b, .returned status)
    else match data with
    | none => return (b, .returned status)
    | some data => do
      let ipc ← convertIpConfig (some data)
      return ({ b with ipBlocks := b.ipBlocks ++ [ipc] }, .again .ips)

omit [Flatbuffers Buf] in
def disconnect : Dpi (Bridge S) := do
  Dpi.clientDisconnect b.client
  Dpi.clientDelete b.client
  return { b with client := none }

section
variable {b : Bridge S} {h : Heap Object} {l : List (Nat × Object)} {n : Nat} {c c' : RouterClient} {st : SwAxi.Status}

theorem connect_returns {uri : SvString} {x : RouterClient.ConnectCalls Buf} {si : Option SwAxi.SystemInfo}
    (hh : h.Holds l) (hc : ({} : RouterClient).connect uri.val x = some (c, si, st)) :
    (b.connect uri x).Returns h
      ({ b with client := some h.next, routerInfo := (si.map SystemInfo.ofNative).getD b.routerInfo }, .ofNative st)
      ((h.next, .client c) :: l) := by
  unfold connect
  refine Dpi.Returns.bind (Dpi.alloc_returns hh) fun h₁ hh₁ => ?_
  have hcall : ∃ m, (Dpi.clientConnect (some h.next) uri b.name x).Returns h₁ (some m, si.map fun _ => h₁.next)
      ((m, .status st) :: (si.toList.map (fun si => (h₁.next, .systemInfo si)) ++ (h.next, .client c) :: l)) := by
    refine Dpi.operate_returns hh₁ hc fun h' hh' hnext => ?_
    exact hnext ▸ Dpi.allocOption_returns Object.systemInfo si hh'
  obtain ⟨m, hcall⟩ := hcall
  refine hcall.bind fun h₂ hh₂ => ?_
  cases si with
  | none =>
    refine Dpi.Returns.bind (.pure hh₂) fun h₃ hh₃ => ?_
    exact Dpi.Returns.bind (convertStatus_returns hh₃) fun _ hh => .pure hh
  | some si =>
    refine Dpi.Returns.bind (convertSystemInfo_returns (hh₂.perm (List.Perm.swap ..))) fun h₃ hh₃ => ?_
    exact Dpi.Returns.bind (convertStatus_returns hh₃) fun _ hh => .pure hh

theorem connect_crash {uri : SvString} {x : RouterClient.ConnectCalls Buf} (hh : h.Holds l)
    (hc : ({} : RouterClient).connect uri.val x = none) : b.connect uri x h = .error .crash := by
  have hnew : Dpi.clientNew h = .ok (some h.next, h.alloc (.client {})) := rfl
  unfold connect
  rw [Dpi.bind_ok hnew]
  exact Dpi.bind_error (Dpi.operate_crash hh.alloc hc)

/-- The configuration as the library is handed it. -/
theorem registerIp_toInt (cfg : IpConfig) (x : RouterClient.Exchange Buf) :
    Dpi.registerIp c cfg.name cfg.address cfg.size cfg.firstInterrupt cfg.numInterrupts cfg.typ.toInt
      cfg.implementation.toInt x = c.registerIp cfg.toNative x := by
  simp only [Dpi.registerIp, IpType.ofInt_toInt]
  cases hcfg : cfg.implementation <;> simp [IpImplementation.toInt, IpConfig.toNative, hcfg]

theorem registerSlave_returns (slave : S) {cfg : IpConfig} {x : RouterClient.Exchange Buf} {id : UInt64}
    (hb : b.client = some n) (hh : h.Holds ((n, .client c) :: l)) (hc : c.registerIp cfg.toNative x = some (c', id, st)) :
    (b.registerSlave slave cfg x).Returns h
      (if st.isError then b else { b with slaveMap := Function.update b.slaveMap id (some slave) }, .ofNative st)
      ((n, .client c') :: l) := by
  unfold registerSlave
  have hcall : ∃ m, (Dpi.clientRegisterSlave b.client cfg.name cfg.address cfg.size cfg.firstInterrupt cfg.numInterrupts
      cfg.typ.toInt cfg.implementation.toInt x).Returns h (some m, id) ((m, .status st) :: (n, .client c') :: l) := by
    rw [hb]
    exact Dpi.operate_returns hh (by rw [registerIp_toInt, hc]) fun _ hh _ => .pure hh
  obtain ⟨m, hcall⟩ := hcall
  refine hcall.bind fun h₁ hh₁ => ?_
  refine Dpi.Returns.bind (convertStatus_returns hh₁) fun _ hh => ?_
  rw [Status.isOk_ofNative]
  cases st.isError <;> exact .pure hh

theorem registerSlave_crash {slave : S} {cfg : IpConfig} {x : RouterClient.Exchange Buf} (hb : b.client = some n)
    (hh : h.Holds ((n, .client c) :: l)) (hc : c.registerIp cfg.toNative x = none) :
    b.registerSlave slave cfg x h = .error .crash := by
  unfold registerSlave
  rw [hb]
  exact Dpi.bind_error (Dpi.operate_crash hh (by rw [registerIp_toInt, hc]))

theorem commitIp_returns {x : RouterClient.Exchange Buf} (hb : b.client = some n) (hh : h.Holds ((n, .client c) :: l))
    (hc : c.commitIp x = some (c', (), st)) :
    (b.commitIp x).Returns h (b, .ofNative st) ((n, .client c') :: l) := by
  unfold commitIp
  have hcall : ∃ m, (Dpi.clientCommitIp b.client x).Returns h (some m, ()) ((m, .status st) :: (n, .client c') :: l) := by
    rw [hb]
    exact Dpi.operate_returns hh hc fun _ hh _ => .pure hh
  obtain ⟨m, hcall⟩ := hcall
  refine hcall.bind fun h₁ hh₁ => ?_
  exact Dpi.Returns.bind (convertStatus_returns hh₁) fun _ hh => .pure hh

theorem commitIp_crash {x : RouterClient.Exchange Buf} (hb : b.client = some n) (hh : h.Holds ((n, .client c) :: l))
    (hc : c.commitIp x = none) : b.commitIp x h = .error .crash := by
  unfold commitIp
  rw [hb]
  exact Dpi.bind_error (Dpi.operate_crash hh hc)

/-- What a turn of the first loop makes of what the client retrieved. -/
def afterPeer (b : Bridge S) (si : Option SwAxi.SystemInfo) (st : SwAxi.Status) : Bridge S × StartResult :=
  if st.isError then (b, .returned (.ofNative st))
  else match si with
  | none => (b, .again .ips)
  | some si => ({ b with peers := b.peers ++ [.ofNative si] }, .again .peers)

/-- What a turn of the second loop makes of it. -/
def afterIp (b : Bridge S) (ipc : Option SwAxi.IpConfig) (st : SwAxi.Status) : Bridge S × StartResult :=
  if st.isError then (b, .returned (.ofNative st))
  else match ipc with
  | none => (b, .returned (.ofNative st))
  | some ipc => ({ b with ipBlocks := b.ipBlocks ++ [.ofNative ipc] }, .again .ips)

omit [Flatbuffers Buf] in
@[simp] theorem afterPeer_client {si : Option SwAxi.SystemInfo} : (b.afterPeer si st).1.client = b.client := by
  unfold afterPeer
  cases st.isError <;> cases si <;> rfl

omit [Flatbuffers Buf] in
@[simp] theorem afterIp_client {ipc : Option SwAxi.IpConfig} : (b.afterIp ipc st).1.client = b.client := by
  unfold afterIp
  cases st.isError <;> cases ipc <;> rfl

/-- A peer comes with a status that is no error, so that its object is converted. -/
theorem peersTurn_returns {read : RouterClient.Received Buf} {si : Option SwAxi.SystemInfo} (hb : b.client = some n)
    (hh : h.Holds ((n, .client c) :: l)) (hc : c.retrievePeerInfo read = some (c', si, st)) :
    (b.startTurn .peers read).Returns h (b.afterPeer si st) ((n, .client c') :: l) := by
  simp only [startTurn, afterPeer]
  have hcall : ∃ m, (Dpi.clientRetrievePeerInfo b.client read).Returns h (some m, si.map fun _ => h.next)
      ((m, .status st) :: (si.toList.map (fun si => (h.next, .systemInfo si)) ++ (n, .client c') :: l)) := by
    rw [hb]
    refine Dpi.operate_returns hh hc fun h' hh' hnext => ?_
    exact hnext ▸ Dpi.allocOption_returns Object.systemInfo si hh'
  obtain ⟨m, hcall⟩ := hcall
  refine hcall.bind fun h₁ hh₁ => ?_
  refine Dpi.Returns.bind (convertStatus_returns hh₁) fun h₂ hh₂ => ?_
  rw [Status.isError_ofNative]
  cases herror : st.isError with
  | true =>
    obtain rfl : si = none := (Dpi.retrievePeerInfo_retrieval hc).none_of_error herror
    exact .pure hh₂
  | false =>
    cases si with
    | none => exact .pure hh₂
    | some si => exact Dpi.Returns.bind (convertSystemInfo_returns hh₂) fun _ hh => .pure hh

/-- A block comes with a status that is no error; one of an unknown type stays where it was allocated. -/
theorem ipsTurn_returns {read : RouterClient.Received Buf} {ipc : Option SwAxi.IpConfig} (hb : b.client = some n)
    (hh : h.Holds ((n, .client c) :: l)) (hc : c.retrieveIpConfig read = some (c', ipc, st)) :
    (b.startTurn .ips read).Returns h (b.afterIp ipc st)
      ((Dpi.strayIpConfig c read).toList.map (fun ipc => (h.next, .ipConfig ipc)) ++ (n, .client c') :: l) := by
  have hretrieval : Dpi.Retrieval .peerInfoReceived c (Dpi.strayIpConfig c read) c' ipc st :=
    Dpi.retrieveIpConfig_retrieval hc
  simp only [startTurn, afterIp]
  have hcall : ∃ m, (Dpi.clientRetrieveIpConfig b.client read).Returns h (some m, ipc.map fun _ => h.next)
      ((m, .status st) :: (ipc.toList.map (fun ipc => (h.next, .ipConfig ipc)) ++
        ((Dpi.strayIpConfig c read).toList.map (fun ipc => (h.next, .ipConfig ipc)) ++ (n, .client c') :: l))) := by
    rw [hb]
    refine Dpi.operate_returns hh (by rw [hc]; rfl) fun h' hh' hnext => ?_
    have hstray := Dpi.allocOption_returns Object.ipConfig (Dpi.strayIpConfig c read) hh'
    rw [hnext] at hstray
    cases herror : st.isError with
    | true =>
      obtain rfl := hretrieval.none_of_error herror
      exact hstray.bind fun _ hh => .pure hh
    | false =>
      rw [hretrieval.nothing_of_ok herror]
      exact hnext ▸ Dpi.allocOption_returns Object.ipConfig ipc hh'
  obtain ⟨m, hcall⟩ := hcall
  refine hcall.bind fun h₁ hh₁ => ?_
  refine Dpi.Returns.bind (convertStatus_returns hh₁) fun h₂ hh₂ => ?_
  rw [Status.isError_ofNative]
  cases herror : st.isError with
  | true =>
    obtain rfl := hretrieval.none_of_error herror
    exact .pure hh₂
  | false =>
    cases ipc with
    | none => exact .pure hh₂
    | some ipc => exact Dpi.Returns.bind (convertIpConfig_returns hh₂) fun _ hh => .pure hh

theorem peersTurn_crash {read : RouterClient.Received Buf} (hb : b.client = some n) (hh : h.Holds ((n, .client c) :: l))
    (hc : c.retrievePeerInfo read = none) : b.startTurn .peers read h = .error .crash := by
  simp only [startTurn, hb]
  exact Dpi.bind_error (Dpi.operate_crash hh hc)

theorem ipsTurn_crash {read : RouterClient.Received Buf} (hb : b.client = some n) (hh : h.Holds ((n, .client c) :: l))
    (hc : c.retrieveIpConfig read = none) : b.startTurn .ips read h = .error .crash := by
  simp only [startTurn, hb]
  exact Dpi.bind_error (Dpi.operate_crash hh (by rw [hc]; rfl))

theorem disconnect_returns (hb : b.client = some n) (hh : h.Holds ((n, .client c) :: l)) :
    b.disconnect.Returns h { b with client := none } l := by
  unfold disconnect
  have hcall : (Dpi.clientDisconnect b.client).Returns h () ((n, .client c.disconnect) :: l) := by
    rw [hb]
    simp only [Dpi.clientDisconnect, Dpi.checked, pure_bind]
    exact Dpi.Returns.bind (Dpi.access_returns hh List.mem_cons_self rfl) fun _ hh => ⟨_, rfl, hh.store⟩
  refine hcall.bind fun h₁ hh₁ => ?_
  have hdelete : (Dpi.clientDelete b.client).Returns h₁ () l := by
    rw [hb]
    exact Dpi.delete_returns hh₁ rfl
  exact hdelete.bind fun _ hh => .pure hh

/-! Without a client, the calls that go to it terminate the process. -/

theorem registerSlave_null (slave : S) (cfg : IpConfig) (x : RouterClient.Exchange Buf) (hb : b.client = none) :
    ∃ text, b.registerSlave slave cfg x h = .error (.terminate text) := by
  unfold registerSlave
  rw [hb]
  exact ⟨_, Dpi.bind_error Dpi.operate_null⟩

theorem commitIp_null (x : RouterClient.Exchange Buf) (hb : b.client = none) :
    ∃ text, b.commitIp x h = .error (.terminate text) := by
  unfold commitIp
  rw [hb]
  exact ⟨_, Dpi.bind_error Dpi.operate_null⟩

theorem startTurn_null (loop : SwAxi.Bridge.StartLoop) (read : RouterClient.Received Buf) (hb : b.client = none) :
    ∃ text, b.startTurn loop read h = .error (.terminate text) := by
  cases loop with
  | peers =>
    simp only [startTurn, hb]
    exact ⟨_, Dpi.bind_error Dpi.operate_null⟩
  | ips =>
    simp only [startTurn, hb]
    exact ⟨_, Dpi.bind_error Dpi.operate_null⟩

omit [Flatbuffers Buf] in
theorem disconnect_null (hb : b.client = none) : ∃ text, b.disconnect h = .error (.terminate text) := by
  unfold disconnect
  rw [hb]
  exact ⟨_, Dpi.bind_error (Dpi.bind_error rfl)⟩

end

end Bridge

/-! ### Its use -/

/-- The calls of a test bench, with what the socket calls under them give. -/
inductive Event (S Buf : Type) where
  | connect (uri : SvString) (x : RouterClient.ConnectCalls Buf)
  | registerSlave (slave : S) (cfg : IpConfig) (x : RouterClient.Exchange Buf)
  | commitIp (x : RouterClient.Exchange Buf)
  /-- `start` is called. -/
  | start
  /-- A turn of one of its loops. -/
  | turn (read : RouterClient.Received Buf)
  | disconnect

/-- A test bench with its bridge. The last field is no part of its state: the statuses that its calls returned. -/
structure Session (S : Type) where
  heap : Heap Object := .empty
  bridge : Bridge S := {}
  /-- The loop of `start` that is running. -/
  starting : Option SwAxi.Bridge.StartLoop := none
  /-- How the simulator's process has ended. -/
  ended : Option Abort := none
  returned : List Status := []

namespace Session
variable {S Buf : Type} (s : Session S)

/-- A call that returns, or ends the process. -/
def call {α : Type} (f : Dpi α) (next : α → Heap Object → Session S) : Session S :=
  match f s.heap with
  | .error a => { s with ended := some a }
  | .ok (a, heap) => next a heap

def return_ (r : Bridge S × Status) (heap : Heap Object) : Session S :=
  { s with heap, bridge := r.1, starting := none, returned := s.returned ++ [r.2] }

/-- A turn of a loop of `start` that is done. -/
def turned (r : Bridge S × StartResult) (heap : Heap Object) : Session S :=
  match r.2 with
  | .again loop => { s with heap, bridge := r.1, starting := some loop }
  | .returned status => s.return_ (r.1, status) heap

variable [Flatbuffers Buf]

def step (s : Session S) (e : Event S Buf) : Option (Session S) :=
  if s.ended.isSome then none
  else match s.starting, e with
  | none, .connect uri x => some (s.call (s.bridge.connect uri x) s.return_)
  | none, .registerSlave slave cfg x => some (s.call (s.bridge.registerSlave slave cfg x) s.return_)
  | none, .commitIp x => some (s.call (s.bridge.commitIp x) s.return_)
  | none, .start => some { s with starting := some .peers }
  | some loop, .turn read =>
    some (s.call (s.bridge.startTurn loop read) s.turned)
  | none, .disconnect => some (s.call s.bridge.disconnect fun bridge heap => { s with heap, bridge })
  | _, _ => none

/-! ### The steps -/

section
variable {s t : Session S}

omit [Flatbuffers Buf] in
theorem call_of_returns {α : Type} {f : Dpi α} {a : α} {l : List (Nat × Object)} {k : α → Heap Object → Session S}
    (hf : f.Returns s.heap a l) : ∃ heap, s.call f k = k a heap ∧ heap.Holds l := by
  obtain ⟨heap, hf, hh⟩ := hf
  exact ⟨heap, by simp only [call, hf], hh⟩

omit [Flatbuffers Buf] in
theorem call_of_error {α : Type} {f : Dpi α} {x : Abort} {k : α → Heap Object → Session S} (hf : f s.heap = .error x) :
    s.call f k = { s with ended := some x } := by
  simp only [call, hf]

section
variable {r : Bridge S × Status} {r' : Bridge S × StartResult} {heap : Heap Object}

omit [Flatbuffers Buf]

@[simp] theorem return_heap : (s.return_ r heap).heap = heap := rfl
@[simp] theorem return_bridge : (s.return_ r heap).bridge = r.1 := rfl
@[simp] theorem return_ended : (s.return_ r heap).ended = s.ended := rfl

@[simp] theorem turned_heap : (s.turned r' heap).heap = heap := by
  cases h : r'.2 <;> simp [turned, h]

@[simp] theorem turned_bridge : (s.turned r' heap).bridge = r'.1 := by
  cases h : r'.2 <;> simp [turned, h]

@[simp] theorem turned_ended : (s.turned r' heap).ended = s.ended := by
  cases h : r'.2 <;> simp [turned, h]

end

/-- Nothing is called once the process has ended. -/
theorem ended_of_step {e : Event S Buf} (hs : s.step e = some t) : s.ended = none := by
  unfold step at hs
  split at hs
  · cases hs
  · rename_i hended
    simpa using hended

theorem step_connect {uri : SvString} {x : RouterClient.ConnectCalls Buf} :
    s.step (.connect uri x) = some t ↔
      s.ended = none ∧ s.starting = none ∧ t = s.call (s.bridge.connect uri x) s.return_ := by
  unfold step
  cases s.ended <;> cases s.starting <;> simp [eq_comm]

theorem step_registerSlave {slave : S} {cfg : IpConfig} {x : RouterClient.Exchange Buf} :
    s.step (.registerSlave slave cfg x) = some t ↔
      s.ended = none ∧ s.starting = none ∧ t = s.call (s.bridge.registerSlave slave cfg x) s.return_ := by
  unfold step
  cases s.ended <;> cases s.starting <;> simp [eq_comm]

theorem step_commitIp {x : RouterClient.Exchange Buf} :
    s.step (.commitIp x) = some t ↔
      s.ended = none ∧ s.starting = none ∧ t = s.call (s.bridge.commitIp x) s.return_ := by
  unfold step
  cases s.ended <;> cases s.starting <;> simp [eq_comm]

theorem step_start : s.step (.start : Event S Buf) = some t ↔
    s.ended = none ∧ s.starting = none ∧ t = { s with starting := some .peers } := by
  unfold step
  cases s.ended <;> cases s.starting <;> simp [eq_comm]

theorem step_turn {read : RouterClient.Received Buf} :
    s.step (.turn read) = some t ↔
      s.ended = none ∧ ∃ loop, s.starting = some loop ∧ t = s.call (s.bridge.startTurn loop read) s.turned := by
  unfold step
  cases s.ended <;> cases s.starting <;> simp [eq_comm]

theorem step_disconnect : s.step (.disconnect : Event S Buf) = some t ↔
    s.ended = none ∧ s.starting = none ∧
      t = s.call s.bridge.disconnect fun bridge heap => { s with heap, bridge } := by
  unfold step
  cases s.ended <;> cases s.starting <;> simp [eq_comm]

end

end Session

end Sv

end SwAxi
