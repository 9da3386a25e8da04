import SwAxi.Operations
import SwAxi.Lib.Heap
import Mathlib.Tactic.Common

/-! The library of the simulator (`src/sim/bridge.cc`): `RouterClient` behind handles, for calls over the DPI of
SystemVerilog, whose variables take the results. -/

namespace SwAxi
open Wire (Flatbuffers)
open Wire.Flatbuffers (getRoot)

/-! ### Values that cross the DPI -/

/-- The terminator of a C string. -/
def nul : Char := Char.ofNat 0

/-- A `string` of SystemVerilog, in which no terminator is stored. -/
abbrev SvString := { s : String // nul ∉ s.toList }

/-- What the simulator copies of a C string. -/
def svString (s : String) : SvString :=
  ⟨String.ofList (s.toList.takeWhile (· ≠ nul)), fun h => by
    rw [String.toList_ofList] at h
    simpa using List.all_eq_true.mp List.all_takeWhile _ h⟩

/-- The value of an enumerator, which is the same in both languages. -/
def IpType.toInt : IpType → Int
  | .slave => 0
  | .slaveLite => 1
  | .slaveStream => 2
  | .master => 3
  | .masterLite => 4
  | .masterStream => 5

def IpType.ofInt : Int → Option IpType
  | 0 => some .slave
  | 1 => some .slaveLite
  | 2 => some .slaveStream
  | 3 => some .master
  | 4 => some .masterLite
  | 5 => some .masterStream
  | _ => none

def IpImplementation.toInt : IpImplementation → Int
  | .software => 0
  | .hardware => 1

def IpImplementation.ofInt : Int → Option IpImplementation
  | 0 => some .software
  | 1 => some .hardware
  | _ => none

@[simp] theorem IpType.ofInt_toInt (type : IpType) : IpType.ofInt type.toInt = some type := by cases type <;> rfl

@[simp] theorem IpImplementation.ofInt_toInt (impl : IpImplementation) :
    IpImplementation.ofInt impl.toInt = some impl := by
  cases impl <;> rfl

/-! ### Objects behind handles -/

/-- What a `chandle` points to. -/
inductive Object where
  | client (c : RouterClient)
  | status (st : Status)
  | systemInfo (si : SystemInfo)
  | ipConfig (ipc : IpConfig)
  deriving DecidableEq, Repr

def Object.client? : Object → Option RouterClient
  | .client c => some c
  | _ => none

def Object.status? : Object → Option Status
  | .status st => some st
  | _ => none

def Object.systemInfo? : Object → Option SystemInfo
  | .systemInfo si => some si
  | _ => none

def Object.ipConfig? : Object → Option IpConfig
  | .ipConfig ipc => some ipc
  | _ => none

/-- A `chandle`; `none` is the null pointer. -/
abbrev CHandle := Option Nat

/-- The ways in which a call does not return. -/
inductive Abort where
  /-- `std::terminate`, after this text. -/
  | terminate (text : String)
  /-- An object is used that is not there, or is another one. -/
  | invalid
  /-- A message lacks a table or a string, or declares a size on which `resize` throws. -/
  | crash
  deriving DecidableEq, Repr

/-- A call of the library. -/
abbrev Dpi := StateT (Heap Object) (Except Abort)

namespace Dpi
variable {α β Buf : Type}

def alloc (o : Object) : Dpi CHandle := fun h => .ok (some h.next, h.alloc o)

/-- A result that may be the null pointer. -/
def allocOption (o : Option Object) : Dpi CHandle :=
  match o with
  | none => pure none
  | some o => alloc o

/-- A pointer that is checked before its use. -/
def checked (text : String) (p : CHandle) : Dpi Nat :=
  match p with
  | none => throw (.terminate text)
  | some n => pure n

/-- The object behind a pointer, which is cast to its type. -/
def access (cast : Object → Option α) (n : Nat) : Dpi α := fun h =>
  match (h.cells n).bind cast with
  | none => .error .invalid
  | some a => .ok (a, h)

def store (n : Nat) (o : Object) : Dpi Unit := fun h => .ok ((), h.store n o)

/-- `delete`, which takes the null pointer too. -/
def delete (cast : Object → Option α) (p : CHandle) : Dpi Unit :=
  match p with
  | none => pure ()
  | some n => do
    let _ ← access cast n
    fun h => .ok ((), h.release n)

/-- A field of an object. -/
def field (text : String) (cast : Object → Option α) (get : α → β) (p : CHandle) : Dpi β := do
  let n ← checked text p
  let a ← access cast n
  return get a

/-- An operation of the client: its outputs, and the status. -/
def operate (text : String) (client : CHandle) (op : RouterClient → Option (RouterClient × α × Status))
    (output : α → Dpi β) : Dpi (CHandle × β) := do
  let n ← checked text client
  let c ← access Object.client? n
  match op c with
  | none => throw .crash
  | some (c, a, st) =>
    store n (.client c)
    let b ← output a
    let status ← alloc (.status st)
    return (status, b)

/-! ### Clients -/

/-- `sw_axi_client_new`. -/
def clientNew : Dpi CHandle := alloc (.client {})

/-- `sw_axi_client_delete`. -/
def clientDelete (client : CHandle) : Dpi Unit := delete Object.client? client

section
variable [Flatbuffers Buf]

/-- `sw_axi_client_connect`; the name goes into the message that `connect` writes. -/
def clientConnect (client : CHandle) (uri _name : SvString) (x : RouterClient.ConnectCalls Buf) : Dpi (CHandle × CHandle) :=
  operate "Either of client, status, or systemInfo pointers is null" client (fun c => c.connect uri.val x)
    fun si => allocOption (si.map .systemInfo)

/-- `registerIp` on the configuration that `sw_axi_client_register_slave` fills in; its type may be no enumerator. -/
def registerIp (c : RouterClient) (name : SvString) (address size : UInt64) (firstInterrupt numInterrupts : UInt16)
    (type implementation : Int) (x : RouterClient.Exchange Buf) : Option (RouterClient × UInt64 × Status) :=
  match IpType.ofInt type with
  | some type =>
    let implementation := if implementation = 0 then .software else .hardware
    c.registerIp { name := name.val, address, size, firstInterrupt, numInterrupts, type, implementation } x
  | none =>
    if c.state ≠ .connected then some (c, 0, ⟨1, "Can register slaves only in CONNECTED mode"⟩)
    else some (c, 0, ⟨1, "Unknown IP type: " ++ toString type⟩)

/-- `sw_axi_client_register_slave`. -/
def clientRegisterSlave (client : CHandle) (name : SvString) (address size : UInt64)
    (firstInterrupt numInterrupts : UInt16) (type implementation : Int) (x : RouterClient.Exchange Buf) :
    Dpi (CHandle × UInt64) :=
  operate "Either of client, status, or id pointers is null" client
    (fun c => registerIp c name address size firstInterrupt numInterrupts type implementation x) pure

/-- `sw_axi_client_commit_ip`. -/
def clientCommitIp (client : CHandle) (x : RouterClient.Exchange Buf) : Dpi (CHandle × Unit) :=
  operate "Either client or status pointer is null" client (fun c => c.commitIp x) pure

/-- `sw_axi_client_retrieve_peer_info`. -/
def clientRetrievePeerInfo (client : CHandle) (read : RouterClient.Received Buf) : Dpi (CHandle × CHandle) :=
  operate "Either of client, status, or systemInfo pointers is null" client (fun c => c.retrievePeerInfo read)
    fun si => allocOption (si.map .systemInfo)

/-- The block that `retrieveIpConfig` has allocated and filled in when it finds the type to be unknown, and does not
    delete. -/
def strayIpConfig (c : RouterClient) (read : RouterClient.Received Buf) : Option IpConfig :=
  if c.state ≠ .peerInfoReceived then none
  else match read with
  | .error _ | .oversized => none
  | .ok data =>
    let msg := getRoot data
    if msg.getType ≠ .ipInfo then none
    else do
      let table ← msg.ipInfo
      let name ← table.name
      match RouterClient.readIpType table.getType with
      | some _ => none
      | none =>
        some {
          name
          address := table.getAddress
          size := table.getSize
          firstInterrupt := table.getFirstInterrupt
          numInterrupts := table.getNumInterrupts }

/-- `sw_axi_client_retrieve_ip_config`. -/
def clientRetrieveIpConfig (client : CHandle) (read : RouterClient.Received Buf) : Dpi (CHandle × CHandle) :=
  operate "Either of client, status, or ipConfig pointers is null" client
    (fun c => (c.retrieveIpConfig read).map fun (c', ipc, st) => (c', (strayIpConfig c read, ipc), st))
    fun (stray, ipc) => do
      let _ ← allocOption (stray.map .ipConfig)
      allocOption (ipc.map .ipConfig)

end

/-- `sw_axi_client_disconnect`. -/
def clientDisconnect (client : CHandle) : Dpi Unit := do
  let n ← checked "The client pointer is null" client
  let c ← access Object.client? n
  store n (.client c.disconnect)

/-! ### Results -/

/-- `sw_axi_status_get_msg`. -/
def statusGetMsg : CHandle → Dpi SvString :=
  field "The status pointer is null" Object.status? fun st => svString st.msg

/-- `sw_axi_status_get_code`. -/
def statusGetCode : CHandle → Dpi UInt32 := field "The status pointer is null" Object.status? fun st => st.code

/-- `sw_axi_status_delete`. -/
def statusDelete : CHandle → Dpi Unit := delete Object.status?

/-- `sw_axi_system_info_get_name`. -/
def systemInfoGetName : CHandle → Dpi SvString :=
  field "The systemInfo pointer is null" Object.systemInfo? fun si => svString si.name

/-- `sw_axi_system_info_get_system_name`. -/
def systemInfoGetSystemName : CHandle → Dpi SvString :=
  field "The systemInfo pointer is null" Object.systemInfo? fun si => svString si.systemName

/-- `sw_axi_system_info_get_pid`. -/
def systemInfoGetPid : CHandle → Dpi UInt64 := field "The systemInfo pointer is null" Object.systemInfo? fun si => si.pid

/-- `sw_axi_system_info_get_hostname`. -/
def systemInfoGetHostname : CHandle → Dpi SvString :=
  field "The systemInfo pointer is null" Object.systemInfo? fun si => svString si.hostname

/-- `sw_axi_system_info_delete`. -/
def systemInfoDelete : CHandle → Dpi Unit := delete Object.systemInfo?

/-- `sw_axi_ip_config_get_name`. -/
def ipConfigGetName : CHandle → Dpi SvString :=
  field "The ipConfig pointer is null" Object.ipConfig? fun ipc => svString ipc.name

/-- `sw_axi_ip_config_get_address_and_size`. -/
def ipConfigGetAddressAndSize : CHandle → Dpi (UInt64 × UInt64) :=
  field "Either of ipConfig, addr, or size pointers is null" Object.ipConfig? fun ipc => (ipc.address, ipc.size)

/-- `sw_axi_ip_config_get_interrupts`. -/
def ipConfigGetInterrupts : CHandle → Dpi (UInt16 × UInt16) :=
  field "Either of ipConfig, first, or num pointers is null" Object.ipConfig? fun ipc =>
    (ipc.firstInterrupt, ipc.numInterrupts)

/-- `sw_axi_ip_config_get_type`. -/
def ipConfigGetType : CHandle → Dpi (Int × Int) :=
  field "Either of ipConfig, typ, or impl pointers is null" Object.ipConfig? fun ipc =>
    (ipc.type.toInt, ipc.implementation.toInt)

/-- `sw_axi_ip_config_delete`. -/
def ipConfigDelete : CHandle → Dpi Unit := delete Object.ipConfig?

/-! ### What a retrieval comes to -/

/-- A retrieval is refused in another state than `s`; it drops the connection; it finds a block of unknown type, which
    is an error that keeps the connection; or it goes well. -/
inductive Retrieval (s : RouterClient.State) (c : RouterClient) (stray : Option IpConfig) :
    RouterClient → Option α → Status → Prop where
  | refused {st : Status} (state : c.state ≠ s) (nothing : stray = none) (error : st.isError = true) :
    Retrieval s c stray c none st
  | dropped {st : Status} (state : c.state = s) (nothing : stray = none) (error : st.isError = true) :
    Retrieval s c stray c.disconnect none st
  | unknown {st : Status} (state : c.state = s) (block : stray.isSome = true) (error : st.isError = true) :
    Retrieval s c stray c none st
  | fine {c' : RouterClient} {v : Option α} (state : c.state = s) (nothing : stray = none) : Retrieval s c stray c' v {}

theorem Retrieval.none_of_error {s : RouterClient.State} {c c' : RouterClient} {stray : Option IpConfig} {v : Option α}
    {st : Status} (h : Retrieval s c stray c' v st) (herror : st.isError = true) : v = none := by
  cases h with
  | refused | dropped | unknown => rfl
  | fine => cases herror

theorem Retrieval.nothing_of_ok {s : RouterClient.State} {c c' : RouterClient} {stray : Option IpConfig} {v : Option α}
    {st : Status} (h : Retrieval s c stray c' v st) (hok : st.isError = false) : stray = none := by
  cases h with
  | refused _ _ error | dropped _ _ error | unknown _ _ error => simp [hok] at error
  | fine _ nothing => exact nothing

section
variable [Flatbuffers Buf] {c : RouterClient} {read : RouterClient.Received Buf}

theorem retrievePeerInfo_retrieval {r : RouterClient × Option SystemInfo × Status} (h : c.retrievePeerInfo read = some r) :
    Retrieval .committed c none r.1 r.2.1 r.2.2 := by
  unfold RouterClient.retrievePeerInfo at h
  split at h
  · rename_i hstate
    cases h
    exact .refused hstate rfl rfl
  · rename_i hstate
    have hstate : c.state = .committed := not_not.mp hstate
    rcases RouterClient.retrieve_inv h with ⟨data, rfl, -, hentry⟩ | ⟨data, -, -, -, rfl⟩ | ⟨-, -, text, rfl⟩
    · obtain ⟨table, -, hentry⟩ := Option.bind_eq_some_iff.mp hentry
      obtain ⟨si, -, hentry⟩ := Option.bind_eq_some_iff.mp hentry
      cases hentry
      exact .fine hstate rfl
    · exact .fine hstate rfl
    · exact .dropped hstate rfl rfl

theorem state_of_retrievePeerInfo (h : c.retrievePeerInfo read = none) : c.state = .committed := by
  by_contra hstate
  simp [RouterClient.retrievePeerInfo, hstate] at h

theorem retrieveIpConfig_retrieval {r : RouterClient × Option IpConfig × Status} (h : c.retrieveIpConfig read = some r) :
    Retrieval .peerInfoReceived c (strayIpConfig c read) r.1 r.2.1 r.2.2 := by
  unfold RouterClient.retrieveIpConfig at h
  split at h
  · rename_i hstate
    cases h
    exact .refused hstate (if_pos hstate) rfl
  · rename_i hstate
    have hstate : c.state = .peerInfoReceived := not_not.mp hstate
    rcases RouterClient.retrieve_inv h with ⟨data, rfl, htype, hentry⟩ | ⟨data, rfl, htype, -, rfl⟩ |
      ⟨hother, -, text, rfl⟩
    · obtain ⟨table, htable, hentry⟩ := Option.bind_eq_some_iff.mp hentry
      obtain ⟨name, hname, hentry⟩ := Option.bind_eq_some_iff.mp hentry
      cases htyp : RouterClient.readIpType table.getType with
      | none =>
        rw [htyp] at hentry
        cases hentry
        exact .unknown hstate (by simp [strayIpConfig, hstate, htype, htable, hname, htyp]) rfl
      | some typ =>
        rw [htyp] at hentry
        cases hentry
        exact .fine hstate (by simp [strayIpConfig, hstate, htype, htable, hname, htyp])
    · exact .fine hstate (by simp [strayIpConfig, htype])
    · have hstray : strayIpConfig c read = none := by
        cases read with
        | error err => simp [strayIpConfig]
        | ok data =>
          have htype : (getRoot data).getType ≠ .ipInfo := hother
          simp [strayIpConfig, htype]
        | oversized => exact hother.elim
      exact .dropped hstate hstray rfl

/-- No block is left where a message lacks a part. -/
theorem state_of_retrieveIpConfig (h : c.retrieveIpConfig read = none) :
    c.state = .peerInfoReceived ∧ strayIpConfig c read = none := by
  by_cases hstate : c.state = .peerInfoReceived
  · refine ⟨hstate, ?_⟩
    cases read with
    | error err => simp [strayIpConfig]
    | ok data =>
      by_cases htype : (getRoot data).getType = .ipInfo
      · cases htable : (getRoot data).ipInfo with
        | none => simp [strayIpConfig, htable]
        | some table =>
          cases hname : table.name with
          | none => simp [strayIpConfig, htable, hname]
          | some name =>
            cases htyp : RouterClient.readIpType table.getType <;>
              simp [RouterClient.retrieveIpConfig, RouterClient.ipConfigReply, RouterClient.retrieve,
                RouterClient.receive, hstate, htype, htable, hname, htyp] at h
      · simp [strayIpConfig, htype]
    | oversized => simp [strayIpConfig]
  · simp [RouterClient.retrieveIpConfig, hstate] at h

end

/-! ### What a call does to the objects -/

/-- The call returns the value, and leaves these objects. -/
def Returns (f : Dpi α) (h : Heap Object) (a : α) (l : List (Nat × Object)) : Prop :=
  ∃ h', f h = .ok (a, h') ∧ h'.Holds l

variable {h : Heap Object} {l l' : List (Nat × Object)} {n : Nat} {o : Object} {a : α} {b : β} {f : Dpi α} {k : α → Dpi β}

theorem Returns.pure (hh : h.Holds l) : Returns (pure a) h a l := ⟨h, rfl, hh⟩

theorem bind_ok {h' : Heap Object} (hf : f h = .ok (a, h')) : (f >>= k) h = k a h' := by
  show (f h).bind (fun r => k r.1 r.2) = _
  rw [hf]
  rfl

/-- A call that does not return takes what it is part of with it. -/
theorem bind_error {x : Abort} (hf : f h = .error x) : (f >>= k) h = .error x := by
  show (f h).bind (fun r => k r.1 r.2) = _
  rw [hf]
  rfl

theorem Returns.bind (hf : Returns f h a l) (hk : ∀ h', h'.Holds l → Returns (k a) h' b l') : Returns (f >>= k) h b l' := by
  obtain ⟨h', hf, hh⟩ := hf
  obtain ⟨h'', hk, hh'⟩ := hk h' hh
  exact ⟨h'', (bind_ok hf).trans hk, hh'⟩

theorem alloc_returns (hh : h.Holds l) : Returns (alloc o) h (some h.next) ((h.next, o) :: l) := ⟨_, rfl, hh.alloc⟩

theorem allocOption_returns (mk : α → Object) (v : Option α) (hh : h.Holds l) :
    Returns (allocOption (v.map mk)) h (v.map fun _ => h.next) (v.toList.map (fun a => (h.next, mk a)) ++ l) := by
  cases v with
  | none => exact .pure hh
  | some a => exact alloc_returns hh

theorem access_returns {cast : Object → Option α} (hh : h.Holds l) (hn : (n, o) ∈ l) (hcast : cast o = some a) :
    Returns (access cast n) h a l := by
  refine ⟨h, ?_, hh⟩
  simp only [access, hh.get hn, Option.bind_some, hcast]

theorem field_returns {text : String} {cast : Object → Option α} {get : α → β} (hh : h.Holds l) (hn : (n, o) ∈ l)
    (hcast : cast o = some a) : Returns (field text cast get (some n)) h (get a) l :=
  (access_returns hh hn hcast).bind (k := fun a => pure (get a)) fun _ hh => .pure hh

theorem delete_returns {cast : Object → Option α} (hh : h.Holds ((n, o) :: l)) (hcast : cast o = some a) :
    Returns (delete cast (some n)) h () l :=
  (access_returns hh List.mem_cons_self hcast).bind fun _ hh => ⟨_, rfl, hh.release⟩

section
variable {text : String} {op : RouterClient → Option (RouterClient × α × Status)} {output : α → Dpi β}
  {c c' : RouterClient} {st : Status}

/-- An operation keeps its client and adds a status to what its outputs add. -/
theorem operate_returns (hh : h.Holds ((n, .client c) :: l)) (hop : op c = some (c', a, st))
    (houtput : ∀ h', h'.Holds ((n, .client c') :: l) → h'.next = h.next → Returns (output a) h' b l') :
    ∃ m, Returns (operate text (some n) op output) h (some m, b) ((m, .status st) :: l') := by
  obtain ⟨h', hf, hh'⟩ := houtput _ hh.store rfl
  refine ⟨h'.next, h'.alloc (.status st), ?_, hh'.alloc⟩
  have hget : access Object.client? n h = .ok (c, h) := by
    simp only [access, hh.get List.mem_cons_self, Option.bind_some, Object.client?]
  simp only [operate, checked, pure_bind, bind_ok hget, hop]
  exact (bind_ok rfl).trans ((bind_ok hf).trans (bind_ok rfl))

theorem operate_crash (hh : h.Holds ((n, .client c) :: l)) (hop : op c = none) :
    operate text (some n) op output h = .error .crash := by
  have hget : access Object.client? n h = .ok (c, h) := by
    simp only [access, hh.get List.mem_cons_self, Option.bind_some, Object.client?]
  simp only [operate, checked, pure_bind, bind_ok hget, hop]
  rfl

theorem operate_null : operate text none op output h = .error (.terminate text) := rfl

end

end Dpi

end SwAxi
