import SwAxi.Wire

/-! The client's end of a router connection (`src/common/RouterClient.cc`).

An operation takes what its socket calls gave: `Except String α` for a call that can fail, the error
being the text of `strerror(errno)`. A result of `none` means that the operation does not return: the process
read through a null pointer, which happens where a table lacks a table or a string that the code reads
unchecked, or `readFromSocket` threw, which nothing in the library catches. -/

namespace SwAxi
open Wire (Message Flatbuffers)
open Wire.Flatbuffers (getRoot finish)

inductive RouterClient.State where
  | disconnected
  | connected
  | committed
  | peerInfoReceived
  | started
  | loggedOut
  deriving DecidableEq, Repr

structure RouterClient where
  state : RouterClient.State := .disconnected
  connectedUri : String := ""
  sock : Int := -1
  deriving DecidableEq, Repr

namespace RouterClient

/-- Signal for the server completion message. -/
def DONE : UInt32 := 0xffffffff

/-- What `readFromSocket` gave. -/
inductive Received (Buf : Type) where
  | error (err : String)
  | ok (data : Buf)
  /-- `buffer.resize` threw on the size that the message declares. -/
  | oversized
  deriving DecidableEq, Repr

/-- What the two socket transfers of a request and its reply gave. -/
structure Exchange (Buf : Type) where
  write : Except String Unit
  read : Received Buf

/-- What the system calls of `connect` gave; `connect` is asked with the path put into `sun_path`. -/
structure ConnectCalls (Buf : Type) extends Exchange Buf where
  socket : Except String Nat
  connect : String → Except String Unit

/-! ### Messages -/

section Messages
variable {Buf : Type} [Flatbuffers Buf]

def systemInfoTable (si : SystemInfo) : Wire.SystemInfo where
  name := some si.name
  systemName := some si.systemName
  pid := some si.pid
  hostname := some si.hostname

def systemInfoMessage (si : SystemInfo) : Buf :=
  finish { type := some .systemInfo, systemInfo := some (systemInfoTable si) }

def wireImplementation : IpImplementation → Wire.ImplementationType
  | .software => .software
  | .hardware => .hardware

def wireIpType : IpType → Wire.IpType
  | .slave => .slave
  | .slaveLite => .slaveLite
  | .slaveStream => .slaveStream
  | .master => .master
  | .masterLite => .masterLite
  | .masterStream => .masterStream

/-- The message of `registerIp`; it adds no interrupts. -/
def ipInfoMessage (config : IpConfig) : Buf :=
  finish {
    type := some .ipInfo
    ipInfo := some {
      name := some config.name
      address := some config.address
      size := some config.size
      implementation := some (wireImplementation config.implementation)
      type := some (wireIpType config.type) } }

def commitMessage : Buf := finish { type := some .commit }

def wireTransactionType : TransactionType → Wire.TransactionType
  | .readReq => .readReq
  | .writeReq => .writeReq
  | .readResp => .readResp
  | .writeResp => .writeResp

def transactionTable (txn : Transaction) : Wire.Transaction where
  type := some (wireTransactionType txn.type)
  initiator := some txn.initiator
  target := some txn.target
  id := some txn.id
  address := some txn.address
  size := some txn.size
  data := some txn.data
  ok := some txn.ok
  message := some txn.message

/-- The message of `sendTransaction`. -/
def transactionMessage (txn : Transaction) : Buf :=
  finish { type := some .transaction, txn := some (transactionTable txn) }

/-- The message of `sendTermination`. -/
def terminateMessage (id : UInt64) : Buf := finish { type := some .terminate, ipId := some id }

/-- The message of `sendLogout`. -/
def doneMessage : Buf := finish { type := some .done }

end Messages

/-! ### Reading tables -/

/-- The fields of a `SystemInfo` table; each string is read through a pointer. -/
def readSystemInfo (t : Wire.SystemInfo) : Option SystemInfo := do
  let name ← t.name
  let systemName ← t.systemName
  let hostname ← t.hostname
  return { name, systemName, pid := t.getPid, hostname }

def readIpType : Wire.IpType → Option IpType
  | .slave => some .slave
  | .slaveLite => some .slaveLite
  | .slaveStream => some .slaveStream
  | .master => some .master
  | .masterLite => some .masterLite
  | .masterStream => some .masterStream
  | .other _ => none

/-- Anything that is not software counts as hardware. -/
def readImplementation : Wire.ImplementationType → IpImplementation
  | .software => .software
  | .hardware | .other _ => .hardware

def readTransactionType : Wire.TransactionType → Option TransactionType
  | .readReq => some .readReq
  | .writeReq => some .writeReq
  | .readResp => some .readResp
  | .writeResp => some .writeResp
  | .other _ => none

/-- The fields of a `Transaction` table of a known type; missing data reads as no data, a missing
    message is a null pointer. -/
def readTransaction (t : Wire.Transaction) (type : TransactionType) : Option Transaction := do
  let message ← t.message
  return {
    type
    initiator := t.getInitiator
    target := t.getTarget
    id := t.getId
    address := t.getAddress
    size := t.getSize
    data := t.data.getD []
    ok := t.getOk
    message }

/-! ### Operations -/

/-- `disconnect`: nothing happens when the socket is closed already. -/
def disconnect (c : RouterClient) : RouterClient :=
  if c.sock = -1 then c else { state := .disconnected, connectedUri := "", sock := -1 }

section Operations
variable {Buf : Type} [Flatbuffers Buf] (c : RouterClient)

/-- The way out of an operation that gives up the connection. -/
def fail {α : Type} (bad : α) (text : String) : RouterClient × α × Status := (c.disconnect, bad, ⟨1, text⟩)

/-- The way out on a received `ERROR`, whose text is read through a pointer. -/
def failWith {α : Type} (bad : α) (text : String) (msg : Message) : Option (RouterClient × α × Status) := do
  let errorMessage ← msg.errorMessage
  return c.fail bad (text ++ errorMessage)

/-- `readFromSocket` and `wire::GetMessage`. -/
def receive {α : Type} (bad : α) (text : String) (read : Received Buf)
    (k : Message → Option (RouterClient × α × Status)) : Option (RouterClient × α × Status) :=
  match read with
  | .error err => some (c.fail bad (text ++ err))
  | .ok data => k (getRoot data)
  | .oversized => none

/-- `writeToSocket` of a request; `reply` is what follows. -/
def exchange {α : Type} (bad : α) (sendText : String) (write : Except String Unit)
    (reply : Option (RouterClient × α × Status)) : Option (RouterClient × α × Status) :=
  match write with
  | .error err => some (c.fail bad (sendText ++ err))
  | .ok () => reply

/-- `std::string::find(prefix) == 0`. -/
def startsWith (uri pre : String) : Bool := pre.toList.isPrefixOf uri.toList

def unixPrefix : String := "unix://"

/-- `uri.substr(7)`. -/
def socketPath (uri : String) : String := String.ofList (uri.toList.drop 7)

/-- `sizeof(addr.sun_path)`. -/
def sunPathSize : Nat := 108

/-- What `strncpy` leaves in the zeroed `sun_path`, up to its terminator. The check of the path's length
    before it builds a status and drops it, so it has no effect. -/
def sunPath (uri : String) : String := String.ofList ((socketPath uri).toList.take (sunPathSize - 1))

/-- `connect` up to its reply: the client then, or what the call returns before. The system info that it sends is
    `info`. -/
def dial (uri : String) (x : ConnectCalls Buf) : Except (RouterClient × Option SystemInfo × Status) RouterClient :=
  if c.state ≠ .disconnected then
    .error (c, none, ⟨1, "The bridge needs to be disconnected for the connect operation to proceed"⟩)
  else if uri.length < 8 ∨ startsWith uri unixPrefix = false then
    .error (c, none, ⟨1, "Can only communicate over UNIX domain sockets:" ++ uri⟩)
  else match x.socket with
  | .error err => .error ({ c with sock := -1 }, none, ⟨1, "Unable to create a UNIX socket: " ++ err⟩)
  | .ok fd =>
    let c := { c with sock := fd }
    match x.connect (sunPath uri) with
    | .error err =>
      .error (c.fail none ("Unable to connect to the UNIX socket " ++ socketPath uri ++ ": " ++ err))
    | .ok () =>
      let c := { c with connectedUri := uri }
      match x.write with
      | .error err => .error (c.fail none ("Error while sending the system info: " ++ err))
      | .ok () => .ok c

/-- The rest of `connect`; the state becomes `CONNECTED` once the router's system info has arrived. -/
def connectReply (read : Received Buf) : Option (RouterClient × Option SystemInfo × Status) :=
  c.receive none "Error while receiving the router's system info:" read fun msg =>
    if msg.getType ≠ .systemInfo then
      some (c.fail none ("Received an unexpected message from the router: " ++ toString msg.getType.code))
    else do
      let table ← msg.systemInfo
      let routerInfo ← readSystemInfo table
      return ({ c with state := .connected }, some routerInfo, {})

def connect (uri : String) (x : ConnectCalls Buf) : Option (RouterClient × Option SystemInfo × Status) :=
  match c.dial uri x with
  | .error r => some r
  | .ok c => c.connectReply x.read

/-- `registerIp` from its reply on. -/
def registerIpReply (config : IpConfig) (read : Received Buf) : Option (RouterClient × UInt64 × Status) :=
  c.receive 0 "Error while receiving response to IP registration " read fun msg =>
    if msg.getType = .error then c.failWith 0 ("Cannot register IP " ++ config.name ++ ": ") msg
    else if msg.getType ≠ .ipAck then
      some (c.fail 0 ("Got an unexpected response while registering IP " ++ config.name ++ ": " ++
        toString msg.getType.code))
    else some (c, msg.getIpId, {})

/-- `registerIp`; every enumerator of `IpType` has its case, so the default branch never runs. -/
def registerIp (config : IpConfig) (x : Exchange Buf) : Option (RouterClient × UInt64 × Status) :=
  if c.state ≠ .connected then some (c, 0, ⟨1, "Can register slaves only in CONNECTED mode"⟩)
  else c.exchange 0 "Error while sending the IP_INFO message to router: " x.write (c.registerIpReply config x.read)

/-- `commitIp` from its reply on. -/
def commitIpReply (read : Received Buf) : Option (RouterClient × Unit × Status) :=
  c.receive () "Error while receiving commit acknowledgement: " read fun msg =>
    if msg.getType = .error then c.failWith () "Cannot register IP: " msg
    else if msg.getType ≠ .ack then
      some (c.fail () ("Got an unexpected response while committing IP: " ++ toString msg.getType.code))
    else some ({ c with state := .committed }, (), {})

def commitIp (x : Exchange Buf) : Option (RouterClient × Unit × Status) :=
  if c.state ≠ .connected then some (c, (), ⟨1, "Can commit slaves only in CONNECTED mode"⟩)
  else c.exchange () "Error while sending the COMMIT message: " x.write (c.commitIpReply x.read)

/-- One entry of a list that the router closes with an `ACK`: `entry` reads one of its messages, the `ACK`
    moves the client on to `next`. -/
def retrieve {α : Type} (type : Wire.MsgType) (what list : String) (next : State)
    (entry : Message → Option (RouterClient × Option α × Status)) (read : Received Buf) :
    Option (RouterClient × Option α × Status) :=
  c.receive none ("Error while receiving the " ++ what ++ " info: ") read fun msg =>
    if msg.getType = type then entry msg
    else if msg.getType = .error then c.failWith none ("Error while receiving the " ++ list ++ " list: ") msg
    else if msg.getType ≠ .ack then
      some (c.fail none ("Got an unexpected response while receiving " ++ list ++ " list: " ++
        toString msg.getType.code))
    else some ({ c with state := next }, none, {})

/-- `retrievePeerInfo` from its reply on. -/
def peerInfoReply (read : Received Buf) : Option (RouterClient × Option SystemInfo × Status) :=
  c.retrieve .systemInfo "peer" "peer" .peerInfoReceived (fun msg => do
    let table ← msg.systemInfo
    let si ← readSystemInfo table
    return (c, some si, {})) read

def retrievePeerInfo (read : Received Buf) : Option (RouterClient × Option SystemInfo × Status) :=
  if c.state ≠ .committed then some (c, none, ⟨1, "The bridge needs to be COMMITTED in order to start"⟩)
  else c.peerInfoReply read

/-- `retrieveIpConfig` from its reply on; a block of unknown type is an error that keeps the connection. -/
def ipConfigReply (read : Received Buf) : Option (RouterClient × Option IpConfig × Status) :=
  c.retrieve .ipInfo "IP" "IP" .started (fun msg => do
    let table ← msg.ipInfo
    let name ← table.name
    match readIpType table.getType with
    | none => return (c, none, ⟨1, "Received a slave of unknown type: " ++ toString table.getType.code⟩)
    | some type =>
      return (c, some {
        name
        address := table.getAddress
        size := table.getSize
        firstInterrupt := table.getFirstInterrupt
        numInterrupts := table.getNumInterrupts
        type
        implementation := readImplementation table.getImplementation }, {})) read

def retrieveIpConfig (read : Received Buf) : Option (RouterClient × Option IpConfig × Status) :=
  if c.state ≠ .peerInfoReceived then
    some (c, none, ⟨1, "The client needs to receive all the peer infos before receiving IP info"⟩)
  else c.ipConfigReply read

/-- `receiveTransaction` from its read on; a transaction of unknown type is an error that keeps the connection. -/
def transactionReply (read : Received Buf) : Option (RouterClient × Option Transaction × Status) :=
  c.receive none "Error while receiving a transaction: " read fun msg =>
    if msg.getType = .done then some (c, none, ⟨DONE, "Done processing"⟩)
    else if msg.getType ≠ .transaction then
      some (c.fail none ("Got an unexpected response instead of a transaction: " ++ toString msg.getType.code))
    else do
      let table ← msg.txn
      match readTransactionType table.getType with
      | none => return (c, none, ⟨1, "Received a transaction of unknown type: " ++ toString table.getType.code⟩)
      | some type =>
        let txn ← readTransaction table type
        return (c, some txn, {})

def receiveTransaction (read : Received Buf) : Option (RouterClient × Option Transaction × Status) :=
  if c.state ≠ .started then
    some (c, none, ⟨1, "The client needs be started befor receiving transactions"⟩)
  else c.transactionReply read

/-- A message without reply: `sent` is what comes of its write. -/
def send (refused : String) (sent : RouterClient × Status) : RouterClient × Status :=
  if c.state ≠ .started then (c, ⟨1, refused⟩) else sent

/-- The write has returned: `next` is the state after it, if the operation sets one. -/
def written (text : String) (next : Option State) (write : Except String Unit) : RouterClient × Status :=
  match write with
  | .error err => (c.disconnect, ⟨1, text ++ err⟩)
  | .ok () => ({ c with state := next.getD c.state }, {})

/-- Where the operation sets no state, a write that went well changes nothing. -/
@[simp] theorem written_ok_none (text : String) : c.written text none (.ok ()) = (c, {}) := rfl

/-- `sendTransaction` from its write on; the error text names `TERMINATE`, as the source has it. -/
def transactionWritten (write : Except String Unit) : RouterClient × Status :=
  c.written "Error while sending the TERMINATE message: " none write

def terminationWritten (write : Except String Unit) : RouterClient × Status :=
  c.written "Error while sending the TERMINATE message: " none write

def logoutWritten (write : Except String Unit) : RouterClient × Status :=
  c.written "Error while sending the DONE message: " (some .loggedOut) write

def sendTransaction (write : Except String Unit) : RouterClient × Status :=
  c.send "The client needs be started befor sending transactions" (c.transactionWritten write)

def sendTermination (write : Except String Unit) : RouterClient × Status :=
  c.send "The client needs be started before sending termination messages" (c.terminationWritten write)

def sendLogout (write : Except String Unit) : RouterClient × Status :=
  c.send "The client needs be started before logging out" (c.logoutWritten write)

end Operations

end RouterClient

end SwAxi
