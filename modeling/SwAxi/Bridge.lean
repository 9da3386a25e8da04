import SwAxi.RouterClient
import SwAxi.Queue
import Mathlib.Logic.Function.Basic

/-! The bridge (`src/lib/SwAxi.cc`): the state it keeps, its public operations up to `start`, and what
masters do to its queue. -/

namespace SwAxi
open Wire (Flatbuffers)

/-- Bus transaction data; the pointer stands for the bytes behind it. -/
structure Buffer where
  data : List UInt8
  size : UInt64
  address : UInt64
  deriving DecidableEq, Repr

/-- The interface for implementing software slaves. A handler returns the new state of the slave, its
    `int`, and, for a read, the contents of the buffer it was given. -/
class Slave (S : Type) where
  handleWrite : S → Buffer → S × Int
  handleRead : S → Buffer → S × Int × (Nat → UInt8)

namespace Master

inductive TxnType where
  | transaction
  | termination
  deriving DecidableEq, Repr

/-- An item of the queue. `buffer` and `promise` name the request whose read buffer and whose future they
    stand for. -/
structure Txn where
  type : TxnType
  buffer : Option Nat := none
  txn : Transaction
  promise : Option Nat := none
  deriving DecidableEq, Repr

end Master

/-- `Bridge::MasterMd` without the pointer to the master: the requests of the master that wait for their
    response, by id. -/
structure MasterMd where
  txns : UInt64 → Option Master.Txn := fun _ => none
  lastTxnId : UInt64 := 0

/-- Where `Bridge::reader` is. -/
inductive ReaderThread where
  /-- In `receiveTransaction`. -/
  | receiving
  /-- It has a transaction to deal with. -/
  | holding (txn : Transaction)
  | returned
  /-- A null pointer was used, or an exception left the thread: the process is gone. -/
  | crashed
  deriving DecidableEq, Repr

/-- What the writer hands to the client. -/
inductive Outgoing where
  | transaction (txn : Transaction)
  | termination (id : UInt64)
  | logout
  deriving DecidableEq, Repr

/-- Where `Bridge::writer` is. -/
inductive WriterThread where
  /-- In `queue.pop`. -/
  | popping
  /-- It has an item to deal with. -/
  | holding (txn : Master.Txn)
  /-- In a send operation of the client. -/
  | sending (out : Outgoing)
  | returned
  deriving DecidableEq, Repr

/-- What a run has done so far; no part of the bridge's own state. Requests are named by their place in
    `issued`. -/
structure History where
  /-- The requests accepted from masters, as they were pushed. -/
  issued : List Transaction := []
  /-- The (initiator, id) that the writer gave to a request. -/
  assigned : List (Nat × UInt64 × UInt64) := []
  /-- The promises set, each with the response that was being processed. -/
  fulfilled : List (Nat × Transaction) := []
  /-- The masters that have called `terminate`. -/
  terminated : List UInt64 := []
  deriving DecidableEq, Repr

structure Bridge (S : Type) where
  client : RouterClient := {}
  routerInfo : Option SystemInfo := none
  peers : List SystemInfo := []
  ipBlocks : List IpConfig := []
  slaveMap : UInt64 → Option S := fun _ => none
  masterMap : UInt64 → Option MasterMd := fun _ => none
  queue : Queue Master.Txn := {}
  /-- The threads, once started. -/
  readerThread : Option ReaderThread := none
  writerThread : Option WriterThread := none
  readerStatus : Status := {}
  writerStatus : Status := {}
  /-- The shared states of the futures handed out, and the buffers of the reads. -/
  futures : Nat → Option Status := fun _ => none
  buffers : Nat → List UInt8 := fun _ => []
  history : History := {}

namespace Bridge
variable {S Buf : Type} [Flatbuffers Buf] (b : Bridge S)

/-! ### Setting up -/

def disconnect : Bridge S :=
  { b with client := b.client.disconnect, routerInfo := none, ipBlocks := [], slaveMap := fun _ => none,
           masterMap := fun _ => none }

/-- `connect` from the return of the client's operation on. -/
def connected : RouterClient × Option SystemInfo × Status → Bridge S × Status
  | (client, routerInfo, st) =>
    if st.isError then ({ b with client }, st) else ({ b with client, routerInfo }, {})

def connect (uri : String) (x : RouterClient.ConnectCalls Buf) : Option (Bridge S × Status) :=
  (b.client.connect uri x).map b.connected

/-- `registerSlave` from the return of the client's operation on. -/
def registeredSlave (slave : S) : RouterClient × UInt64 × Status → Bridge S × Status
  | (client, id, st) =>
    if st.isError then ({ b with client }, st)
    else ({ b with client, slaveMap := Function.update b.slaveMap id (some slave) }, {})

def registerSlave (slave : S) (config : IpConfig) (x : RouterClient.Exchange Buf) : Option (Bridge S × Status) :=
  (b.client.registerIp config x).map (b.registeredSlave slave)

/-- The block that `registerMaster` asks for. -/
def masterConfig (name : String) : IpConfig := { name, type := .master }

/-- `registerMaster` from the return of the client's operation on; the master object is known by the id it was
    given. -/
def registeredMaster : RouterClient × UInt64 × Status → Bridge S × Option UInt64 × Status
  | (client, id, st) =>
    if st.isError then ({ b with client }, none, st)
    else ({ b with client, masterMap := Function.update b.masterMap id (some ((b.masterMap id).getD {})) },
      some id, {})

def registerMaster (name : String) (x : RouterClient.Exchange Buf) : Option (Bridge S × Option UInt64 × Status) :=
  (b.client.registerIp (masterConfig name) x).map b.registeredMaster

/-- `commitIp` from the return of the client's operation on. -/
def committed : RouterClient × Unit × Status → Bridge S × Status
  | (client, (), st) => ({ b with client }, st)

def commitIp (x : RouterClient.Exchange Buf) : Option (Bridge S × Status) := (b.client.commitIp x).map b.committed

/-- The loop of `start` that is running. -/
inductive StartLoop where
  | peers
  | ips
  deriving DecidableEq, Repr

/-- What a turn of a loop of `start` leads to. -/
inductive StartResult where
  | again (loop : StartLoop)
  | returned (st : Status)
  deriving DecidableEq, Repr

/-- A turn of the first loop of `start` from the return of the client's operation on. -/
def peersTurned : RouterClient × Option SystemInfo × Status → Bridge S × StartResult
  | (client, si, st) =>
    let b := { b with client }
    if st.isError then (b.disconnect, .returned st)
    else match si with
    | none => (b, .again .ips)
    | some si => ({ b with peers := b.peers ++ [si] }, .again .peers)

/-- A turn of the second loop; its end starts the threads. -/
def ipsTurned : RouterClient × Option IpConfig × Status → Bridge S × StartResult
  | (client, ip, st) =>
    let b := { b with client }
    if st.isError then (b.disconnect, .returned st)
    else match ip with
    | none => ({ b with readerThread := some .receiving, writerThread := some .popping }, .returned {})
    | some ip => ({ b with ipBlocks := b.ipBlocks ++ [ip] }, .again .ips)

/-- One turn of a loop of `start`. -/
def startTurn (loop : StartLoop) (read : RouterClient.Received Buf) : Option (Bridge S × StartResult) :=
  match loop with
  | .peers => (b.client.retrievePeerInfo read).map b.peersTurned
  | .ips => (b.client.retrieveIpConfig read).map b.ipsTurned

/-! ### Masters -/

/-- `queue->push` of a request, whose future is handed out. -/
def issue (buffer : Option (List UInt8)) (txn : Transaction) : Bridge S :=
  let request := b.history.issued.length
  { b with
    queue := b.queue.push
      { type := .transaction, buffer := buffer.map fun _ => request, txn, promise := some request }
    buffers := match buffer with
      | none => b.buffers
      | some bytes => Function.update b.buffers request bytes
    history := { b.history with issued := b.history.issued ++ [txn] } }

/-- `Master::read`: the response will be copied into the buffer. -/
def read (master : UInt64) (buffer : Buffer) : Bridge S :=
  b.issue (some buffer.data)
    { type := .readReq, initiator := master, address := buffer.address, size := buffer.size, ok := true }

/-- `Master::write`: `Buffer.size` bytes are copied from the buffer. -/
def write (master : UInt64) (buffer : Buffer) : Bridge S :=
  b.issue none
    { type := .writeReq, initiator := master, address := buffer.address, size := buffer.size,
      data := buffer.data.take buffer.size.toNat, ok := true }

/-- `Master::terminate`. -/
def terminate (master : UInt64) : Bridge S :=
  { b with
    queue := b.queue.push { type := .termination, txn := { id := master } }
    history := { b.history with terminated := b.history.terminated ++ [master] } }

end Bridge

end SwAxi
