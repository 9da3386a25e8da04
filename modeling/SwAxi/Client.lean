import SwAxi.RouterClient

/-! The router's end of a client connection (`src/router/sw_axi/client.go`).

A result of `none` is a Go run-time panic: a table read through a nil pointer. -/

namespace SwAxi
open Wire (Message Flatbuffers)
open Wire.Flatbuffers (getRoot finish)

/-- What the router keeps of a client apart from its connection, its channels and the wait group. -/
structure Client where
  id : UInt64 := 0
  systemInfo : SystemInfo := {}
  deriving DecidableEq, Repr

/-- `newClient`: the index it is given is not stored, so `Id` keeps its zero value. -/
def newClient (_id : Nat) : Client := { systemInfo := { name := "unknown" } }

@[simp] theorem newClient_id (i : Nat) : (newClient i).id = 0 := rfl

/-- A Go string read from a table; a missing one is empty. -/
def goString (s : Option String) : String := s.getD ""

/-- `createErrorMessage` of `router.go`. -/
def createErrorMessage {Buf : Type} [Flatbuffers Buf] (err : String) : Buf :=
  finish { type := some .error, errorMessage := some err }

namespace Client
variable {Buf : Type} [Flatbuffers Buf]

/-- `shakeHands`: the client's info is stored, and the router's own (`host`) is the answer. -/
def shakeHands (c : Client) (host : SystemInfo) (msgArr : Buf) : Option (Except String (Client × Buf)) :=
  let msg := getRoot msgArr
  if msg.getType ≠ .systemInfo then
    some (.error ("Expected a SYSTEM_INFO message but got: " ++ msg.getType.enumName))
  else do
    let si ← msg.systemInfo
    let c := { c with systemInfo := {
      name := goString si.name
      systemName := goString si.systemName
      hostname := goString si.hostname
      pid := si.getPid } }
    return .ok (c, RouterClient.systemInfoMessage host)

/-- An unknown enumerator leaves `typ` at its zero value. -/
def goIpType : Wire.IpType → IpType
  | .slave | .other _ => .slave
  | .slaveLite => .slaveLite
  | .slaveStream => .slaveStream
  | .master => .master
  | .masterLite => .masterLite
  | .masterStream => .masterStream

def goImplementation : Wire.ImplementationType → IpImplementation
  | .software | .other _ => .software
  | .hardware => .hardware

/-- `receiveIpInfo`: `.ok none` is a `COMMIT`. -/
def receiveIpInfo (c : Client) (msgArr : Buf) : Option (Except String (Option IpInfo)) :=
  let msg := getRoot msgArr
  if msg.getType = .commit then some (.ok none)
  else if msg.getType ≠ .ipInfo then
    some (.error ("Expected IP_INFO or COMMIT, got: " ++ msg.getType.enumName))
  else do
    let ii ← msg.ipInfo
    return .ok (some {
      name := goString ii.name
      address := ii.getAddress
      size := ii.getSize
      firstInterrupt := ii.getFirstInterrupt
      numInterrupts := ii.getNumInterrupts
      type := goIpType ii.getType
      implementation := goImplementation ii.getImplementation
      id := 0
      clientId := c.id })

/-- The message of `ackIpInfo`. -/
def ackIpInfoMessage (id : UInt64) : Buf := finish { type := some .ipAck, ipId := some id }

/-- The message of `ack`. -/
def ackMessage : Buf := finish { type := some .ack }

/-- The message `commit` sends for one IP block. -/
def ipMessage (ip : IpInfo) : Buf :=
  finish {
    type := some .ipInfo
    ipInfo := some {
      name := some ip.name
      address := some ip.address
      size := some ip.size
      firstInterrupt := some ip.firstInterrupt
      numInterrupts := some ip.numInterrupts
      type := some (RouterClient.wireIpType ip.type)
      implementation := some (RouterClient.wireImplementation ip.implementation) } }

/-- The messages of `commit` in the order written: the acknowledgement of the client's `COMMIT`, the list of
    clients and the list of blocks, each list closed by an acknowledgement. -/
def commitMessages (clients : List SystemInfo) (ips : List IpInfo) : List Buf :=
  ackMessage :: (clients.map RouterClient.systemInfoMessage ++ ackMessage :: (ips.map ipMessage ++ [ackMessage]))

end Client

end SwAxi
