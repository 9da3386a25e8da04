import SwAxi.Client
import Mathlib.Data.List.Perm.Basic

/-! The router's registry and its routing loop (`src/router/sw_axi/router.go`).

`ips` and `ipMMap` share their entries, which nothing changes after they were registered, so the model
stores them twice. A Go map is iterated in any order: `findTarget` takes the order it happens to see. -/

namespace SwAxi
open Wire (Message Flatbuffers)
open Wire.Flatbuffers (getRoot finish mutateTarget)

structure Router where
  uri : String
  numClients : Nat
  clients : List Client := []
  ipCount : UInt64 := 0
  masterCount : UInt64 := 0
  ipMMap : List (UInt64 × IpInfo) := []
  ips : List IpInfo := []
  deriving DecidableEq, Repr

/-- `NewRouter`, where `numClients` is a Go `int`. -/
def newRouter (uri : String) (numClients : Int) : Except String Router :=
  if RouterClient.startsWith uri RouterClient.unixPrefix = false then
    .error "Only unix:// protocol is supported"
  else if numClients ≤ 0 then .error "You'd probably really like to have at least some clients"
  else .ok { uri, numClients := numClients.toNat }

/-- The accept loop of `Run`. -/
def Router.acceptClients (r : Router) : Router := { r with clients := (List.range r.numClients).map newClient }

/-- A router whose `Run` has accepted its clients. -/
def Router.Accepted (r : Router) : Prop :=
  ∃ uri numClients r₀, newRouter uri numClients = .ok r₀ ∧ r = r₀.acceptClients

/-- `m[key] = value` on a Go map. -/
def mapInsert (m : List (UInt64 × IpInfo)) (key : UInt64) (value : IpInfo) : List (UInt64 × IpInfo) :=
  (key, value) :: m.filter fun entry => entry.1 != key

/-- The two comparisons of `registerIp` against one registered block. -/
def overlaps (ip rIp : IpInfo) : Bool :=
  (decide (rIp.address ≤ ip.address) && decide (ip.address < rIp.address + rIp.size)) ||
    (decide (ip.address < rIp.size) && decide (rIp.address < ip.address + ip.size))

/-- `%016x`. -/
def hex16 (n : UInt64) : String :=
  let digits := Nat.toDigits 16 n.toNat
  String.ofList (List.replicate (16 - digits.length) '0' ++ digits)

/-- The length a Go slice can have: `append` panics beyond it. -/
def maxSliceLength : Nat := 2 ^ 63 - 1

namespace Router

/-- The accepted end of `registerIp`: the block gets the next id and is stored. -/
def store (r : Router) (ip : IpInfo) : Router :=
  let ip := { ip with id := r.ipCount }
  { r with ipCount := r.ipCount + 1, ipMMap := mapInsert r.ipMMap ip.address ip, ips := r.ips ++ [ip] }

/-- The head of `registerIp`: a master is counted before the overlap checks. -/
def countMaster (r : Router) (ip : IpInfo) : Router :=
  if ip.type.isMaster then { r with masterCount := r.masterCount + 1 } else r

/-- `registerIp`; `none` is a panic: an `append` beyond the largest slice, or the index into `clients` in the
    closing log line. -/
def registerIp (r : Router) (ip : IpInfo) : Option (Router × Except String UInt64) :=
  let r := r.countMaster ip
  match r.ips.find? (overlaps ip) with
  | some rIp => some (r, .error ("Address space overlaps with already registered " ++ rIp.name ++ " IP block"))
  | none =>
    if r.ips.length < maxSliceLength ∧ ip.clientId.toNat < r.clients.length then some (r.store ip, .ok r.ipCount)
    else none

/-- `findTarget` over the map's values in the order iterated: the target's id and its client's. -/
def findTarget (order : List IpInfo) (address size : UInt64) : Except String (UInt64 × UInt64) :=
  match order.find? fun rIp => decide (rIp.address ≤ address) && decide (address < rIp.address + rIp.size) with
  | none => .error ("No IP block found at address: 0x" ++ hex16 address)
  | some ip =>
    if ip.address + ip.size < address + size then .error ("Transaction spans blocks bondary: " ++ ip.name)
    else .ok (ip.id, ip.clientId)

/-- An order in which `range r.ipMMap` can go. -/
def IterationOrder (r : Router) (order : List IpInfo) : Prop := order.Perm (r.ipMMap.map Prod.snd)

instance (r : Router) (order : List IpInfo) : Decidable (r.IterationOrder order) :=
  inferInstanceAs (Decidable (order.Perm _))

end Router

section Messages
variable {Buf : Type} [Flatbuffers Buf]

/-- `createErrorTxn`. -/
def createErrorTxn (initiator id : UInt64) (typ : Wire.TransactionType) (err : String) : Buf :=
  finish {
    type := some .transaction
    txn := some {
      type := match typ with
        | .readReq => some .readResp
        | .writeReq => some .writeResp
        | _ => none
      initiator := some initiator
      id := some id
      ok := some false
      message := some err } }

/-- What one turn of `route` does with its message. -/
inductive Routed (Buf : Type) where
  /-- One message to the outgoing channel of the client with this index, then the next turn. -/
  | send (client : Nat) (msgArr : Buf)
  /-- Nothing is sent. -/
  | next
  /-- `sendDone` to every client, then the loop is left. -/
  | done
  /-- `log.Fatalf`: the process exits. -/
  | fatal (text : String)
  /-- A run-time panic: an index out of range or a nil pointer. -/
  | panic
  deriving DecidableEq, Repr

namespace Router

/-- `r.clients[client].outgoing <- msgArr`. -/
def sendTo (r : Router) (client : UInt64) (msgArr : Buf) : Routed Buf :=
  if client.toNat < r.clients.length then .send client.toNat msgArr else .panic

/-- `r.clients[r.ips[initiator].ClientId].outgoing <- msgArr`. -/
def sendToInitiator (r : Router) (initiator : UInt64) (msgArr : Buf) : Routed Buf :=
  match r.ips[initiator.toNat]? with
  | none => .panic
  | some ip => r.sendTo ip.clientId msgArr

/-- The loop body of `route` from the check of the message type on. -/
def routeTransaction (r : Router) (order : List IpInfo) (msgArr : Buf) : Routed Buf :=
  let msg := getRoot msgArr
  if msg.getType ≠ .transaction then .fatal ("Received unexpected message: " ++ msg.getType.enumName)
  else match msg.txn with
  | none => .panic
  | some txn =>
    match txn.getType with
    | .readResp | .writeResp => r.sendToInitiator txn.getInitiator msgArr
    | .readReq | .writeReq =>
      match findTarget order txn.getAddress txn.getSize with
      | .error err => r.sendToInitiator txn.getInitiator (createErrorTxn txn.getInitiator txn.getId txn.getType err)
      | .ok (target, client) => r.sendTo client (mutateTarget msgArr target)
    | .other _ => .next

/-- One turn of `route`. A `TERMINATE` that leaves other masters active goes on to the check of the
    message type. -/
def route (r : Router) (order : List IpInfo) (msgArr : Buf) : Router × Routed Buf :=
  let msg := getRoot msgArr
  if msg.getType = .terminate then
    match r.ips[msg.getIpId.toNat]? with
    | none => (r, .panic)
    | some ip =>
      if ip.clientId.toNat < r.clients.length then
        let r := { r with masterCount := r.masterCount - 1 }
        if r.masterCount = 0 then (r, .done) else (r, r.routeTransaction order msgArr)
      else (r, .panic)
  else (r, r.routeTransaction order msgArr)

/-- The message of `sendDone`. -/
def doneMessage : Buf := finish { type := some .done }

/-- `sendDone`: what is put on the outgoing channels, by the index of the client. -/
def sendDone (r : Router) : List (Nat × Buf) := (List.range r.clients.length).map fun i => (i, doneMessage)

/-- What a turn of `route` puts on the outgoing channels. -/
def outgoing (r : Router) : Routed Buf → List (Nat × Buf)
  | .send client msgArr => [(client, msgArr)]
  | .done => r.sendDone
  | .next | .fatal _ | .panic => []

end Router

end Messages

end SwAxi
