import SwAxi.Run
import SwAxi.Threads

/-! The closed system after the handshake: the router with its goroutines, the bridges of its clients with
their threads, and the sockets between them. No socket call fails, and a socket holds any number of messages.

The channels of the router are unbuffered: a send and its receive are one step. -/

namespace SwAxi
open Wire (Flatbuffers)
open Wire.Flatbuffers (getRoot)

/-- What the writer hands to its client, as a message. -/
def Outgoing.message {Buf : Type} [Flatbuffers Buf] : Outgoing → Buf
  | .transaction txn => RouterClient.transactionMessage txn
  | .termination id => RouterClient.terminateMessage id
  | .logout => RouterClient.doneMessage

/-- Where `client.reader` is. -/
inductive ClientReader (Buf : Type) where
  /-- In `readMsg`. -/
  | reading
  /-- At `c.incoming <- msgArr`. -/
  | offering (msgArr : Buf)
  /-- After `wg.Done`. -/
  | done
  deriving DecidableEq, Repr

/-- Where `client.writer` is. -/
inductive ClientWriter (Buf : Type) where
  /-- At `<-c.outgoing`. -/
  | waiting
  /-- In `writeMsg`. -/
  | writing (msgArr : Buf)
  /-- After `wg.Done`. -/
  | done
  deriving DecidableEq, Repr

/-- Where `route` is. -/
inductive RouteLoop (Buf : Type) where
  /-- At `<-r.incoming`. -/
  | receiving
  /-- At a send to the outgoing channel of this client. -/
  | sending (client : Nat) (msgArr : Buf)
  /-- In `sendDone`, at the send to this client. -/
  | sendDone (client : Nat)
  /-- After `wg.Done`. -/
  | exited
  /-- The router's process is gone. -/
  | aborted
  deriving DecidableEq, Repr

/-- A client, with its two goroutines at the router and the socket between them. -/
structure Endpoint (S Buf : Type) where
  bridge : Bridge S
  toRouter : List Buf := []
  toClient : List Buf := []
  reader : ClientReader Buf := .reading
  writer : ClientWriter Buf := .waiting

/-- How many objects a process can have on its heap at a time: `new` throws beyond it. -/
def maxObjects : Nat := 2 ^ 63 - 1

namespace Endpoint
variable {S Buf : Type} (c : Endpoint S Buf)

/-- The requests whose promises are not set, each of which has its shared state on the heap. -/
def pending : Nat :=
  (List.range c.bridge.history.issued.length).countP fun p => (c.bridge.futures p).isNone

/-- `client.writer` is ready to receive. -/
def listening : Bool :=
  match c.writer with
  | .waiting => true
  | _ => false

/-- The bridge has this master, which has not been terminated: only then may its user call it. -/
def Active (m : UInt64) : Prop := (c.bridge.masterMap m).isSome = true ∧ m ∉ c.bridge.history.terminated

instance (m : UInt64) : Decidable (c.Active m) := inferInstanceAs (Decidable (_ ∧ _))

/-- The step is one that no socket takes part in, and possible for the users of the bridge. -/
def Possible : Bridge.Event Buf → Prop
  | .read m _ | .write m _ => c.Active m ∧ c.pending < maxObjects
  | .terminate m => c.Active m
  | .sent _ | .receive _ => False
  | .notify | .spurious | .pop | .resume | .dispatch | .process => True

instance (e : Bridge.Event Buf) : Decidable (c.Possible e) := by
  cases e <;> unfold Possible <;> infer_instance

variable [Slave S] [Flatbuffers Buf]

def local? (e : Bridge.Event Buf) : Option (Endpoint S Buf) :=
  if c.Possible e then (c.bridge.step e).map fun bridge => { c with bridge } else none

/-- The send operation of the bridge's writer: the message goes into the socket if the client is started. -/
def sent : Option (Endpoint S Buf) :=
  match c.bridge.writerThread with
  | some (.sending out) =>
    some { c with
      bridge := c.bridge.writerSent out (.ok ())
      toRouter := if c.bridge.client.state = .started then c.toRouter ++ [out.message] else c.toRouter }
  | _ => none

/-- `receiveTransaction` of the bridge's reader: it reads a message if the client is started. -/
def receive : Option (Endpoint S Buf) :=
  if c.bridge.readerThread = some .receiving then
    if c.bridge.client.state = .started then
      match c.toClient with
      | [] => none
      | msgArr :: rest => some { c with bridge := c.bridge.readerReceive (.ok msgArr), toClient := rest }
    else some { c with bridge := c.bridge.readerReceive (.error "" : RouterClient.Received Buf) }
  else none

/-- A turn of `client.reader` up to its send. -/
def readMsg : Option (Endpoint S Buf) :=
  match c.reader, c.toRouter with
  | .reading, msgArr :: rest =>
    some { c with
      toRouter := rest
      reader := if (getRoot msgArr).getType = .done then .done else .offering msgArr }
  | _, _ => none

/-- A turn of `client.writer` from its receive on. -/
def writeMsg : Option (Endpoint S Buf) :=
  match c.writer with
  | .writing msgArr =>
    some { c with
      toClient := c.toClient ++ [msgArr]
      writer := if (getRoot msgArr).getType = .done then .done else .waiting }
  | _ => none

end Endpoint

/-- A request is known by its initiator and its id. -/
abbrev Key := UInt64 × UInt64

def Transaction.key (txn : Transaction) : Key := (txn.initiator, txn.id)

/-- What `route` has done so far; no part of its state. A response is recorded with the client on whose channel
    it was put. -/
structure Record where
  /-- The requests put on the channel of their target's client. -/
  forwarded : List Key := []
  answered : List (Nat × Key) := []
  /-- The error responses that `route` made itself. -/
  errored : List (Nat × Key) := []
  /-- The `TERMINATE` messages taken. -/
  terminations : List UInt64 := []
  deriving DecidableEq, Repr

structure System (S Buf : Type) where
  router : Router
  endpoints : Nat → Endpoint S Buf
  route : RouteLoop Buf := .receiving
  record : Record := {}

section
variable {Buf : Type} [Flatbuffers Buf]

/-- A response, or an error response of the router's own. -/
def isResponse (msgArr : Buf) : Bool :=
  match (getRoot msgArr).txn with
  | some txn => txn.getType == .readResp || txn.getType == .writeResp
  | none => false

/-- What a turn of `route` adds to the record. -/
def Record.turn (r : Record) (msgArr : Buf) (routed : Routed Buf) : Record :=
  let msg := getRoot msgArr
  if msg.getType = .terminate then { r with terminations := r.terminations ++ [msg.getIpId] }
  else match routed, msg.txn with
  | .send client out, some txn =>
    let key := (txn.getInitiator, txn.getId)
    if isResponse msgArr then { r with answered := r.answered ++ [(client, key)] }
    else if isResponse out then { r with errored := r.errored ++ [(client, key)] }
    else { r with forwarded := r.forwarded ++ [key] }
  | _, _ => r

end

namespace System
variable {S Buf : Type} [Slave S] [Flatbuffers Buf] (s : System S Buf)

/-- The number of clients. -/
def clients : Nat := s.router.clients.length

def setEndpoint (i : Nat) (c : Endpoint S Buf) : System S Buf :=
  { s with endpoints := Function.update s.endpoints i c }

/-- Where `route` goes from a turn. -/
def routeLoop : Routed Buf → RouteLoop Buf
  | .send client msgArr => .sending client msgArr
  | .next => .receiving
  | .done => .sendDone 0
  | .fatal _ | .panic => .aborted

/-- `route` takes the message that the reader of client `i` offers, and deals with it. -/
def take (i : Nat) (order : List IpInfo) : Option (System S Buf) :=
  match s.route, (s.endpoints i).reader with
  | .receiving, .offering msgArr =>
    if s.router.IterationOrder order then
      let (router, routed) := s.router.route order msgArr
      let s := s.setEndpoint i { s.endpoints i with reader := .reading }
      some { s with router, route := routeLoop routed, record := s.record.turn msgArr routed }
    else none
  | _, _ => none

/-- `route` hands a message to the writer of a client. -/
def hand : Option (System S Buf) :=
  match s.route with
  | .sending i msgArr =>
    if (s.endpoints i).listening then
      some { s.setEndpoint i { s.endpoints i with writer := .writing msgArr } with route := .receiving }
    else none
  | .sendDone i =>
    if (s.endpoints i).listening then
      some { s.setEndpoint i { s.endpoints i with writer := .writing Router.doneMessage } with
        route := if i + 1 < s.clients then .sendDone (i + 1) else .exited }
    else none
  | _ => none

inductive Event (Buf : Type) where
  | bridge (i : Nat) (e : Bridge.Event Buf)
  | sent (i : Nat)
  | receive (i : Nat)
  | readMsg (i : Nat)
  | take (i : Nat) (order : List IpInfo)
  | hand
  | writeMsg (i : Nat)

/-- A step of one endpoint. -/
def endpointStep (i : Nat) (next : Endpoint S Buf → Option (Endpoint S Buf)) : Option (System S Buf) :=
  if i < s.clients then (next (s.endpoints i)).map fun c => s.setEndpoint i c else none

/-- The router's process is there. -/
def running : Bool :=
  match s.route with
  | .aborted => false
  | _ => true

/-- The goroutines of the router are there as long as its process is. -/
def step : Event Buf → Option (System S Buf)
  | .bridge i e => s.endpointStep i fun c => c.local? e
  | .sent i => s.endpointStep i fun c => c.sent
  | .receive i => s.endpointStep i fun c => c.receive
  | .readMsg i => if s.running then s.endpointStep i fun c => c.readMsg else none
  | .take i order => if i < s.clients then s.take i order else none
  | .hand => s.hand
  | .writeMsg i => if s.running then s.endpointStep i fun c => c.writeMsg else none

end System

end SwAxi
