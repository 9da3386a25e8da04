import SwAxi.Matching
import SwAxi.Operations

/-! The bridge as a program uses it (`src/lib/SwAxi.cc`): calls of its public operations in any order, whatever the
system calls under them give, with its two thread objects. To join a thread that is not joinable throws; to assign to
one that is joinable, or to destroy it, terminates the program. -/

namespace SwAxi
open Wire (Flatbuffers)
open Wire.Flatbuffers (getRoot)
open Transition

namespace Bridge
variable {S Buf : Type} [Flatbuffers Buf]

/-! ### The whole of `start` -/

/-- The loops of `start` over what its reads give, all of them; an operation that its state refuses reads nothing. -/
def startLoop (b : Bridge S) (loop : StartLoop) : List (RouterClient.Received Buf) → Option (Bridge S × Status)
  | [] => none
  | read :: reads =>
    match b.startTurn loop read with
    | none => none
    | some (b, .again loop) => b.startLoop loop reads
    | some (b, .returned st) => if reads = [] then some (b, st) else none

def start (b : Bridge S) (reads : List (RouterClient.Received Buf)) : Option (Bridge S × Status) := b.startLoop .peers reads

/-! ### What the router has told -/

def getRouterInfo (b : Bridge S) : Option SystemInfo := b.routerInfo

def enumerateIp (b : Bridge S) : Except Status (List IpConfig) :=
  if b.client.state ≠ .started then .error ⟨1, "The bridge needs to be started in order to enumerate IPs"⟩
  else .ok b.ipBlocks

def enumeratePeers (b : Bridge S) : Except Status (List SystemInfo) :=
  if b.client.state ≠ .started then .error ⟨1, "The bridge needs to be started in order to enumerate peers"⟩
  else .ok b.peers

/-- The status that `waitForCompletion` makes of those of the threads. -/
def completion (b : Bridge S) : Status :=
  if b.readerStatus.isError then b.readerStatus else if b.writerStatus.isError then b.writerStatus else {}

end Bridge

structure Lifecycle (S : Type) where
  bridge : Bridge S := {}
  readerJoinable : Bool := false
  writerJoinable : Bool := false
  /-- The call did not return, as it threw or terminated the program. -/
  aborted : Bool := false

namespace Lifecycle
variable {S Buf : Type} [Slave S] [Flatbuffers Buf] (l : Lifecycle S)

def abort : Lifecycle S := { l with aborted := true }

/-- `start`, with the assignments to the two threads. -/
def start (reads : List (RouterClient.Received Buf)) : Option (Lifecycle S × Status) :=
  (l.bridge.start reads).map fun (bridge, st) =>
    if st.isError then ({ l with bridge }, st)
    else if l.readerJoinable ∨ l.writerJoinable then (l.abort, st)
    else ({ l with bridge, readerJoinable := true, writerJoinable := true }, st)

/-- `waitForCompletion`; it blocks while a thread runs. -/
def waitForCompletion : Option (Lifecycle S × Status) :=
  if l.readerJoinable = false then some (l.abort, {})
  else if l.bridge.readerThread ≠ some .returned then none
  else if l.writerJoinable = false then some (l.abort, {})
  else if l.bridge.writerThread ≠ some .returned then none
  else some ({ l with readerJoinable := false, writerJoinable := false }, l.bridge.completion)

/-- The destructor: `disconnect`, and then the threads are destroyed. -/
def destroy : Lifecycle S :=
  if l.readerJoinable ∨ l.writerJoinable then { l with bridge := l.bridge.disconnect }.abort
  else { l with bridge := l.bridge.disconnect }

inductive Event (S Buf : Type) where
  | connect (uri : String) (x : RouterClient.ConnectCalls Buf)
  | registerSlave (slave : S) (config : IpConfig) (x : RouterClient.Exchange Buf)
  | registerMaster (name : String) (x : RouterClient.Exchange Buf)
  | commitIp (x : RouterClient.Exchange Buf)
  | start (reads : List (RouterClient.Received Buf))
  | waitForCompletion
  | disconnect
  /-- A step of a thread, of the queue or of a master. -/
  | thread (e : Bridge.Event Buf)

/-- A call, with the status it returns. -/
def call : Event S Buf → Option (Lifecycle S × Status)
  | .connect uri x => (l.bridge.connect uri x).map fun (bridge, st) => ({ l with bridge }, st)
  | .registerSlave slave config x =>
    (l.bridge.registerSlave slave config x).map fun (bridge, st) => ({ l with bridge }, st)
  | .registerMaster name x => (l.bridge.registerMaster name x).map fun (bridge, _, st) => ({ l with bridge }, st)
  | .commitIp x => (l.bridge.commitIp x).map fun (bridge, st) => ({ l with bridge }, st)
  | .start reads => l.start reads
  | .waitForCompletion => l.waitForCompletion
  | .disconnect => some ({ l with bridge := l.bridge.disconnect }, {})
  | .thread e => (l.bridge.step e).map fun bridge => ({ l with bridge }, {})

/-- Nothing follows on an abort. -/
def step (e : Event S Buf) : Option (Lifecycle S) := if l.aborted then none else (l.call e).map Prod.fst

end Lifecycle

/-! ### What `start` does -/

namespace Bridge
open RouterClient (readSystemInfo readIpType readImplementation Consistent)
variable {S Buf : Type} [Flatbuffers Buf]

/-- The type of a message that came. -/
def messageType : RouterClient.Received Buf → Option Wire.MsgType
  | .error _ | .oversized => none
  | .ok data => some (getRoot data).getType

/-- The entry of the list of peers that a message carries. -/
def sentPeer : RouterClient.Received Buf → Option SystemInfo
  | .error _ | .oversized => none
  | .ok data =>
    if (getRoot data).getType = .systemInfo then (getRoot data).systemInfo.bind readSystemInfo else none

/-- The entry of the list of IP blocks that a message carries. -/
def sentIp : RouterClient.Received Buf → Option IpConfig
  | .error _ | .oversized => none
  | .ok data =>
    if (getRoot data).getType = .ipInfo then do
      let table ← (getRoot data).ipInfo
      let name ← table.name
      let type ← readIpType table.getType
      return {
        name
        address := table.getAddress
        size := table.getSize
        firstInterrupt := table.getFirstInterrupt
        numInterrupts := table.getNumInterrupts
        type
        implementation := readImplementation table.getImplementation }
    else none

/-- The state that a loop of `start` asks for. -/
def StartLoop.required : StartLoop → RouterClient.State
  | .peers => .committed
  | .ips => .peerInfoReceived

/-- The message is an entry of the list that the loop reads. -/
def StartLoop.takes (read : RouterClient.Received Buf) : StartLoop → Bool
  | .peers => (sentPeer read).isSome
  | .ips => (sentIp read).isSome

/-- The messages are what the loops have still to read: the entries of a list and its `ACK`, and nothing after the
    last list. -/
def StartLoop.lists : StartLoop → List (RouterClient.Received Buf) → Bool
  | _, [] => false
  | loop, read :: reads =>
    if messageType read = some .ack then
      match loop with
      | .peers => StartLoop.lists .ips reads
      | .ips => reads.isEmpty
    else loop.takes read && StartLoop.lists loop reads

/-- The peers whose entries come before anything else. -/
def StartLoop.leading : StartLoop → List (RouterClient.Received Buf) → List SystemInfo
  | .peers, read :: reads =>
    match sentPeer read with
    | some si => si :: StartLoop.leading .peers reads
    | none => []
  | _, _ => []

theorem sentPeer_eq_none {read : RouterClient.Received Buf} (h : messageType read ≠ some .systemInfo) :
    sentPeer read = none := by
  cases read with
  | error err => rfl
  | ok data => exact if_neg fun htype => h (congrArg some htype)
  | oversized => rfl

theorem sentIp_eq_none {read : RouterClient.Received Buf} (h : messageType read ≠ some .ipInfo) :
    sentIp read = none := by
  cases read with
  | error err => rfl
  | ok data => exact if_neg fun htype => h (congrArg some htype)
  | oversized => rfl

section
variable {b t : Bridge S} {read : RouterClient.Received Buf} {loop : StartLoop} {res : StartResult}

/-- What is left of a bridge that is disconnected. -/
theorem disconnect_eq (hc : Consistent b.client) : b.disconnect =
    { b with client := {}, routerInfo := none, ipBlocks := [], slaveMap := fun _ => none, masterMap := fun _ => none } := by
  rw [Bridge.disconnect, hc.disconnect]

/-- A turn takes an entry, ends its loop on the `ACK`, or fails and disconnects. -/
inductive Turns (b : Bridge S) (read : RouterClient.Received Buf) : StartLoop → Bridge S → StartResult → Prop where
  | peer (hstate : b.client.state = .committed) (htype : messageType read = some .systemInfo) (si : SystemInfo)
      (hpeer : sentPeer read = some si) : Turns b read .peers { b with peers := b.peers ++ [si] } (.again .peers)
  | peersEnd (hstate : b.client.state = .committed) (htype : messageType read = some .ack) :
      Turns b read .peers { b with client := { b.client with state := .peerInfoReceived } } (.again .ips)
  | ip (hstate : b.client.state = .peerInfoReceived) (htype : messageType read = some .ipInfo) (ip : IpConfig)
      (hip : sentIp read = some ip) : Turns b read .ips { b with ipBlocks := b.ipBlocks ++ [ip] } (.again .ips)
  | started (hstate : b.client.state = .peerInfoReceived) (htype : messageType read = some .ack) :
      Turns b read .ips
        { b with client := { b.client with state := .started }, readerThread := some .receiving,
                 writerThread := some .popping } (.returned {})
  | failed (loop : StartLoop) (st : Status) (hst : st.isError = true)
      (hbad : b.client.state = loop.required → messageType read ≠ some .ack ∧ loop.takes read = false) :
      Turns b read loop b.disconnect (.returned st)

theorem messageType_ne {type : Wire.MsgType} (h : read.Other type) : messageType read ≠ some type := by
  cases read with
  | error err => simp [messageType]
  | ok data => exact fun heq => h (Option.some.inj heq)
  | oversized => exact h.elim

/-- `RouterClient.retrieve_inv` for the message that came. -/
theorem retrieve_inv {α : Type} {type : Wire.MsgType} {what list : String} {next : RouterClient.State}
    {entry : Wire.Message → Option (RouterClient × Option α × Status)} {c : RouterClient}
    {r : RouterClient × Option α × Status} (h : c.retrieve type what list next entry read = some r) :
    (∃ data, read = .ok data ∧ (getRoot data).getType = type ∧ entry (getRoot data) = some r) ∨
    (messageType read = some .ack ∧ r = ({ c with state := next }, none, {})) ∨
    (messageType read ≠ some .ack ∧ messageType read ≠ some type ∧ ∃ text, r = c.fail none text) := by
  rcases RouterClient.retrieve_inv h with hentry | ⟨data, rfl, -, hack, hr⟩ | ⟨hother, hack, hfail⟩
  · exact Or.inl hentry
  · exact Or.inr (Or.inl ⟨congrArg some hack, hr⟩)
  · exact Or.inr (Or.inr ⟨messageType_ne hack, messageType_ne hother, hfail⟩)

theorem disconnect_client {client : RouterClient} (hc : Consistent b.client) (hclient : Consistent client) :
    ({ b with client } : Bridge S).disconnect = b.disconnect := by
  rw [disconnect_eq hc, disconnect_eq hclient]

theorem turns_of_startTurn (hc : Consistent b.client) (h : b.startTurn loop read = some (t, res)) :
    b.Turns read loop t res := by
  cases loop with
  | peers =>
    obtain ⟨⟨client, si, st⟩, hr, hres⟩ := Option.map_eq_some_iff.mp h
    have hclient : Consistent client := (RouterClient.retrievePeerInfo_outcome hc hr).consistent hc
    have hfailed (hst : st.isError = true)
        (hbad : b.client.state = .committed → messageType read ≠ some .ack ∧ (sentPeer read).isSome = false) :
        b.Turns read .peers t res := by
      simp only [peersTurned, hst, if_true, disconnect_client hc hclient] at hres
      cases hres
      exact .failed .peers st hst hbad
    unfold RouterClient.retrievePeerInfo at hr
    split at hr
    · rename_i hstate
      cases hr
      exact hfailed rfl fun heq => absurd heq hstate
    · rename_i hstate
      rcases retrieve_inv hr with ⟨data, rfl, htype, hentry⟩ | ⟨hack, heq⟩ | ⟨hack, hother, text, heq⟩
      · obtain ⟨table, htable, hentry⟩ := Option.bind_eq_some_iff.mp hentry
        obtain ⟨si', hsi, hentry⟩ := Option.bind_eq_some_iff.mp hentry
        cases Option.some.inj hentry
        cases hres
        have hpeerInfo : messageType (.ok data : RouterClient.Received Buf) = some .systemInfo := congrArg some htype
        exact .peer (not_not.mp hstate) hpeerInfo si' (by simp [sentPeer, htype, htable, hsi])
      · cases heq
        cases hres
        exact .peersEnd (not_not.mp hstate) hack
      · cases heq
        exact hfailed rfl fun _ => ⟨hack, by rw [sentPeer_eq_none hother]; rfl⟩
  | ips =>
    obtain ⟨⟨client, ip, st⟩, hr, hres⟩ := Option.map_eq_some_iff.mp h
    have hclient : Consistent client := (RouterClient.retrieveIpConfig_outcome hc hr).consistent hc
    have hfailed (hst : st.isError = true)
        (hbad : b.client.state = .peerInfoReceived → messageType read ≠ some .ack ∧ (sentIp read).isSome = false) :
        b.Turns read .ips t res := by
      simp only [ipsTurned, hst, if_true, disconnect_client hc hclient] at hres
      cases hres
      exact .failed .ips st hst hbad
    unfold RouterClient.retrieveIpConfig at hr
    split at hr
    · rename_i hstate
      cases hr
      exact hfailed rfl fun heq => absurd heq hstate
    · rename_i hstate
      rcases retrieve_inv hr with ⟨data, rfl, htype, hentry⟩ | ⟨hack, heq⟩ | ⟨hack, hother, text, heq⟩
      · obtain ⟨table, htable, hentry⟩ := Option.bind_eq_some_iff.mp hentry
        obtain ⟨name, hname, hentry⟩ := Option.bind_eq_some_iff.mp hentry
        split at hentry
        · rename_i hreads
          cases Option.some.inj hentry
          refine hfailed rfl fun _ => ⟨by simp [messageType, htype], ?_⟩
          simp [sentIp, htype, htable, hname, hreads]
        · rename_i type hreads
          cases Option.some.inj hentry
          cases hres
          have hipInfo : messageType (.ok data : RouterClient.Received Buf) = some .ipInfo := congrArg some htype
          exact .ip (not_not.mp hstate) hipInfo _ (by simp [sentIp, htype, htable, hname, hreads])
      · cases heq
        cases hres
        exact .started (not_not.mp hstate) hack
      · cases heq
        exact hfailed rfl fun _ => ⟨hack, by rw [sentIp_eq_none hother]; rfl⟩

omit [Flatbuffers Buf] in
theorem consistent_state {c : RouterClient} (hc : Consistent c) (hstate : c.state ≠ .disconnected)
    {next : RouterClient.State} (hnext : next ≠ .disconnected) : Consistent { c with state := next } :=
  ⟨iff_of_false hnext (hc.sock.not.mp hstate), hc.uri⟩

/-- The loops end with an error and disconnect, or with both lists read and the threads started. -/
theorem startLoop_cases {reads : List (RouterClient.Received Buf)} {st : Status} (hc : Consistent b.client)
    (h : b.startLoop loop reads = some (t, st)) :
    (st.isError = true ∧ ¬(b.client.state = loop.required ∧ loop.lists reads = true) ∧
      ∃ extra, (b.client.state = loop.required → extra = loop.leading reads) ∧
        t = ({ b with peers := b.peers ++ extra } : Bridge S).disconnect) ∨
    (st.isError = false ∧ (b.client.state = loop.required ∧ loop.lists reads = true) ∧
      t = { b with
        client := { b.client with state := .started }
        peers := b.peers ++ reads.filterMap sentPeer
        ipBlocks := b.ipBlocks ++ reads.filterMap sentIp
        readerThread := some .receiving
        writerThread := some .popping }) := by
  induction reads generalizing b loop with
  | nil => cases h
  | cons read reads ih =>
    unfold startLoop at h
    split at h
    · cases h
    · rename_i b' loop' hturn
      cases turns_of_startTurn hc hturn with
      | peer hstate htype si hpeer =>
        have hc' : Consistent ({ b with peers := b.peers ++ [si] } : Bridge S).client := hc
        have hlists : StartLoop.peers.lists (read :: reads) = StartLoop.peers.lists reads := by
          simp [StartLoop.lists, StartLoop.takes, htype, hpeer]
        have hip : sentIp read = none := sentIp_eq_none (by simp [htype])
        rw [hlists]
        rcases ih hc' h with ⟨hst, hno, extra, hextra, rfl⟩ | ⟨hst, hyes, rfl⟩
        · exact Or.inl ⟨hst, hno, si :: extra, fun _ => by simp [StartLoop.leading, hpeer, hextra hstate], by simp⟩
        · exact Or.inr ⟨hst, hyes, by simp [hpeer, hip]⟩
      | peersEnd hstate htype =>
        have hopen : b.client.state ≠ .disconnected := by simp [hstate]
        have hc' := consistent_state hc hopen (show RouterClient.State.peerInfoReceived ≠ .disconnected by decide)
        have hlists : StartLoop.peers.lists (read :: reads) = StartLoop.ips.lists reads := by
          simp [StartLoop.lists, htype]
        have hpeer : sentPeer read = none := sentPeer_eq_none (by simp [htype])
        have hip : sentIp read = none := sentIp_eq_none (by simp [htype])
        rw [hlists]
        rcases ih hc' h with ⟨hst, hno, extra, hextra, rfl⟩ | ⟨hst, ⟨-, hyes⟩, rfl⟩
        · refine Or.inl ⟨hst, fun hlists => hno ⟨rfl, hlists.2⟩, extra, fun _ => ?_, ?_⟩
          · simp [StartLoop.leading, hpeer, hextra rfl]
          · exact disconnect_client (b := { b with peers := b.peers ++ extra }) hc hc'
        · exact Or.inr ⟨hst, ⟨hstate, hyes⟩, by simp [hpeer, hip]⟩
      | ip hstate htype ip hip =>
        have hc' : Consistent ({ b with ipBlocks := b.ipBlocks ++ [ip] } : Bridge S).client := hc
        have hlists : StartLoop.ips.lists (read :: reads) = StartLoop.ips.lists reads := by
          simp [StartLoop.lists, StartLoop.takes, htype, hip]
        have hpeer : sentPeer read = none := sentPeer_eq_none (by simp [htype])
        rw [hlists]
        rcases ih hc' h with ⟨hst, hno, extra, hextra, rfl⟩ | ⟨hst, hyes, rfl⟩
        · exact Or.inl ⟨hst, hno, extra, fun _ => by simp [StartLoop.leading, hextra hstate], rfl⟩
        · exact Or.inr ⟨hst, hyes, by simp [hpeer, hip]⟩
    · split at h
      · rename_i b' st' hturn hnil
        subst hnil
        cases h
        cases turns_of_startTurn hc hturn with
        | started hstate htype =>
          have hpeer : sentPeer read = none := sentPeer_eq_none (by simp [htype])
          have hip : sentIp read = none := sentIp_eq_none (by simp [htype])
          exact Or.inr ⟨rfl, ⟨hstate, by simp [StartLoop.lists, htype]⟩, by simp [hpeer, hip]⟩
        | failed loop st hst hbad =>
          refine Or.inl ⟨hst, fun ⟨hstate, hlists⟩ => ?_, [], fun hstate => ?_, by simp⟩
          · obtain ⟨hack, htakes⟩ := hbad hstate
            simp [StartLoop.lists, hack, htakes] at hlists
          · cases loop with
            | peers =>
              have hnone : sentPeer read = none := by simpa [StartLoop.takes] using (hbad hstate).2
              simp [StartLoop.leading, hnone]
            | ips => rfl
      · cases h

/-! ### What the other calls do -/

theorem connect_cases {uri : String} {x : RouterClient.ConnectCalls Buf} {st : Status} (hc : Consistent b.client)
    (h : b.connect uri x = some (t, st)) :
    (st.isError = true ∧ t = b) ∨
    (st.isError = false ∧ b.client.state = .disconnected ∧ ∃ client si, Consistent client ∧ client.state = .connected ∧
      t = { b with client, routerInfo := some si }) := by
  obtain ⟨⟨client, si, st'⟩, hr, hpair⟩ := Option.map_eq_some_iff.mp h
  have hout : (RouterClient.Op.connect uri {} x).Outcome b.client client st' := RouterClient.connect_outcome hc hr
  have hclient : Consistent client := hout.consistent hc
  rcases RouterClient.connect_cases hc hr with ⟨hst, heq⟩ | ⟨hst, hstate, hconnected, hsi⟩
  · obtain rfl : client = b.client := heq
    simp only [connected, show st'.isError = true from hst, if_true] at hpair
    cases hpair
    exact Or.inl ⟨hst, rfl⟩
  · simp only [connected, show st'.isError = false from hst, Bool.false_eq_true, if_false] at hpair
    cases hpair
    obtain ⟨si, rfl⟩ := Option.isSome_iff_exists.mp hsi
    exact Or.inr ⟨rfl, hstate, client, si, hclient, hconnected, rfl⟩

/-- The id that an `IP_ACK` carries. -/
def ackedId : RouterClient.Received Buf → Option UInt64
  | .error _ | .oversized => none
  | .ok data => if (getRoot data).getType = .ipAck then some (getRoot data).getIpId else none

theorem registerSlave_cases {slave : S} {config : IpConfig} {x : RouterClient.Exchange Buf} {st : Status}
    (hc : Consistent b.client) (h : b.registerSlave slave config x = some (t, st)) :
    (st.isError = true ∧ ∃ client, (client = b.client ∨ client = {}) ∧ t = { b with client }) ∨
    (st.isError = false ∧ b.client.state = .connected ∧ ∃ id, ackedId x.read = some id ∧
      t = { b with slaveMap := Function.update b.slaveMap id (some slave) }) := by
  obtain ⟨⟨client, id, st'⟩, hr, hpair⟩ := Option.map_eq_some_iff.mp h
  rcases RouterClient.registerIp_cases hc hr with ⟨hst, hclient⟩ | ⟨hst, hstate, heq, data, hread, htype, rfl⟩
  · simp only [registeredSlave, show st'.isError = true from hst, if_true] at hpair
    cases hpair
    exact Or.inl ⟨hst, client, hclient, rfl⟩
  · obtain rfl : client = b.client := heq
    simp only [registeredSlave, show st'.isError = false from hst, Bool.false_eq_true, if_false] at hpair
    cases hpair
    exact Or.inr ⟨rfl, hstate, _, by simp [ackedId, hread, htype], rfl⟩

theorem registerMaster_cases {name : String} {x : RouterClient.Exchange Buf} {m : Option UInt64} {st : Status}
    (hc : Consistent b.client) (h : b.registerMaster name x = some (t, m, st)) :
    (st.isError = true ∧ ∃ client, (client = b.client ∨ client = {}) ∧ t = { b with client }) ∨
    (st.isError = false ∧ b.client.state = .connected ∧ ∃ id md, ackedId x.read = some id ∧
      t = { b with masterMap := Function.update b.masterMap id (some md) }) := by
  obtain ⟨⟨client, id, st'⟩, hr, hpair⟩ := Option.map_eq_some_iff.mp h
  rcases RouterClient.registerIp_cases hc hr with ⟨hst, hclient⟩ | ⟨hst, hstate, heq, data, hread, htype, rfl⟩
  · simp only [registeredMaster, show st'.isError = true from hst, if_true] at hpair
    cases hpair
    exact Or.inl ⟨hst, client, hclient, rfl⟩
  · obtain rfl : client = b.client := heq
    simp only [registeredMaster, show st'.isError = false from hst, Bool.false_eq_true, if_false] at hpair
    cases hpair
    exact Or.inr ⟨rfl, hstate, _, _, by simp [ackedId, hread, htype], rfl⟩

theorem commitIp_cases {x : RouterClient.Exchange Buf} {st : Status} (hc : Consistent b.client)
    (h : b.commitIp x = some (t, st)) :
    (st.isError = true ∧ ∃ client, (client = b.client ∨ client = {}) ∧ t = { b with client }) ∨
    (st.isError = false ∧ b.client.state = .connected ∧
      t = { b with client := { b.client with state := .committed } }) := by
  obtain ⟨⟨client, ⟨⟩, st'⟩, hr, hpair⟩ := Option.map_eq_some_iff.mp h
  cases hpair
  rcases RouterClient.commitIp_cases hc hr with ⟨hst, hclient⟩ | ⟨hst, hstate, heq⟩
  · exact Or.inl ⟨hst, client, hclient, rfl⟩
  · exact Or.inr ⟨hst, hstate, congrArg (fun client => ({ b with client } : Bridge S)) heq⟩

end

/-! ### What the threads do -/

section
variable {b t : Bridge S}

/-- The send operation of the client for what the writer has to send. -/
def sendOp (write : Except String Unit) : Outgoing → RouterClient.Op Buf
  | .transaction txn => .sendTransaction txn write
  | .termination id => .sendTermination id write
  | .logout => .sendLogout write

/-- The operation of the client in a step of a thread. -/
def clientOp (b : Bridge S) : Event Buf → Option (RouterClient.Op Buf)
  | .receive read => some (.receiveTransaction read)
  | .sent write =>
    match b.writerThread with
    | some (.sending out) => some (sendOp write out)
    | _ => none
  | _ => none

/-- What a step does with the client and leaves alone of the bridge. -/
structure Steps (b : Bridge S) (e : Event Buf) (t : Bridge S) : Prop where
  client : t.client = ((b.clientOp e).bind (RouterClient.next b.client)).getD b.client
  routerInfo : t.routerInfo = b.routerInfo
  done : b.queue.done = true → t.queue.done = true
  returned : t.readerThread = some .returned → b.readerThread = some .returned ∨ t.queue.done = true

theorem steps_receive (read : RouterClient.Received Buf) :
    b.Steps (.receive read) (b.readerReceive read) := by
  have hnext : RouterClient.next b.client (.receiveTransaction read) = (b.client.receiveTransaction read).map Prod.fst := by
    simp [RouterClient.next, RouterClient.Op.call, Function.comp_def]
  unfold readerReceive readerReturn
  cases hreceive : b.client.receiveTransaction read with
  | none => exact ⟨by simp [clientOp, hnext, hreceive, readerCrash], rfl, id, fun hret => by cases hret⟩
  | some r =>
    obtain ⟨client, txn, st⟩ := r
    simp only
    split
    · exact ⟨by simp [clientOp, hnext, hreceive, readerExit], rfl, fun _ => rfl, fun _ => Or.inr rfl⟩
    · cases txn with
      | none => exact ⟨by simp [clientOp, hnext, hreceive, readerCrash], rfl, id, fun hret => by cases hret⟩
      | some txn => exact ⟨by simp [clientOp, hnext, hreceive], rfl, id, fun hret => by cases hret⟩

theorem readerResponse_steps (txn : Transaction) : (b.readerResponse txn).client = b.client ∧
    (b.readerResponse txn).routerInfo = b.routerInfo ∧ (b.queue.done = true → (b.readerResponse txn).queue.done = true) ∧
    ((b.readerResponse txn).readerThread = some .returned → (b.readerResponse txn).queue.done = true) := by
  unfold readerResponse
  cases b.masterMap txn.initiator with
  | none => exact ⟨rfl, rfl, fun _ => rfl, fun _ => rfl⟩
  | some md =>
    simp only
    cases md.txns txn.id with
    | none => exact ⟨rfl, rfl, fun _ => rfl, fun _ => rfl⟩
    | some mTxn =>
      rcases b.resolve_cases md mTxn txn with ⟨-, buffers, heq⟩ | ⟨p, -, -, heq⟩
      · simp only [heq]
        exact ⟨rfl, rfl, id, nofun⟩
      · simp only [heq]
        exact ⟨rfl, rfl, id, nofun⟩

theorem steps_process [Slave S] (txn : Transaction) : b.Steps (.process : Event Buf) (b.readerProcess txn) := by
  unfold readerProcess
  split
  · unfold readerRequest
    split
    · exact ⟨rfl, rfl, fun _ => rfl, fun _ => Or.inr rfl⟩
    · exact ⟨rfl, rfl, id, nofun⟩
  · obtain ⟨hclient, hinfo, hdone, hret⟩ := readerResponse_steps (b := b) txn
    exact ⟨hclient, hinfo, hdone, fun h => Or.inr (hret h)⟩

theorem steps_popped {e : Event Buf} (he : b.clientOp e = none) (q : Queue Master.Txn) (r : Popped Master.Txn)
    (hq : q.done = b.queue.done) : b.Steps e (b.popped q r) := by
  have hdone : b.queue.done = true → q.done = true := fun h => hq.trans h
  cases r <;> exact ⟨by simp [he, popped], rfl, hdone, Or.inl⟩

theorem steps_dispatch (tx : Master.Txn) : b.Steps (.dispatch : Event Buf) (b.writerDispatch tx) := by
  unfold writerDispatch
  split
  · exact ⟨rfl, rfl, id, Or.inl⟩
  · split <;> exact ⟨rfl, rfl, id, Or.inl⟩

theorem steps_sent (out : Outgoing) (write : Except String Unit) (hw : b.writerThread = some (.sending out)) :
    b.Steps (.sent write : Event Buf) (b.writerSent out write) := by
  have hclient : (b.writerSent out write).client =
      ((b.clientOp (.sent write : Event Buf)).bind (RouterClient.next b.client)).getD b.client := by
    unfold writerSent writerReturn
    cases out with
    | transaction txn =>
      simp only [clientOp, hw]
      split
      · rfl
      · split <;> rfl
    | termination id =>
      simp only [clientOp, hw]
      split
      · rfl
      · split <;> rfl
    | logout =>
      simp only [clientOp, hw]
      split
      · rfl
      · split <;> rfl
  refine ⟨hclient, ?_, ?_, ?_⟩
  all_goals
    unfold writerSent writerReturn
    split
    split
  · rfl
  · split <;> rfl
  · exact id
  · split <;> exact id
  · exact Or.inl
  · split <;> exact Or.inl

theorem steps_of_step [Slave S] {e : Event Buf} (h : b.step e = some t) : b.Steps e t := by
  cases moves_of_step h with
  | read m buffer => exact ⟨rfl, rfl, id, Or.inl⟩
  | write m buffer => exact ⟨rfl, rfl, id, Or.inl⟩
  | terminate m => exact ⟨rfl, rfl, id, Or.inl⟩
  | notify q hq =>
    obtain ⟨cv, -, rfl⟩ := Option.map_eq_some_iff.mp hq
    exact ⟨rfl, rfl, id, Or.inl⟩
  | spurious q hq =>
    obtain ⟨cv, -, rfl⟩ := Option.map_eq_some_iff.mp hq
    exact ⟨rfl, rfl, id, Or.inl⟩
  | pop q r hw hq => exact steps_popped rfl q r (Queue.loopHead_done (Queue.pop_inv hq).2)
  | resume q r hw hq =>
    rcases (Queue.resume_inv hq).2 with ⟨-, rfl, rfl⟩ | ⟨-, hhead⟩
    · exact steps_popped rfl _ _ rfl
    · exact steps_popped rfl q r (Queue.loopHead_done hhead)
  | dispatch tx hw => exact steps_dispatch tx
  | sent out write hw => exact steps_sent out write hw
  | receive read hr => exact steps_receive read
  | process txn hr => exact steps_process txn

end

end Bridge

namespace Lifecycle
open RouterClient (Consistent)
variable {S Buf : Type} [Slave S] [Flatbuffers Buf] {l t : Lifecycle S} {e : Event S Buf}

theorem step_inv (h : l.step e = some t) : l.aborted = false ∧ ∃ st, l.call e = some (t, st) := by
  unfold step at h
  split at h
  · cases h
  · rename_i hrun
    obtain ⟨⟨t', st⟩, hcall, rfl⟩ := Option.map_eq_some_iff.mp h
    exact ⟨by simpa using hrun, st, hcall⟩

omit [Slave S] in
/-- A `start` fails, makes the threads, or terminates the program. -/
theorem start_cases {reads : List (RouterClient.Received Buf)} {st : Status} (h : l.start reads = some (t, st)) :
    ∃ bridge, l.bridge.start reads = some (bridge, st) ∧
      ((st.isError = true ∧ t = { l with bridge }) ∨
        (st.isError = false ∧ (l.readerJoinable = true ∨ l.writerJoinable = true) ∧ t = l.abort) ∨
        (st.isError = false ∧ l.readerJoinable = false ∧ l.writerJoinable = false ∧
          t = { l with bridge, readerJoinable := true, writerJoinable := true })) := by
  obtain ⟨⟨bridge, st'⟩, hr, hpair⟩ := Option.map_eq_some_iff.mp h
  cases hst : st'.isError with
  | true =>
    simp only [hst, if_true] at hpair
    cases hpair
    exact ⟨bridge, hr, Or.inl ⟨hst, rfl⟩⟩
  | false =>
    simp only [hst, Bool.false_eq_true, if_false] at hpair
    split at hpair
    · cases hpair
      exact ⟨bridge, hr, Or.inr (Or.inl ⟨hst, ‹_›, rfl⟩)⟩
    · rename_i hjoinable
      cases hpair
      obtain ⟨hreader, hwriter⟩ := not_or.mp hjoinable
      exact ⟨bridge, hr, Or.inr (Or.inr ⟨hst, by simpa using hreader, by simpa using hwriter, rfl⟩)⟩

omit [Slave S] [Flatbuffers Buf] in
/-- A `waitForCompletion` joins both threads, which have returned, or throws. -/
theorem waitForCompletion_cases {st : Status} (h : l.waitForCompletion = some (t, st)) :
    ((l.readerJoinable = false ∨ l.writerJoinable = false) ∧ t = l.abort) ∨
    (l.readerJoinable = true ∧ l.writerJoinable = true ∧ l.bridge.readerThread = some .returned ∧
      l.bridge.writerThread = some .returned ∧ t = { l with readerJoinable := false, writerJoinable := false }) := by
  unfold waitForCompletion at h
  split at h
  · cases h
    exact Or.inl ⟨Or.inl ‹_›, rfl⟩
  · rename_i hreader
    split at h
    · cases h
    · rename_i hread
      split at h
      · cases h
        exact Or.inl ⟨Or.inr ‹_›, rfl⟩
      · rename_i hwriter
        split at h
        · cases h
        · rename_i hwrite
          cases h
          exact Or.inr ⟨by simpa using hreader, by simpa using hwriter, not_not.mp hread, not_not.mp hwrite, rfl⟩

/-- The call asks the router for something before `start`. -/
inductive Event.Asks : Event S Buf → Prop where
  | registerSlave (slave : S) (config : IpConfig) (x : RouterClient.Exchange Buf) : Asks (.registerSlave slave config x)
  | registerMaster (name : String) (x : RouterClient.Exchange Buf) : Asks (.registerMaster name x)
  | commitIp (x : RouterClient.Exchange Buf) : Asks (.commitIp x)

/-- What a call can do. -/
inductive Called (l : Lifecycle S) : Event S Buf → Lifecycle S → Status → Prop where
  | unconnected (uri : String) (x : RouterClient.ConnectCalls Buf) (st : Status) (hst : st.isError = true) :
      Called l (.connect uri x) l st
  | connected (uri : String) (x : RouterClient.ConnectCalls Buf) (st : Status) (hst : st.isError = false)
      (client : RouterClient) (hclient : Consistent client) (hstate : client.state = .connected) (si : SystemInfo) :
      Called l (.connect uri x) { l with bridge := { l.bridge with client, routerInfo := some si } } st
  | refused (e : Event S Buf) (he : e.Asks) (st : Status) (hst : st.isError = true) (client : RouterClient)
      (hclient : client = l.bridge.client ∨ client = {}) :
      Called l e { l with bridge := { l.bridge with client } } st
  | slave (slave : S) (config : IpConfig) (x : RouterClient.Exchange Buf) (st : Status) (hst : st.isError = false)
      (id : UInt64) (hid : Bridge.ackedId x.read = some id) :
      Called l (.registerSlave slave config x)
        { l with bridge := { l.bridge with slaveMap := Function.update l.bridge.slaveMap id (some slave) } } st
  | master (name : String) (x : RouterClient.Exchange Buf) (st : Status) (hst : st.isError = false) (id : UInt64)
      (md : MasterMd) (hid : Bridge.ackedId x.read = some id) :
      Called l (.registerMaster name x)
        { l with bridge := { l.bridge with masterMap := Function.update l.bridge.masterMap id (some md) } } st
  | committed (x : RouterClient.Exchange Buf) (st : Status) (hst : st.isError = false)
      (hstate : l.bridge.client.state = .connected) :
      Called l (.commitIp x)
        { l with bridge := { l.bridge with client := { l.bridge.client with state := .committed } } } st
  | failed (reads : List (RouterClient.Received Buf)) (st : Status) (hst : st.isError = true)
      (hno : ¬(l.bridge.client.state = .committed ∧ Bridge.StartLoop.peers.lists reads = true))
      (extra : List SystemInfo)
      (hextra : l.bridge.client.state = .committed → extra = Bridge.StartLoop.peers.leading reads) :
      Called l (.start reads)
        { l with bridge := ({ l.bridge with peers := l.bridge.peers ++ extra } : Bridge S).disconnect } st
  | restarted (reads : List (RouterClient.Received Buf)) (st : Status) (hst : st.isError = false)
      (hyes : l.bridge.client.state = .committed ∧ Bridge.StartLoop.peers.lists reads = true)
      (hjoinable : l.readerJoinable = true ∨ l.writerJoinable = true) : Called l (.start reads) l.abort st
  | started (reads : List (RouterClient.Received Buf)) (st : Status) (hst : st.isError = false)
      (hyes : l.bridge.client.state = .committed ∧ Bridge.StartLoop.peers.lists reads = true)
      (hreader : l.readerJoinable = false) (hwriter : l.writerJoinable = false) :
      Called l (.start reads)
        { l with
          bridge := { l.bridge with
            client := { l.bridge.client with state := .started }
            peers := l.bridge.peers ++ reads.filterMap Bridge.sentPeer
            ipBlocks := l.bridge.ipBlocks ++ reads.filterMap Bridge.sentIp
            readerThread := some .receiving
            writerThread := some .popping }
          readerJoinable := true
          writerJoinable := true } st
  | unjoinable (st : Status) (hjoinable : l.readerJoinable = false ∨ l.writerJoinable = false) :
      Called l .waitForCompletion l.abort st
  | completed (st : Status) (hreader : l.readerJoinable = true) (hwriter : l.writerJoinable = true)
      (hreturned : l.bridge.readerThread = some .returned) :
      Called l .waitForCompletion { l with readerJoinable := false, writerJoinable := false } st
  | disconnected : Called l .disconnect { l with bridge := l.bridge.disconnect } {}
  | thread (e : Bridge.Event Buf) (bridge : Bridge S) (hsteps : l.bridge.Steps e bridge) :
      Called l (.thread e) { l with bridge } {}

theorem called_of_call {st : Status} (hc : Consistent l.bridge.client) (h : l.call e = some (t, st)) :
    l.Called e t st := by
  cases e with
  | connect uri x =>
    obtain ⟨⟨bridge, st'⟩, hr, hpair⟩ := Option.map_eq_some_iff.mp h
    cases hpair
    rcases Bridge.connect_cases hc hr with ⟨hst, rfl⟩ | ⟨hst, -, client, si, hclient, hstate, rfl⟩
    · exact .unconnected uri x st hst
    · exact .connected uri x st hst client hclient hstate si
  | registerSlave slave config x =>
    obtain ⟨⟨bridge, st'⟩, hr, hpair⟩ := Option.map_eq_some_iff.mp h
    cases hpair
    rcases Bridge.registerSlave_cases hc hr with ⟨hst, client, hclient, rfl⟩ | ⟨hst, -, id, hid, rfl⟩
    · exact .refused _ (.registerSlave slave config x) st hst client hclient
    · exact .slave slave config x st hst id hid
  | registerMaster name x =>
    obtain ⟨⟨bridge, m, st'⟩, hr, hpair⟩ := Option.map_eq_some_iff.mp h
    cases hpair
    rcases Bridge.registerMaster_cases hc hr with ⟨hst, client, hclient, rfl⟩ | ⟨hst, -, id, md, hid, rfl⟩
    · exact .refused _ (.registerMaster name x) st hst client hclient
    · exact .master name x st hst id md hid
  | commitIp x =>
    obtain ⟨⟨bridge, st'⟩, hr, hpair⟩ := Option.map_eq_some_iff.mp h
    cases hpair
    rcases Bridge.commitIp_cases hc hr with ⟨hst, client, hclient, rfl⟩ | ⟨hst, hstate, rfl⟩
    · exact .refused _ (.commitIp x) st hst client hclient
    · exact .committed x st hst hstate
  | start reads =>
    obtain ⟨bridge, hr, hcases⟩ := start_cases h
    rcases Bridge.startLoop_cases hc hr with ⟨hst, hno, extra, hextra, rfl⟩ | ⟨hst, hyes, rfl⟩
    · rcases hcases with ⟨-, rfl⟩ | ⟨hok, -⟩ | ⟨hok, -⟩
      · exact .failed reads st hst hno extra hextra
      · simp [hst] at hok
      · simp [hst] at hok
    · rcases hcases with ⟨herr, -⟩ | ⟨-, hjoinable, rfl⟩ | ⟨-, hreader, hwriter, rfl⟩
      · simp [hst] at herr
      · exact .restarted reads st hst hyes hjoinable
      · exact .started reads st hst hyes hreader hwriter
  | waitForCompletion =>
    rcases waitForCompletion_cases h with ⟨hjoinable, rfl⟩ | ⟨hreader, hwriter, hreturned, -, rfl⟩
    · exact .unjoinable st hjoinable
    · exact .completed st hreader hwriter hreturned
  | disconnect =>
    cases h
    exact .disconnected
  | thread e =>
    obtain ⟨bridge, hr, hpair⟩ := Option.map_eq_some_iff.mp h
    cases hpair
    exact .thread e bridge (Bridge.steps_of_step hr)

/-- State, socket and URI of the client always agree. -/
theorem consistent_step (hc : Consistent l.bridge.client) (h : l.step e = some t) : Consistent t.bridge.client := by
  obtain ⟨-, st, hcall⟩ := step_inv h
  cases called_of_call hc hcall with
  | unconnected => exact hc
  | connected uri x st hst client hclient => exact hclient
  | refused e he st hst client hclient =>
    rcases hclient with rfl | rfl
    · exact hc
    · exact Consistent.new
  | slave => exact hc
  | master => exact hc
  | committed x st hst hstate => exact Bridge.consistent_state hc (by simp [hstate]) (by decide)
  | failed => exact hc.after_disconnect
  | restarted => exact hc
  | started reads st hst hyes => exact Bridge.consistent_state hc (by simp [hyes.1]) (by decide)
  | unjoinable => exact hc
  | completed => exact hc
  | disconnected => exact hc.after_disconnect
  | thread e bridge hsteps =>
    show Consistent bridge.client
    rw [hsteps.client]
    cases hop : l.bridge.clientOp e with
    | none => exact hc
    | some op =>
      cases hnext : RouterClient.next l.bridge.client op with
      | none => simpa [hnext] using hc
      | some client => simpa [hnext] using hc.next hnext

/-- The router tells of one peer and of no IP block. -/
def told : List (RouterClient.Received Wire.Message) :=
  [.ok (RouterClient.systemInfoMessage { name := "uut" }), .ok { type := some .ack }, .ok { type := some .ack }]

/-- A bridge connects, commits and starts. -/
def opening : List (Event Ram Wire.Message) :=
  [.connect "unix:///tmp/sw-axi"
      { write := .ok (), read := .ok (RouterClient.systemInfoMessage { name := "router" }), socket := .ok 3,
        connect := fun _ => .ok () },
    .commitIp { write := .ok (), read := .ok { type := some .ack } },
    .start told]

/-- The `DONE` of the router comes while the writer waits, and the bridge completes. -/
def closing : List (Event Ram Wire.Message) :=
  [.thread .pop, .thread (.receive (.ok RouterClient.doneMessage)), .thread .notify, .thread .resume,
    .thread (.sent (.ok ())), .waitForCompletion]

end Lifecycle

end SwAxi
