import SwAxi.Lifecycle

/-! The bridge with every socket call a step of its own (`src/lib/SwAxi.cc` over `src/common/RouterClient.cc`). The
program's thread, the reader and the writer are blocked in their calls, and meanwhile the other two go on: what an
operation of the client found in the client's state when it was called need not hold any more when its socket call
returns. A step goes from the return of one socket call to the next one. -/

namespace SwAxi
open Wire (Flatbuffers)
open Wire.Flatbuffers (getRoot)
open Transition
open RouterClient (startsWith unixPrefix)
open Bridge (StartLoop StartResult)

/-- A call that sends the router a request and waits for the reply. -/
inductive Request (S : Type) where
  | connect (uri : String)
  | registerSlave (slave : S) (config : IpConfig)
  | registerMaster (name : String)
  | commitIp

/-- Where the program's thread is, in a call that has not returned. -/
inductive Pending (S : Type) where
  /-- In `::connect`. -/
  | connecting (uri : String)
  /-- In `writeToSocket`. -/
  | writing (request : Request S)
  /-- In `readFromSocket`. -/
  | reading (request : Request S)
  /-- Before the client's operation in a loop of `start`. -/
  | starting (loop : StartLoop)
  /-- In the `readFromSocket` of that operation. -/
  | listing (loop : StartLoop)

structure Interleaved (S : Type) extends Lifecycle S where
  main : Option (Pending S) := none
  /-- The reader is in `readFromSocket`. -/
  reading : Bool := false
  /-- The writer is in `writeToSocket`. -/
  writing : Bool := false

namespace Request
variable {S Buf : Type} [Flatbuffers Buf]

/-- The state in which the client takes the request. -/
def required : Request S → RouterClient.State
  | .connect _ => .disconnected
  | .registerSlave _ _ | .registerMaster _ | .commitIp => .connected

/-- The rest of the call from the reply on. -/
def reply (b : Bridge S) (read : RouterClient.Received Buf) : Request S → Option (Bridge S)
  | .connect _ => (b.client.connectReply read).map fun r => (b.connected r).1
  | .registerSlave slave config => (b.client.registerIpReply config read).map fun r => (b.registeredSlave slave r).1
  | .registerMaster name =>
    (b.client.registerIpReply (Bridge.masterConfig name) read).map fun r => (b.registeredMaster r).1
  | .commitIp => (b.client.commitIpReply read).map fun r => (b.committed r).1

end Request

/-- A turn of a loop of `start` from the reply on. -/
def Bridge.StartLoop.reply {S Buf : Type} [Flatbuffers Buf] (b : Bridge S) (read : RouterClient.Received Buf) :
    StartLoop → Option (Bridge S × StartResult)
  | .peers => (b.client.peerInfoReply read).map b.peersTurned
  | .ips => (b.client.ipConfigReply read).map b.ipsTurned

/-- The operation of the client that sends it, from the return of its write on. -/
def Outgoing.written (c : RouterClient) (write : Except String Unit) : Outgoing → RouterClient × Status
  | .transaction _ => c.transactionWritten write
  | .termination _ => c.terminationWritten write
  | .logout => c.logoutWritten write

/-- The steps that are a call of the client. -/
def Bridge.Event.onSocket {Buf : Type} : Bridge.Event Buf → Bool
  | .receive _ | .sent _ => true
  | _ => false

namespace Interleaved
variable {S Buf : Type} [Slave S] [Flatbuffers Buf] (s : Interleaved S)

inductive Event (S Buf : Type) where
  /-- The program calls; for `connect`, `socket` is what the call of that name gives. -/
  | call (request : Request S) (socket : Except String Nat)
  | dialled (connect : Except String Unit)
  | written (write : Except String Unit)
  | replied (read : RouterClient.Received Buf)
  | start
  | turn
  | waitForCompletion
  | disconnect
  /-- The reader calls `receiveTransaction`. -/
  | receive
  | received (read : RouterClient.Received Buf)
  /-- The writer calls its send operation. -/
  | send
  | sent (write : Except String Unit)
  /-- A step of a thread without the client, of the queue or of a master. -/
  | thread (e : Bridge.Event Buf)

/-- The client as it is within a call. -/
def setClient (client : RouterClient) : Interleaved S := { s with bridge := { s.bridge with client } }

/-- The call fails on its socket: the client gives up the connection, and the bridge hands out the error. -/
def fail : Interleaved S := { s.setClient s.bridge.client.disconnect with main := none }

/-- A call up to its first socket call that can block. -/
def call (request : Request S) (socket : Except String Nat) : Interleaved S :=
  if s.bridge.client.state ≠ request.required then s
  else match request with
  | .connect uri =>
    if uri.length < 8 ∨ startsWith uri unixPrefix = false then s
    else match socket with
    | .error _ => s.setClient { s.bridge.client with sock := -1 }
    | .ok fd => { s.setClient { s.bridge.client with sock := fd } with main := some (.connecting uri) }
  | request => { s with main := some (.writing request) }

def dialled (uri : String) (connect : Except String Unit) : Interleaved S :=
  match connect with
  | .error _ => s.fail
  | .ok () => { s.setClient { s.bridge.client with connectedUri := uri } with main := some (.writing (.connect uri)) }

def written (request : Request S) (write : Except String Unit) : Interleaved S :=
  match write with
  | .error _ => s.fail
  | .ok () => { s with main := some (.reading request) }

/-- The reply of a call has come; what `readFromSocket` throws ends the call. -/
def replied (read : RouterClient.Received Buf) (request : Request S) : Option (Interleaved S) :=
  match read with
  | .oversized => some { s with main := none }
  | read => (request.reply s.bridge read).map fun bridge => { s with bridge, main := none }

/-- The client's operation in a loop of `start` is called; refused, it ends `start`. -/
def turn (loop : StartLoop) : Interleaved S :=
  if s.bridge.client.state ≠ loop.required then { s with bridge := s.bridge.disconnect, main := none }
  else { s with main := some (.listing loop) }

/-- The turn is over; at the end of the last one `start` assigns to the two threads. -/
def listed : Bridge S × StartResult → Interleaved S
  | (bridge, .again loop) => { s with bridge, main := some (.starting loop) }
  | (bridge, .returned st) =>
    if st.isError then { s with bridge, main := none }
    else if s.readerJoinable ∨ s.writerJoinable then { s with bridge, main := none, aborted := true }
    else { s with bridge, readerJoinable := true, writerJoinable := true, main := none, reading := false,
                  writing := false }

/-- The reply in a turn of a loop of `start` has come. -/
def turned (read : RouterClient.Received Buf) (loop : StartLoop) : Option (Interleaved S) :=
  match read with
  | .oversized => some { s with main := none }
  | read => (loop.reply s.bridge read).map s.listed

/-- The reader's call of `receiveTransaction`; one that the state refuses reads nothing. -/
def receive (Buf : Type) [Flatbuffers Buf] : Interleaved S :=
  if s.bridge.client.state ≠ .started then
    { s with bridge := s.bridge.readerReceive (.error "" : RouterClient.Received Buf) }
  else { s with reading := true }

def received (read : RouterClient.Received Buf) : Interleaved S :=
  { s with bridge := s.bridge.readerReturn (s.bridge.client.transactionReply read), reading := false }

/-- The writer's send operation; one that the state refuses writes nothing. -/
def send (out : Outgoing) : Interleaved S :=
  if s.bridge.client.state ≠ .started then { s with bridge := s.bridge.writerSent out (.error "") }
  else { s with writing := true }

def sent (out : Outgoing) (write : Except String Unit) : Interleaved S :=
  { s with bridge := s.bridge.writerReturn out (out.written s.bridge.client write), writing := false }

/-- What the event does; the program calls when its last call has returned. -/
def act : Event S Buf → Option (Interleaved S)
  | .call request socket => if s.main.isNone then some (s.call request socket) else none
  | .dialled connect =>
    match s.main with
    | some (.connecting uri) => some (s.dialled uri connect)
    | _ => none
  | .written write =>
    match s.main with
    | some (.writing request) => some (s.written request write)
    | _ => none
  | .replied read =>
    match s.main with
    | some (.reading request) => s.replied read request
    | some (.listing loop) => s.turned read loop
    | _ => none
  | .start => if s.main.isNone then some { s with main := some (.starting .peers) } else none
  | .turn =>
    match s.main with
    | some (.starting loop) => some (s.turn loop)
    | _ => none
  | .waitForCompletion =>
    if s.main.isNone then s.waitForCompletion.map fun r => { s with toLifecycle := r.1 } else none
  | .disconnect => if s.main.isNone then some { s with bridge := s.bridge.disconnect } else none
  | .receive =>
    if s.bridge.readerThread = some .receiving ∧ s.reading = false then some (s.receive Buf) else none
  | .received read => if s.reading then some (s.received read) else none
  | .send =>
    match s.bridge.writerThread with
    | some (.sending out) => if s.writing then none else some (s.send out)
    | _ => none
  | .sent write =>
    match s.bridge.writerThread with
    | some (.sending out) => if s.writing then some (s.sent out write) else none
    | _ => none
  | .thread e => if e.onSocket then none else (s.bridge.step e).map fun bridge => { s with bridge }

/-- Nothing follows on an abort. -/
def step (e : Event S Buf) : Option (Interleaved S) := if s.aborted then none else s.act e

/-! ### Calls that nothing interrupts -/

/-- Every thread is out of its socket calls. -/
def idle (l : Lifecycle S) : Interleaved S := { toLifecycle := l }

section
variable {s t : Interleaved S} {l : Lifecycle S} {b : Bridge S} {request : Request S} {read : RouterClient.Received Buf}
  {loop : StartLoop}

omit [Slave S] in
theorem replied_of_reply (h : request.reply s.bridge read = some b) :
    s.replied read request = some { s with bridge := b, main := none } := by
  cases read with
  | error err => exact congrArg (Option.map _) h
  | ok data => exact congrArg (Option.map _) h
  | oversized => cases request <;> cases h

omit [Slave S] in
theorem turned_of_reply {res : StartResult} (h : loop.reply s.bridge read = some (b, res)) :
    s.turned read loop = some (s.listed (b, res)) := by
  cases read with
  | error err => exact congrArg (Option.map _) h
  | ok data => exact congrArg (Option.map _) h
  | oversized => cases loop <;> cases h

theorem step_of_running (h : s.aborted = false) (e : Event S Buf) : s.step e = s.act e := by
  simp [step, h]

/-- A request that the client's state refuses. -/
theorem run_refused (hl : l.aborted = false) (request : Request S) (hstate : l.bridge.client.state ≠ request.required) :
    run step (idle l) ([.call request (.error "")] : List (Event S Buf)) = some (idle l) := by
  have hcall : (idle l).call request (.error "") = idle l := if_pos hstate
  refine (run_cons (step_of_running hl _)).mpr ?_
  exact congrArg some hcall

/-- A request whose write fails. -/
theorem step_unwritten (hs : s.aborted = false) (hmain : s.main = some (.writing request)) (err : String) :
    step s (.written (.error err) : Event S Buf) = some s.fail := by
  rw [step_of_running hs, act, hmain]
  rfl

/-- One whose reply comes. -/
theorem run_replied (hs : s.aborted = false) (hmain : s.main = some (.writing request))
    (hreply : request.reply s.bridge read = some b) :
    run step s ([.written (.ok ()), .replied read] : List (Event S Buf)) =
      some { s with bridge := b, main := none } := by
  have hwritten : step s (.written (.ok ()) : Event S Buf) = some { s with main := some (.reading request) } := by
    rw [step_of_running hs, act, hmain]
    rfl
  have hreplied : step { s with main := some (.reading request) } (.replied read : Event S Buf) =
      some { s with bridge := b, main := none } := by
    have hrest : ({ s with main := some (.reading request) } : Interleaved S).replied read request =
        some { s with bridge := b, main := none } := replied_of_reply hreply
    exact (step_of_running (s := { s with main := some (.reading request) }) hs _).trans hrest
  exact (run_cons hwritten).mpr ((run_cons hreplied).mpr rfl)

/-- A registration or the commit: it is refused, its write fails, or its reply comes. -/
theorem run_exchange {α : Type} {bad : α} {refusal text : String} {x : RouterClient.Exchange Buf}
    {reply : Option (RouterClient × α × Status)} {k : RouterClient × α × Status → Bridge S}
    {r : RouterClient × α × Status} (hl : l.aborted = false) (request : Request S)
    (hrequired : request.required = .connected) (hreply : request.reply l.bridge x.read = reply.map k)
    (hk : ∀ client text, k (client, bad, ⟨1, text⟩) = { l.bridge with client })
    (h : (if l.bridge.client.state ≠ .connected then some (l.bridge.client, bad, ⟨1, refusal⟩)
      else l.bridge.client.exchange bad text x.write reply) = some r) :
    ∃ es : List (Event S Buf), run step (idle l) es = some (idle { l with bridge := k r }) := by
  by_cases hstate : l.bridge.client.state = .connected
  · have htaken : ¬l.bridge.client.state ≠ request.required := not_not.mpr (hstate.trans hrequired.symm)
    have hcall : step (idle l) (.call request (.error "") : Event S Buf) =
        some { idle l with main := some (.writing request) } := by
      refine (step_of_running hl _).trans (congrArg some ?_)
      cases request with
      | connect uri => cases hrequired
      | _ => exact if_neg htaken
    rw [if_neg (not_not.mpr hstate)] at h
    cases hwrite : x.write with
    | error err =>
      rw [hwrite] at h
      cases h
      rw [RouterClient.fail, hk]
      exact ⟨_, (run_cons hcall).mpr ((run_cons (step_unwritten hl rfl err)).mpr (run_nil _))⟩
    | ok _ =>
      rw [hwrite] at h
      have hr : reply = some r := h
      rw [hr] at hreply
      exact ⟨_, (run_cons hcall).mpr (run_replied hl rfl hreply)⟩
  · rw [if_pos hstate] at h
    cases h
    rw [hk]
    exact ⟨_, run_refused hl request (hrequired.symm ▸ hstate)⟩

theorem run_connect {uri : String} {x : RouterClient.ConnectCalls Buf} {st : Status} (hl : l.aborted = false)
    (h : l.bridge.connect uri x = some (b, st)) :
    ∃ es : List (Event S Buf), run step (idle l) es = some (idle { l with bridge := b }) := by
  obtain ⟨r, hr, hb⟩ := Option.map_eq_some_iff.mp h
  obtain rfl : (l.bridge.connected r).1 = b := congrArg Prod.fst hb
  by_cases hstate : l.bridge.client.state = .disconnected
  swap
  · unfold RouterClient.connect RouterClient.dial at hr
    rw [if_pos hstate] at hr
    cases hr
    exact ⟨_, run_refused hl (.connect uri) hstate⟩
  have hrunning (socket : Except String Nat) : step (idle l) (.call (.connect uri) socket : Event S Buf) =
      some ((idle l).call (.connect uri) socket) := step_of_running hl _
  unfold RouterClient.connect RouterClient.dial at hr
  rw [if_neg (not_not.mpr hstate)] at hr
  by_cases huri : uri.length < 8 ∨ startsWith uri unixPrefix = false
  · rw [if_pos huri] at hr
    cases hr
    have hcall : (idle l).call (.connect uri) (.error "") = idle l := (if_neg (not_not.mpr hstate)).trans (if_pos huri)
    exact ⟨[_], (run_cons (hrunning _)).mpr (congrArg some hcall)⟩
  rw [if_neg huri] at hr
  cases hsocket : x.socket with
  | error err =>
    rw [hsocket] at hr
    cases hr
    have hcall : (idle l).call (.connect uri) (.error err) = (idle l).setClient { l.bridge.client with sock := -1 } :=
      (if_neg (not_not.mpr hstate)).trans (if_neg huri)
    exact ⟨[_], (run_cons (hrunning _)).mpr (congrArg some hcall)⟩
  | ok fd =>
    rw [hsocket] at hr
    have hcall : step (idle l) (.call (.connect uri) (.ok fd) : Event S Buf) =
        some { (idle l).setClient { l.bridge.client with sock := (fd : Int) } with main := some (.connecting uri) } :=
      (hrunning _).trans (congrArg some ((if_neg (not_not.mpr hstate)).trans (if_neg huri)))
    have hdialled (connect : Except String Unit) : step
        { (idle l).setClient { l.bridge.client with sock := (fd : Int) } with main := some (.connecting uri) }
        (.dialled connect : Event S Buf) = some (dialled
          { (idle l).setClient { l.bridge.client with sock := (fd : Int) } with main := some (.connecting uri) } uri
          connect) := step_of_running hl _
    cases hconnect : x.connect (RouterClient.sunPath uri) with
    | error err =>
      simp only [hconnect] at hr
      cases hr
      exact ⟨_, (run_cons hcall).mpr ((run_cons (hdialled (.error err))).mpr (run_nil _))⟩
    | ok _ =>
      cases hwrite : x.write with
      | error err =>
        simp only [hconnect, hwrite] at hr
        cases hr
        exact ⟨_, (run_cons hcall).mpr ((run_cons (hdialled (.ok ()))).mpr
          ((run_cons (step_unwritten hl rfl err)).mpr (run_nil _)))⟩
      | ok _ =>
        simp only [hconnect, hwrite] at hr
        have hreply : (Request.connect uri : Request S).reply
            { l.bridge with client := { l.bridge.client with sock := (fd : Int), connectedUri := uri } } x.read =
            some (l.bridge.connected r).1 := by
          simp only [Request.reply, hr, Option.map_some]
          rfl
        exact ⟨_, (run_cons hcall).mpr ((run_cons (hdialled (.ok ()))).mpr (run_replied hl rfl hreply))⟩

omit [Slave S] in
/-- A turn that the client's state refuses. -/
theorem startTurn_refused (hstate : b.client.state ≠ loop.required) (read : RouterClient.Received Buf) :
    ∃ st, st.isError = true ∧ b.startTurn loop read = some (b.disconnect, .returned st) := by
  cases loop with
  | peers =>
    have hrefused : b.client.retrievePeerInfo read =
        some (b.client, none, ⟨1, "The bridge needs to be COMMITTED in order to start"⟩) := if_pos hstate
    exact ⟨_, rfl, congrArg (Option.map b.peersTurned) hrefused⟩
  | ips =>
    have hrefused : b.client.retrieveIpConfig read = some (b.client, none,
        ⟨1, "The client needs to receive all the peer infos before receiving IP info"⟩) := if_pos hstate
    exact ⟨_, rfl, congrArg (Option.map b.ipsTurned) hrefused⟩

omit [Slave S] in
theorem startTurn_taken (hstate : b.client.state = loop.required) : b.startTurn loop read = loop.reply b read := by
  cases loop with
  | peers =>
    have htaken : b.client.retrievePeerInfo read = b.client.peerInfoReply read := if_neg (not_not.mpr hstate)
    rw [Bridge.startTurn, htaken]
    rfl
  | ips =>
    have htaken : b.client.retrieveIpConfig read = b.client.ipConfigReply read := if_neg (not_not.mpr hstate)
    rw [Bridge.startTurn, htaken]
    rfl

omit [Slave S] in
theorem listed_main (main : Option (Pending S)) (r : Bridge S × StartResult) :
    ({ s with main } : Interleaved S).listed r = s.listed r := by
  obtain ⟨bridge, loop | st⟩ := r <;> rfl

/-- The loops of `start`, turn by turn. -/
theorem run_startLoop {reads : List (RouterClient.Received Buf)} {st : Status} (hs : s.aborted = false)
    (hmain : s.main = some (.starting loop)) (h : s.bridge.startLoop loop reads = some (b, st)) :
    ∃ es : List (Event S Buf), run step s es = some (s.listed (b, .returned st)) := by
  induction reads generalizing s loop with
  | nil => cases h
  | cons read reads ih =>
    have hturn : step s (.turn : Event S Buf) = some (s.turn loop) := by rw [step_of_running hs, act, hmain]
    unfold Bridge.startLoop at h
    by_cases hstate : s.bridge.client.state = loop.required
    · have hlisting : s.turn loop = { s with main := some (.listing loop) } := if_neg (not_not.mpr hstate)
      rw [hlisting] at hturn
      rw [startTurn_taken hstate] at h
      have hreplied {b' : Bridge S} {res : StartResult} (hreply : loop.reply s.bridge read = some (b', res)) :
          step { s with main := some (.listing loop) } (.replied read : Event S Buf) = some (s.listed (b', res)) := by
        rw [← listed_main (some (.listing loop))]
        exact (step_of_running (s := { s with main := some (.listing loop) }) hs _).trans (turned_of_reply hreply)
      split at h
      · cases h
      · rename_i b' loop' hreply
        obtain ⟨es, hr⟩ := ih (s := { s with bridge := b', main := some (.starting loop') }) hs rfl h
        exact ⟨_, (run_cons hturn).mpr ((run_cons (hreplied hreply)).mpr hr)⟩
      · rename_i b' st' hreply
        split at h
        · cases h
          exact ⟨_, (run_cons hturn).mpr ((run_cons (hreplied hreply)).mpr (run_nil _))⟩
        · cases h
    · obtain ⟨st', hst, hrefused⟩ := startTurn_refused hstate read
      simp only [hrefused] at h
      split at h <;> cases h
      have hover : s.turn loop = s.listed (s.bridge.disconnect, .returned st) :=
        (if_pos hstate).trans (if_pos hst).symm
      rw [hover] at hturn
      exact ⟨_, (run_cons hturn).mpr (run_nil _)⟩

omit [Slave S] in
theorem readerReceive_started (h : b.client.state = .started) :
    b.readerReceive read = b.readerReturn (b.client.transactionReply read) :=
  congrArg b.readerReturn (if_neg (not_not.mpr h))

omit [Slave S] in
/-- A refused call does not come to its read. -/
theorem readerReceive_refused (h : b.client.state ≠ .started) (read read' : RouterClient.Received Buf) :
    b.readerReceive read = b.readerReceive read' :=
  congrArg b.readerReturn ((if_pos h).trans (if_pos h).symm)

omit [Slave S] in
theorem writerSent_started (h : b.client.state = .started) (out : Outgoing) (write : Except String Unit) :
    b.writerSent out write = b.writerReturn out (out.written b.client write) := by
  cases out <;> exact congrArg (b.writerReturn _) (if_neg (not_not.mpr h))

omit [Slave S] in
theorem writerSent_refused (h : b.client.state ≠ .started) (out : Outgoing) (write write' : Except String Unit) :
    b.writerSent out write = b.writerSent out write' := by
  cases out <;> exact congrArg (b.writerReturn _) ((if_pos h).trans (if_pos h).symm)

theorem run_receive (hl : l.aborted = false) (hr : l.bridge.readerThread = some .receiving)
    (read : RouterClient.Received Buf) : ∃ es : List (Event S Buf), run step (idle l) es =
      some (idle { l with bridge := l.bridge.readerReceive read }) := by
  have hreceive : step (idle l) (.receive : Event S Buf) = some ((idle l).receive Buf) :=
    (step_of_running hl _).trans (if_pos ⟨hr, rfl⟩)
  by_cases hstate : l.bridge.client.state = .started
  · have hreading : (idle l).receive Buf = { idle l with reading := true } := if_neg (not_not.mpr hstate)
    rw [hreading] at hreceive
    rw [readerReceive_started hstate]
    exact ⟨[_, .received read], (run_cons hreceive).mpr ((run_cons (step_of_running hl _)).mpr (run_nil _))⟩
  · have hover : (idle l).receive Buf =
        idle { l with bridge := l.bridge.readerReceive (.error "" : RouterClient.Received Buf) } := if_pos hstate
    rw [readerReceive_refused hstate read (.error ""), ← hover]
    exact ⟨_, (run_cons hreceive).mpr (run_nil _)⟩

theorem run_send {out : Outgoing} (hl : l.aborted = false) (hw : l.bridge.writerThread = some (.sending out))
    (write : Except String Unit) : ∃ es : List (Event S Buf), run step (idle l) es =
      some (idle { l with bridge := l.bridge.writerSent out write }) := by
  have hsend : step (idle l) (.send : Event S Buf) = some ((idle l).send out) := by
    rw [step_of_running (s := idle l) hl, act, show (idle l).bridge.writerThread = some (.sending out) from hw]
    rfl
  by_cases hstate : l.bridge.client.state = .started
  · have hwriting : (idle l).send out = { idle l with writing := true } := if_neg (not_not.mpr hstate)
    rw [hwriting] at hsend
    have hsent : step { idle l with writing := true } (.sent write : Event S Buf) =
        some (idle { l with bridge := l.bridge.writerSent out write }) := by
      rw [step_of_running (s := { idle l with writing := true }) hl, act,
        show ({ idle l with writing := true } : Interleaved S).bridge.writerThread = some (.sending out) from hw,
        writerSent_started hstate]
      rfl
    exact ⟨_, (run_cons hsend).mpr ((run_cons hsent).mpr (run_nil _))⟩
  · have hover : (idle l).send out = idle { l with bridge := l.bridge.writerSent out (.error "") } := if_pos hstate
    rw [writerSent_refused hstate out write (.error ""), ← hover]
    exact ⟨_, (run_cons hsend).mpr (run_nil _)⟩

/-- What a call does with nothing between its socket calls is what these do one by one. -/
theorem run_of_step {e : Lifecycle.Event S Buf} {l' : Lifecycle S} (h : l.step e = some l') :
    ∃ (es : List (Event S Buf)) (t : Interleaved S), run step (idle l) es = some t ∧
      (t = idle l' ∨ (t.aborted = true ∧ l'.aborted = true)) := by
  obtain ⟨hl, st, hcall⟩ := Lifecycle.step_inv h
  have hdone {m : Lifecycle S} (hr : ∃ es : List (Event S Buf), run step (idle l) es = some (idle m)) :
      ∃ (es : List (Event S Buf)) (t : Interleaved S), run step (idle l) es = some t ∧
        (t = idle m ∨ (t.aborted = true ∧ m.aborted = true)) := by
    obtain ⟨es, hr⟩ := hr
    exact ⟨es, _, hr, Or.inl rfl⟩
  cases e with
  | connect uri x =>
    obtain ⟨⟨bridge, st'⟩, hr, hpair⟩ := Option.map_eq_some_iff.mp hcall
    cases hpair
    exact hdone (run_connect hl hr)
  | registerSlave slave config x =>
    obtain ⟨⟨bridge, st'⟩, hr, hpair⟩ := Option.map_eq_some_iff.mp hcall
    cases hpair
    obtain ⟨r, hr, hb⟩ := Option.map_eq_some_iff.mp hr
    rw [← show (l.bridge.registeredSlave slave r).1 = bridge from congrArg Prod.fst hb]
    exact hdone (run_exchange (k := fun r => (l.bridge.registeredSlave slave r).1) hl (.registerSlave slave config) rfl rfl
      (fun _ _ => rfl) hr)
  | registerMaster name x =>
    obtain ⟨⟨bridge, m, st'⟩, hr, hpair⟩ := Option.map_eq_some_iff.mp hcall
    cases hpair
    obtain ⟨r, hr, hb⟩ := Option.map_eq_some_iff.mp hr
    rw [← show (l.bridge.registeredMaster r).1 = bridge from congrArg Prod.fst hb]
    exact hdone (run_exchange (k := fun r => (l.bridge.registeredMaster r).1) hl (.registerMaster name) rfl rfl
      (fun _ _ => rfl) hr)
  | commitIp x =>
    obtain ⟨⟨bridge, st'⟩, hr, hpair⟩ := Option.map_eq_some_iff.mp hcall
    cases hpair
    obtain ⟨r, hr, hb⟩ := Option.map_eq_some_iff.mp hr
    rw [← show (l.bridge.committed r).1 = bridge from congrArg Prod.fst hb]
    exact hdone (run_exchange (k := fun r => (l.bridge.committed r).1) hl .commitIp rfl rfl (fun _ _ => rfl) hr)
  | start reads =>
    obtain ⟨bridge, hr, hcases⟩ := Lifecycle.start_cases hcall
    have hstart : step (idle l) (.start : Event S Buf) = some { idle l with main := some (.starting .peers) } :=
      step_of_running hl _
    obtain ⟨es, hloop⟩ := run_startLoop (s := { idle l with main := some (.starting .peers) }) hl rfl hr
    refine ⟨_, _, (run_cons hstart).mpr hloop, ?_⟩
    rcases hcases with ⟨hst, rfl⟩ | ⟨hst, hjoinable, rfl⟩ | ⟨hst, hreader, hwriter, rfl⟩
    · exact Or.inl (by simp [listed, hst, idle])
    · exact Or.inr ⟨by simp [listed, hst, idle, hjoinable], rfl⟩
    · exact Or.inl (by simp [listed, hst, idle, hreader, hwriter])
  | waitForCompletion =>
    have hover : act (idle l) (.waitForCompletion : Event S Buf) = some (idle l') := by
      have hcall : l.waitForCompletion = some (l', st) := hcall
      simp [act, idle, hcall]
    exact ⟨[_], _, (run_cons ((step_of_running hl _).trans hover)).mpr (run_nil _), Or.inl rfl⟩
  | disconnect =>
    cases hcall
    exact hdone ⟨[.disconnect], (run_cons (step_of_running hl _)).mpr (run_nil _)⟩
  | thread e =>
    obtain ⟨bridge, hr, hpair⟩ := Option.map_eq_some_iff.mp hcall
    cases hpair
    by_cases he : e.onSocket = true
    · cases e with
      | receive read =>
        cases Bridge.moves_of_step hr with
        | receive read hreceiving => exact hdone (run_receive hl hreceiving read)
      | sent write =>
        cases Bridge.moves_of_step hr with
        | sent out write hsending => exact hdone (run_send hl hsending write)
      | _ => cases he
    · have hover : act (idle l) (.thread e : Event S Buf) = some (idle { l with bridge }) := by
        simp [act, idle, he, hr]
      exact hdone ⟨[_], (run_cons ((step_of_running hl _).trans hover)).mpr (run_nil _)⟩

/-- And so is a run of such calls. -/
theorem run_of_run {es : List (Lifecycle.Event S Buf)} {l' : Lifecycle S} (h : run Lifecycle.step l es = some l') :
    ∃ (es : List (Event S Buf)) (t : Interleaved S), run step (idle l) es = some t ∧
      (t = idle l' ∨ (t.aborted = true ∧ l'.aborted = true)) := by
  induction es generalizing l with
  | nil =>
    cases h
    exact ⟨[], _, rfl, Or.inl rfl⟩
  | cons e es ih =>
    obtain ⟨m, hm, hr⟩ := run_cons_inv h
    obtain ⟨fs, t, hfs, rfl | ⟨ht, haborted⟩⟩ := run_of_step hm
    · obtain ⟨gs, u, hgs, hu⟩ := ih hr
      exact ⟨fs ++ gs, u, run_append.mpr ⟨_, hfs, hgs⟩, hu⟩
    · cases es with
      | nil =>
        cases hr
        exact ⟨fs, t, hfs, Or.inr ⟨ht, haborted⟩⟩
      | cons e' es =>
        obtain ⟨v, hv, -⟩ := run_cons_inv hr
        simp [Lifecycle.step, haborted] at hv

end

end Interleaved

end SwAxi
