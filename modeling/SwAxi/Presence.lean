import SwAxi.Interleaved

/-! What `getRouterInfo` says of the connection over the life of a bridge, whatever the three threads do in between. The
client drops a connection by itself on what it meets on the socket, and goes on to its next state without a look at the
one it is in; only `start` and `disconnect` reset what the bridge keeps of the router. -/

namespace SwAxi
open Wire (Flatbuffers)
open Wire.Flatbuffers (getRoot)
open Transition
open Bridge (StartLoop StartResult messageType)

/-- The bridge has the information about a router exactly while it is connected to one. -/
def Bridge.Present {S : Type} (b : Bridge S) : Prop :=
  b.getRouterInfo.isSome = true ↔ b.client.state ≠ .disconnected

/-- What becomes of a connection. -/
inductive Turnout where
  /-- The client drops it by itself. -/
  | dropped
  /-- The client goes on to a later state. -/
  | advanced
  /-- The bridge resets. -/
  | reset
  | kept
  deriving DecidableEq, Repr

section
variable {S Buf : Type} [Flatbuffers Buf]

/-- The message that ends the call well. -/
def Request.expected : Request S → Wire.MsgType
  | .connect _ => .systemInfo
  | .registerSlave _ _ | .registerMaster _ => .ipAck
  | .commitIp => .ack

/-- What that message brings; `connect` moves the client on and tells the bridge of the router. -/
def Request.ended : Request S → Turnout
  | .commitIp => .advanced
  | .connect _ | .registerSlave _ _ | .registerMaster _ => .kept

def Request.turnout (read : RouterClient.Received Buf) (request : Request S) : Turnout :=
  match read with
  | .error _ => .dropped
  | .oversized => .kept
  | .ok data => if (getRoot data).getType ≠ request.expected then .dropped else request.ended

def Bridge.StartLoop.turnout (read : RouterClient.Received Buf) (loop : StartLoop) : Turnout :=
  match read with
  | .error _ => .reset
  | .oversized => .kept
  | .ok data =>
    if (getRoot data).getType = .ack then .advanced
    else if loop.takes read then .kept
    else .reset

/-- The one of the reader's call. -/
def readerTurnout (read : RouterClient.Received Buf) : Turnout :=
  match read with
  | .error _ => .dropped
  | .oversized => .kept
  | .ok data => if (getRoot data).getType = .done ∨ (getRoot data).getType = .transaction then .kept else .dropped

end

namespace Interleaved
variable {S Buf : Type} [Flatbuffers Buf] (s : Interleaved S)

/-- What a step does with the connection. -/
def turnout : Event S Buf → Turnout
  | .dialled (.error _) | .written (.error _) | .sent (.error _) => .dropped
  | .replied read =>
    match s.main with
    | some (.reading request) => request.turnout read
    | some (.listing loop) => loop.turnout read
    | _ => .kept
  | .turn =>
    match s.main with
    | some (.starting loop) => if s.bridge.client.state = loop.required then .kept else .reset
    | _ => .kept
  | .disconnect => .reset
  | .received read => readerTurnout read
  | .sent (.ok ()) => if s.bridge.writerThread = some (.sending .logout) then .advanced else .kept
  | _ => .kept

/-- The step parts the client from what the bridge keeps of the router: the client drops a connection that is there, it
    goes on though another thread has dropped it, or the bridge resets and the client, whose socket another thread has
    closed, stays in its state. -/
def Parts (e : Event S Buf) : Prop :=
  match s.turnout e with
  | .dropped => s.bridge.client.state ≠ .disconnected ∧ s.bridge.client.sock ≠ -1
  | .advanced => s.bridge.client.state = .disconnected
  | .reset => s.bridge.client.state ≠ .disconnected ∧ s.bridge.client.sock = -1
  | .kept => False

end Interleaved

/-! ### What the client makes of a reply -/

namespace RouterClient
variable {Buf : Type} [Flatbuffers Buf] {c : RouterClient} {read : Received Buf}

theorem disconnect_disconnect (c : RouterClient) : c.disconnect.disconnect = c.disconnect := by
  by_cases h : c.sock = -1
  · rw [show c.disconnect = c from if_pos h]
    exact if_pos h
  · rw [disconnect_of_open h]
    rfl

theorem transactionReply_kept {data : Buf} {r : RouterClient × Option Transaction × Status}
    (htype : (getRoot data).getType = .done ∨ (getRoot data).getType = .transaction)
    (h : c.transactionReply (.ok data) = some r) : r.1 = c := by
  unfold transactionReply receive at h
  simp only at h
  split at h
  · cases h
    rfl
  · rename_i hdone
    rw [if_neg (not_not.mpr (htype.resolve_left hdone))] at h
    obtain ⟨table, -, h⟩ := Option.bind_eq_some_iff.mp h
    split at h
    · cases h
      rfl
    · obtain ⟨txn, -, h⟩ := Option.bind_eq_some_iff.mp h
      cases h
      rfl

end RouterClient

/-! ### What the turnouts lead to -/

section
variable {S Buf : Type} [Flatbuffers Buf] {b t : Bridge S} {read : RouterClient.Received Buf}

def Turnout.Leads (b t : Bridge S) : Turnout → Prop
  | .dropped => t.client = b.client.disconnect ∧ t.routerInfo = b.routerInfo
  | .advanced => t.client.state ≠ .disconnected ∧ t.routerInfo = b.routerInfo
  | .reset => t.client = b.client.disconnect ∧ t.routerInfo = none
  | .kept => (t.client.state = b.client.state ∧ t.routerInfo = b.routerInfo) ∨
      (t.client.state ≠ .disconnected ∧ t.routerInfo.isSome = true)

/-- A reply that fails the call, and one that the request expects. -/
theorem Request.turnout_eq (request : Request S) (read : RouterClient.Received Buf) :
     (read.Other request.expected → request.turnout read = .dropped) ∧
    ∀ data : Buf, (getRoot data).getType = request.expected → request.turnout (.ok data) = request.ended := by
  refine ⟨fun h => ?_, fun data h => if_neg (not_not.mpr h)⟩
  cases read with
  | error err => rfl
  | ok data => exact if_pos h
  | oversized => exact h.elim

theorem request_leads {request : Request S} (h : request.reply b read = some t) :
    (request.turnout read).Leads b t := by
  obtain ⟨hdropped, hended⟩ := request.turnout_eq read
  cases request with
  | connect uri =>
    obtain ⟨r, hr, rfl⟩ := Option.map_eq_some_iff.mp h
    rcases RouterClient.connectReply_inv hr with ⟨hother, text, rfl⟩ | ⟨data, rfl, htype, si, rfl⟩
    · rw [hdropped hother]
      exact ⟨rfl, rfl⟩
    · rw [hended data htype]
      exact Or.inr ⟨by simp [Bridge.connected], rfl⟩
  | registerSlave slave config =>
    obtain ⟨r, hr, rfl⟩ := Option.map_eq_some_iff.mp h
    rcases RouterClient.registerIpReply_inv hr with ⟨hother, text, rfl⟩ | ⟨data, rfl, htype, rfl⟩
    · rw [hdropped hother]
      exact ⟨rfl, rfl⟩
    · rw [hended data htype]
      exact Or.inl ⟨rfl, rfl⟩
  | registerMaster name =>
    obtain ⟨r, hr, rfl⟩ := Option.map_eq_some_iff.mp h
    rcases RouterClient.registerIpReply_inv hr with ⟨hother, text, rfl⟩ | ⟨data, rfl, htype, rfl⟩
    · rw [hdropped hother]
      exact ⟨rfl, rfl⟩
    · rw [hended data htype]
      exact Or.inl ⟨rfl, rfl⟩
  | commitIp =>
    obtain ⟨r, hr, rfl⟩ := Option.map_eq_some_iff.mp h
    rcases RouterClient.commitIpReply_inv hr with ⟨hother, text, rfl⟩ | ⟨data, rfl, htype, rfl⟩
    · rw [hdropped hother]
      exact ⟨rfl, rfl⟩
    · rw [hended data htype]
      exact ⟨by simp [Bridge.committed], rfl⟩

omit [Flatbuffers Buf] in
/-- A reset after the client has given up its connection, or kept it. -/
theorem disconnect_leads {client : RouterClient} (h : client = b.client ∨ client = b.client.disconnect) :
    Turnout.reset.Leads b ({ b with client } : Bridge S).disconnect := by
  rcases h with rfl | rfl
  · exact ⟨rfl, rfl⟩
  · exact ⟨RouterClient.disconnect_disconnect _, rfl⟩

/-- What a loop of `start` fails on, it does not take. -/
theorem turnout_of_failed {loop : StartLoop} {c : RouterClient} {α : Type} {type : Wire.MsgType}
    {what list : String} {next : RouterClient.State} {entry : Wire.Message → Option (RouterClient × Option α × Status)}
    {r : RouterClient × Option α × Status} (h : c.retrieve type what list next entry read = some r)
    (hack : messageType read ≠ some .ack) (htakes : loop.takes read = false) : loop.turnout read = .reset := by
  cases read with
  | error err => rfl
  | ok data =>
    have hack : (getRoot data).getType ≠ .ack := fun heq => hack (congrArg some heq)
    simp [StartLoop.turnout, hack, htakes]
  | oversized => cases h

theorem turnout_of_ack {loop : StartLoop} (hack : messageType read = some .ack) : loop.turnout read = .advanced := by
  cases read with
  | error err => cases hack
  | ok data => exact if_pos (Option.some.inj hack)
  | oversized => cases hack

theorem turnout_of_takes {loop : StartLoop} (htakes : loop.takes read = true) (hack : messageType read ≠ some .ack) :
    loop.turnout read = .kept := by
  cases read with
  | error err => cases loop <;> cases htakes
  | ok data =>
    have hack : (getRoot data).getType ≠ .ack := fun heq => hack (congrArg some heq)
    simp [StartLoop.turnout, hack, htakes]
  | oversized => rfl

theorem loop_leads {loop : StartLoop} {res : StartResult} (h : loop.reply b read = some (t, res)) :
    (loop.turnout read).Leads b t := by
  cases loop with
  | peers =>
    obtain ⟨r, hr, hpair⟩ := Option.map_eq_some_iff.mp h
    obtain rfl : (b.peersTurned r).1 = t := congrArg Prod.fst hpair
    rcases Bridge.retrieve_inv hr with ⟨data, rfl, htype, hentry⟩ | ⟨hack, rfl⟩ | ⟨hack, hother, text, rfl⟩
    · obtain ⟨table, htable, hentry⟩ := Option.bind_eq_some_iff.mp hentry
      obtain ⟨si, hsi, hentry⟩ := Option.bind_eq_some_iff.mp hentry
      cases Option.some.inj hentry
      rw [turnout_of_takes (by simp [StartLoop.takes, Bridge.sentPeer, htype, htable, hsi]) (by simp [messageType, htype])]
      exact Or.inl ⟨rfl, rfl⟩
    · rw [turnout_of_ack hack]
      exact ⟨by simp [Bridge.peersTurned], rfl⟩
    · rw [turnout_of_failed hr hack (by simp [StartLoop.takes, Bridge.sentPeer_eq_none hother])]
      exact disconnect_leads (Or.inr rfl)
  | ips =>
    obtain ⟨r, hr, hpair⟩ := Option.map_eq_some_iff.mp h
    obtain rfl : (b.ipsTurned r).1 = t := congrArg Prod.fst hpair
    rcases Bridge.retrieve_inv hr with ⟨data, rfl, htype, hentry⟩ | ⟨hack, rfl⟩ | ⟨hack, hother, text, rfl⟩
    · have hack : messageType (.ok data : RouterClient.Received Buf) ≠ some .ack := by simp [messageType, htype]
      obtain ⟨table, htable, hentry⟩ := Option.bind_eq_some_iff.mp hentry
      obtain ⟨name, hname, hentry⟩ := Option.bind_eq_some_iff.mp hentry
      split at hentry
      · rename_i hreads
        cases Option.some.inj hentry
        rw [turnout_of_failed hr hack (by simp [StartLoop.takes, Bridge.sentIp, htype, htable, hname, hreads])]
        exact disconnect_leads (Or.inl rfl)
      · rename_i type hreads
        cases Option.some.inj hentry
        rw [turnout_of_takes (by simp [StartLoop.takes, Bridge.sentIp, htype, htable, hname, hreads]) hack]
        exact Or.inl ⟨rfl, rfl⟩
    · rw [turnout_of_ack hack]
      exact ⟨by simp [Bridge.ipsTurned], rfl⟩
    · rw [turnout_of_failed hr hack (by simp [StartLoop.takes, Bridge.sentIp_eq_none hother])]
      exact disconnect_leads (Or.inr rfl)

omit [Flatbuffers Buf] in
theorem readerReturn_connection (r : RouterClient × Option Transaction × Status) :
    (b.readerReturn (some r)).client = r.1 ∧ (b.readerReturn (some r)).routerInfo = b.routerInfo := by
  obtain ⟨client, txn, st⟩ := r
  unfold Bridge.readerReturn
  simp only
  split
  · exact ⟨rfl, rfl⟩
  · split <;> exact ⟨rfl, rfl⟩

omit [Flatbuffers Buf] in
theorem writerReturn_connection (out : Outgoing) (r : RouterClient × Status) :
    (b.writerReturn out r).client = r.1 ∧ (b.writerReturn out r).routerInfo = b.routerInfo := by
  obtain ⟨client, st⟩ := r
  unfold Bridge.writerReturn
  simp only
  split
  · exact ⟨rfl, rfl⟩
  · split <;> exact ⟨rfl, rfl⟩

omit [Flatbuffers Buf] in
/-- A send operation that the state refuses. -/
theorem refused_leads (hstate : b.client.state ≠ .started) (out : Outgoing) (write : Except String Unit) :
    Turnout.kept.Leads b (b.writerSent out write) := by
  have hreturn {st : Status} {r : RouterClient × Status} (hr : r = (b.client, st)) :
      Turnout.kept.Leads b (b.writerReturn out r) := by
    obtain ⟨hclient, hinfo⟩ := writerReturn_connection (b := b) out r
    exact Or.inl ⟨by rw [hclient, hr], hinfo⟩
  cases out <;> exact hreturn (if_pos hstate)

omit [Flatbuffers Buf] in
theorem unwritten_leads (out : Outgoing) (err : String) :
    Turnout.dropped.Leads b (b.writerReturn out (out.written b.client (.error err))) := by
  obtain ⟨hclient, hinfo⟩ := writerReturn_connection (b := b) out (out.written b.client (.error err))
  exact ⟨by rw [hclient]; cases out <;> rfl, hinfo⟩

omit [Flatbuffers Buf] in
/-- Only the logout moves the client on. -/
theorem written_leads (out : Outgoing) : (if out = .logout then Turnout.advanced else .kept).Leads b
    (b.writerReturn out (out.written b.client (.ok ()))) := by
  obtain ⟨hclient, hinfo⟩ := writerReturn_connection (b := b) out (out.written b.client (.ok ()))
  cases out with
  | logout => exact ⟨by rw [hclient]; simp [Outgoing.written, RouterClient.logoutWritten, RouterClient.written], hinfo⟩
  | transaction txn => exact Or.inl ⟨by rw [hclient]; rfl, hinfo⟩
  | termination id => exact Or.inl ⟨by rw [hclient]; rfl, hinfo⟩

theorem reader_leads (read : RouterClient.Received Buf) :
    (readerTurnout read).Leads b (b.readerReturn (b.client.transactionReply read)) := by
  cases read with
  | error err =>
    obtain ⟨hclient, hinfo⟩ := readerReturn_connection (b := b)
      (b.client.fail none ("Error while receiving a transaction: " ++ err))
    exact ⟨hclient, hinfo⟩
  | oversized => exact Or.inl ⟨rfl, rfl⟩
  | ok data =>
    -- Only a message of another type costs the connection.
    by_cases htype : (getRoot data).getType = .done ∨ (getRoot data).getType = .transaction
    · rw [show readerTurnout (.ok data) = .kept from if_pos htype]
      cases hreply : b.client.transactionReply (.ok data) with
      | none => exact Or.inl ⟨rfl, rfl⟩
      | some r =>
        obtain ⟨hclient, hinfo⟩ := readerReturn_connection (b := b) r
        exact Or.inl ⟨by rw [hclient, RouterClient.transactionReply_kept htype hreply], hinfo⟩
    · rw [show readerTurnout (.ok data) = .dropped from if_neg htype]
      obtain ⟨hdone, htxn⟩ := not_or.mp htype
      have hreply : b.client.transactionReply (.ok data) = some (b.client.fail none
          ("Got an unexpected response instead of a transaction: " ++ toString (getRoot data).getType.code)) :=
        (if_neg hdone).trans (if_pos htxn)
      rw [hreply]
      obtain ⟨hclient, hinfo⟩ := readerReturn_connection (b := b) (b.client.fail none
          ("Got an unexpected response instead of a transaction: " ++ toString (getRoot data).getType.code))
      exact ⟨hclient, hinfo⟩

end

namespace Interleaved
variable {S Buf : Type} [Slave S] [Flatbuffers Buf] {s t : Interleaved S} {e : Event S Buf}

omit [Slave S] in
theorem call_leads (request : Request S) (socket : Except String Nat) :
    Turnout.kept.Leads s.bridge (s.call request socket).bridge := by
  unfold call
  split
  · exact Or.inl ⟨rfl, rfl⟩
  · split
    · split
      · exact Or.inl ⟨rfl, rfl⟩
      · split <;> exact Or.inl ⟨rfl, rfl⟩
    · exact Or.inl ⟨rfl, rfl⟩

omit [Slave S] in
theorem replied_leads {request : Request S} {read : RouterClient.Received Buf} (h : s.replied read request = some t) :
    (request.turnout read).Leads s.bridge t.bridge := by
  cases read with
  | oversized =>
    cases h
    exact Or.inl ⟨rfl, rfl⟩
  | _ =>
    obtain ⟨b, hreply, rfl⟩ := Option.map_eq_some_iff.mp h
    exact request_leads hreply

omit [Slave S] in
theorem turned_leads {loop : StartLoop} {read : RouterClient.Received Buf} (h : s.turned read loop = some t) :
    (loop.turnout read).Leads s.bridge t.bridge := by
  cases read with
  | oversized =>
    cases h
    exact Or.inl ⟨rfl, rfl⟩
  | _ =>
    obtain ⟨⟨b, res⟩, hreply, rfl⟩ := Option.map_eq_some_iff.mp h
    have hbridge : (s.listed (b, res)).bridge = b := by
      cases res with
      | again loop => rfl
      | returned st =>
        unfold listed
        simp only
        split
        · rfl
        · split <;> rfl
    rw [hbridge]
    exact loop_leads hreply

theorem step_leads (h : s.step e = some t) : (s.turnout e).Leads s.bridge t.bridge := by
  unfold step at h
  split at h
  · cases h
  cases e with
  | call request socket =>
    simp only [act] at h
    split at h <;> cases h
    exact call_leads request socket
  | dialled connect =>
    simp only [act] at h
    split at h <;> cases h
    cases connect with
    | error err => exact ⟨rfl, rfl⟩
    | ok _ => exact Or.inl ⟨rfl, rfl⟩
  | written write =>
    simp only [act] at h
    split at h <;> cases h
    cases write with
    | error err => exact ⟨rfl, rfl⟩
    | ok _ => exact Or.inl ⟨rfl, rfl⟩
  | replied read =>
    simp only [act] at h
    split at h
    · rename_i request hmain
      simp only [turnout, hmain]
      exact replied_leads h
    · rename_i loop hmain
      simp only [turnout, hmain]
      exact turned_leads h
    · cases h
  | start =>
    simp only [act] at h
    split at h <;> cases h
    exact Or.inl ⟨rfl, rfl⟩
  | turn =>
    simp only [act] at h
    split at h <;> cases h
    rename_i loop hmain
    simp only [turnout, hmain]
    unfold turn
    by_cases hstate : s.bridge.client.state = loop.required
    · rw [if_pos hstate, if_neg (not_not.mpr hstate)]
      exact Or.inl ⟨rfl, rfl⟩
    · rw [if_neg hstate, if_pos hstate]
      exact ⟨rfl, rfl⟩
  | waitForCompletion =>
    simp only [act] at h
    split at h
    · obtain ⟨⟨l, st⟩, hwait, rfl⟩ := Option.map_eq_some_iff.mp h
      rcases Lifecycle.waitForCompletion_cases hwait with ⟨-, rfl⟩ | ⟨-, -, -, -, rfl⟩ <;> exact Or.inl ⟨rfl, rfl⟩
    · cases h
  | disconnect =>
    simp only [act] at h
    split at h <;> cases h
    exact ⟨rfl, rfl⟩
  | receive =>
    simp only [act] at h
    split at h <;> cases h
    unfold receive
    split
    · rename_i hstate
      have hrefused : s.bridge.client.receiveTransaction (.error "" : RouterClient.Received Buf) =
          some (s.bridge.client, none, ⟨1, "The client needs be started befor receiving transactions"⟩) := if_pos hstate
      simp only [Bridge.readerReceive, hrefused]
      obtain ⟨hclient, hinfo⟩ := readerReturn_connection (b := s.bridge) (s.bridge.client, none,
        ⟨1, "The client needs be started befor receiving transactions"⟩)
      exact Or.inl ⟨congrArg _ hclient, hinfo⟩
    · exact Or.inl ⟨rfl, rfl⟩
  | received read =>
    simp only [act] at h
    split at h <;> cases h
    exact reader_leads read
  | send =>
    simp only [act] at h
    split at h
    · rename_i out hw
      split at h <;> cases h
      unfold send
      split
      · exact refused_leads ‹_› out _
      · exact Or.inl ⟨rfl, rfl⟩
    · cases h
  | sent write =>
    simp only [act] at h
    split at h
    · rename_i out hw
      split at h <;> cases h
      cases write with
      | error err => exact unwritten_leads out err
      | ok _ =>
        simp only [turnout, hw, Option.some.injEq, WriterThread.sending.injEq]
        exact written_leads out
    · cases h
  | thread e =>
    simp only [act] at h
    split at h
    · cases h
    · rename_i hsocket
      obtain ⟨b, hb, rfl⟩ := Option.map_eq_some_iff.mp h
      have hsteps := Bridge.steps_of_step hb
      have hnone : s.bridge.clientOp e = none := by
        cases e with
        | receive read => exact absurd rfl hsocket
        | sent write => exact absurd rfl hsocket
        | _ => rfl
      have hclient : b.client = s.bridge.client := by rw [hsteps.client, hnone]; rfl
      exact Or.inl ⟨congrArg _ hclient, hsteps.routerInfo⟩

theorem present_step_iff (hp : s.bridge.Present) (h : s.step e = some t) : t.bridge.Present ↔ ¬s.Parts e := by
  have hleads := step_leads h
  unfold Parts Bridge.Present Bridge.getRouterInfo at *
  cases hturnout : s.turnout e with
  | dropped =>
    obtain ⟨hclient, hinfo⟩ := hturnout ▸ hleads
    rw [hclient, hinfo, hp]
    by_cases hsock : s.bridge.client.sock = -1
    · rw [show s.bridge.client.disconnect = s.bridge.client from if_pos hsock]
      simp [hsock]
    · simp [RouterClient.disconnect_of_open hsock, hsock]
  | advanced =>
    obtain ⟨hstate, hinfo⟩ := hturnout ▸ hleads
    rw [hinfo, hp]
    simp [hstate]
  | reset =>
    obtain ⟨hclient, hinfo⟩ := hturnout ▸ hleads
    rw [hclient, hinfo]
    by_cases hsock : s.bridge.client.sock = -1
    · rw [show s.bridge.client.disconnect = s.bridge.client from if_pos hsock]
      simp [hsock]
    · simp [RouterClient.disconnect_of_open hsock, hsock]
  | kept =>
    rcases hturnout ▸ hleads with ⟨hstate, hinfo⟩ | ⟨hstate, hinfo⟩
    · simp [hinfo, hstate, hp]
    · simp [hinfo, hstate]

/-- In every state of a run, of the program's calls and of what the threads do in between, the bridge has the
    information about a router exactly while it is connected to one, if and only if no step parts the two. -/
theorem present_iff_everyStep (es : List (Event S Buf)) :
    EveryState step (fun s => s.bridge.Present) ({} : Interleaved S) es ↔ EveryStep step (fun s e => ¬s.Parts e) {} es :=
  everyState_iff_everyStep (I := fun _ => True) (E := fun _ => True) (fun _ _ _ _ _ _ => trivial)
    (fun _ _ _ _ _ hp h => present_step_iff hp h) trivial (by simp [Bridge.Present, Bridge.getRouterInfo])
    (fun _ _ => trivial)

/-- The router does not let a master in: the call has returned, the connection is gone, and what was known of the
    router stays. -/
theorem not_present_refused : ∃ t, run step {} ([
    .call (.connect "unix:///tmp/sw-axi") (.ok 3), .dialled (.ok ()), .written (.ok ()),
    .replied (.ok (RouterClient.systemInfoMessage { name := "router" })),
    .call (.registerMaster "dma") (.error ""), .written (.ok ()),
    .replied (.ok { type := some .error, errorMessage := some "refused" })] : List (Event Ram Wire.Message)) = some t ∧
    t.main.isNone = true ∧ ¬t.bridge.Present := by
  refine ⟨_, rfl, rfl, fun h => ?_⟩
  exact absurd (h.mp rfl) (by decide)

end Interleaved

end SwAxi
