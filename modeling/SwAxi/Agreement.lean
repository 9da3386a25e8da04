import SwAxi.Exchanges
import SwAxi.Owners

/-! Agreement of the handshake: the messages of the router and the calls of each client stay in step, so that
all clients end up with the same lists. -/

namespace SwAxi
open Wire (Flatbuffers)
open Wire.Flatbuffers (getRoot)
open Transition

/-! ### Where `Run` is for a client -/

namespace Stage
variable {Buf : Type}

/-- `Run` has not taken the `SYSTEM_INFO` of client `i`, and may never do. -/
def Before (i : Nat) : Stage Buf → Prop
  | .hello k => k ≤ i
  | .register k => k < i
  | .failed => True
  | _ => False

/-- `Run` has taken the `COMMIT` of client `i`, but not that of every client, and may never do. -/
def Between (i : Nat) : Stage Buf → Prop
  | .hello k => i < k
  | .register k => i < k
  | .failed => True
  | _ => False

/-- `Run` has taken every `COMMIT`. -/
def Committing : Stage Buf → Prop
  | .commit _ _ | .serve => True
  | _ => False

end Stage

/-- What the commits of `Run` are still to write to client `i`. -/
def RouterRun.unwritten {Buf : Type} [Flatbuffers Buf] (r : RouterRun Buf) (i : Nat) : List Buf :=
  match r.stage with
  | .commit k rest => if i < k then [] else if i = k then rest else Client.commitMessages r.clInfo r.router.ips
  | _ => []

/-! ### A client and the stream of its commit -/

namespace Party
variable {S Buf : Type} {p : Party S Buf}

theorem calls_true {calling : Calling S} {msgArr : Buf} :
    p.calls true calling msgArr = ({ p with calling }, [msgArr]) := rfl

theorem calls_false {calling : Calling S} {msgArr : Buf} :
    p.calls false calling msgArr = ({ p with calling := .failed }, []) := rfl

end Party

section
variable {S Buf : Type} [Flatbuffers Buf]

/-- The bridge has taken nothing of the lists. -/
structure Party.Blank (p : Party S Buf) : Prop where
  peers : p.bridge.peers = []
  ipBlocks : p.bridge.ipBlocks = []
  peerLog : p.peerLog = []
  ipLog : p.ipLog = []

/-- The client is in step with what is left of the messages of its commit. -/
inductive Party.Stream (infos : List SystemInfo) (ips : List IpInfo) (p : Party S Buf) (left : List Buf) : Prop where
  | commitIp (calling : p.calling = .commitIp true) (state : p.bridge.client.state = .connected) (blank : p.Blank)
      (hleft : left = Client.commitMessages infos ips)
  | peers (todo : List SystemInfo) (calling : p.calling = .start .peers) (state : p.bridge.client.state = .committed)
      (peers : p.bridge.peers ++ todo = infos) (ipBlocks : p.bridge.ipBlocks = [])
      (peerLog : p.peerLog = p.bridge.peers.map RouterClient.systemInfoMessage) (ipLog : p.ipLog = [])
      (hleft : left = todo.map RouterClient.systemInfoMessage ++
        Client.ackMessage :: (ips.map Client.ipMessage ++ [Client.ackMessage]))
  | ips (taken todo : List IpInfo) (calling : p.calling = .start .ips)
      (state : p.bridge.client.state = .peerInfoReceived) (peers : p.bridge.peers = infos)
      (peerLog : p.peerLog = infos.map RouterClient.systemInfoMessage ++ [Client.ackMessage])
      (hips : taken ++ todo = ips) (ipBlocks : p.bridge.ipBlocks = taken.map IpInfo.config)
      (ipLog : p.ipLog = taken.map Client.ipMessage)
      (hleft : left = todo.map Client.ipMessage ++ [Client.ackMessage])
  | started (calling : p.calling = .started) (state : p.bridge.client.state = .started)
      (peers : p.bridge.peers = infos)
      (peerLog : p.peerLog = infos.map RouterClient.systemInfoMessage ++ [Client.ackMessage])
      (ipBlocks : p.bridge.ipBlocks = ips.map IpInfo.config)
      (ipLog : p.ipLog = ips.map Client.ipMessage ++ [Client.ackMessage]) (hleft : left = [])

namespace Party
variable {p p' : Party S Buf} {infos : List SystemInfo} {ips : List IpInfo} {msgArr : Buf} {left : List Buf}

/-- The next message of the stream is the one that the client's call expects. -/
theorem Stream.reply (h : Stream infos ips p (msgArr :: left)) (hr : p.reply msgArr = some p') :
    Stream infos ips p' left ∧ p'.info = p.info ∧ p'.registered = p.registered := by
  cases h with
  | commitIp calling state blank hleft =>
    obtain ⟨rfl, rfl⟩ := List.cons.inj hleft
    simp only [Party.reply, calling, Bridge.commitIp_ack state, returns, Option.some.injEq] at hr
    subst hr
    refine ⟨.peers infos rfl rfl ?_ blank.ipBlocks ?_ blank.ipLog rfl, rfl, rfl⟩
    · simp [blank.peers]
    · simp [blank.peers, blank.peerLog]
  | peers todo calling state peers ipBlocks peerLog ipLog hleft =>
    cases todo with
    | nil =>
      obtain ⟨rfl, rfl⟩ := List.cons.inj hleft
      simp only [Party.reply, calling, Bridge.startTurn_peers_ack state, Option.some.injEq] at hr
      subst hr
      rw [List.append_nil] at peers
      refine ⟨.ips [] ips rfl rfl peers ?_ rfl ipBlocks ipLog rfl, rfl, rfl⟩
      simp [peerLog, peers]
    | cons si todo =>
      obtain ⟨rfl, rfl⟩ := List.cons.inj hleft
      simp only [Party.reply, calling, Bridge.startTurn_systemInfo state, Option.some.injEq] at hr
      subst hr
      refine ⟨.peers todo rfl state ?_ ipBlocks ?_ ipLog rfl, rfl, rfl⟩
      · simp [← peers]
      · simp [peerLog]
  | ips taken todo calling state peers peerLog hips ipBlocks ipLog hleft =>
    cases todo with
    | nil =>
      obtain ⟨rfl, rfl⟩ := List.cons.inj hleft
      simp only [Party.reply, calling, Bridge.startTurn_ips_ack state, Option.some.injEq] at hr
      subst hr
      rw [List.append_nil] at hips
      exact ⟨.started rfl rfl peers peerLog (by rw [ipBlocks, hips]) (by simp [ipLog, hips]) rfl, rfl, rfl⟩
    | cons ip todo =>
      obtain ⟨rfl, rfl⟩ := List.cons.inj hleft
      simp only [Party.reply, calling, Bridge.startTurn_ipInfo state, Option.some.injEq] at hr
      subst hr
      refine ⟨.ips (taken ++ [ip]) todo rfl state peers peerLog ?_ ?_ ?_ rfl, rfl, rfl⟩
      · simp [← hips]
      · simp [ipBlocks]
      · simp [ipLog]
  | started calling state peers peerLog ipBlocks ipLog hleft => cases hleft

/-- What the messages of the stream leave alone. -/
theorem Stream.reply_inv (h : Stream infos ips p (msgArr :: left)) (hr : p.reply msgArr = some p') :
    ∃ state peers ipBlocks readerThread writerThread calling peerLog ipLog,
      p' = { p with
        bridge := { p.bridge with
          client := { p.bridge.client with state }, peers, ipBlocks, readerThread, writerThread }
        calling, peerLog, ipLog } ∧
      (getRoot msgArr).getType ≠ .ipAck ∧ (getRoot msgArr).getType ≠ .error ∧ p.bridge.client.state ≠ .disconnected ∧
      (p.calling = .commitIp true ∨ ∃ loop, p.calling = .start loop) ∧
      ((∃ loop, calling = .start loop) ∨
        (calling = .started ∧ readerThread = some .receiving ∧ writerThread = some .popping)) := by
  cases h with
  | commitIp calling state blank hleft =>
    obtain ⟨rfl, rfl⟩ := List.cons.inj hleft
    simp only [Party.reply, calling, Bridge.commitIp_ack state, returns, Option.some.injEq] at hr
    subst hr
    exact ⟨_, _, _, _, _, _, _, _, rfl, by simp [getType_ackMessage], by simp [getType_ackMessage], by simp [state],
      Or.inl calling, Or.inl ⟨_, rfl⟩⟩
  | peers todo calling state peers ipBlocks peerLog ipLog hleft =>
    cases todo with
    | nil =>
      obtain ⟨rfl, rfl⟩ := List.cons.inj hleft
      simp only [Party.reply, calling, Bridge.startTurn_peers_ack state, Option.some.injEq] at hr
      subst hr
      exact ⟨_, _, _, _, _, _, _, _, rfl, by simp [getType_ackMessage], by simp [getType_ackMessage], by simp [state],
        Or.inr ⟨_, calling⟩, Or.inl ⟨_, rfl⟩⟩
    | cons si todo =>
      obtain ⟨rfl, rfl⟩ := List.cons.inj hleft
      simp only [Party.reply, calling, Bridge.startTurn_systemInfo state, Option.some.injEq] at hr
      subst hr
      exact ⟨_, _, _, _, _, _, _, _, rfl, by simp [getType_systemInfoMessage], by simp [getType_systemInfoMessage],
        by simp [state], Or.inr ⟨_, calling⟩, Or.inl ⟨_, rfl⟩⟩
  | ips taken todo calling state peers peerLog hips ipBlocks ipLog hleft =>
    cases todo with
    | nil =>
      obtain ⟨rfl, rfl⟩ := List.cons.inj hleft
      simp only [Party.reply, calling, Bridge.startTurn_ips_ack state, Option.some.injEq] at hr
      subst hr
      exact ⟨_, _, _, _, _, _, _, _, rfl, by simp [getType_ackMessage], by simp [getType_ackMessage], by simp [state],
        Or.inr ⟨_, calling⟩, Or.inr ⟨rfl, rfl, rfl⟩⟩
    | cons ip todo =>
      obtain ⟨rfl, rfl⟩ := List.cons.inj hleft
      simp only [Party.reply, calling, Bridge.startTurn_ipInfo state, Option.some.injEq] at hr
      subst hr
      exact ⟨_, _, _, _, _, _, _, _, rfl, by simp [getType_ipMessage], by simp [getType_ipMessage], by simp [state],
        Or.inr ⟨_, calling⟩, Or.inl ⟨_, rfl⟩⟩
  | started calling state peers peerLog ipBlocks ipLog hleft => cases hleft

end Party

/-! ### A client and the router -/

/-- The client and the router agree on where they are; `up` and `down` is what is in the client's socket to
    the router and back. -/
inductive Party.Phase (r : RouterRun Buf) (i : Nat) (p : Party S Buf) (up down : List Buf) : Prop where
  | connects (calling : p.calling = .connect false) (blank : p.Blank) (stage : r.stage.Before i)
      (hup : up = []) (hdown : down = [])
  | greets (calling : p.calling = .connect true) (state : p.bridge.client.state = .disconnected)
      (uri : ¬(p.uri.length < 8 ∨ RouterClient.startsWith p.uri RouterClient.unixPrefix = false)) (blank : p.Blank)
      (stage : r.stage.Before i) (hup : up = [RouterClient.systemInfoMessage p.info]) (hdown : down = [])
  | greeted (calling : p.calling = .connect true) (state : p.bridge.client.state = .disconnected)
      (uri : ¬(p.uri.length < 8 ∨ RouterClient.startsWith p.uri RouterClient.unixPrefix = false)) (blank : p.Blank)
      (stage : r.stage = .register i) (hup : up = []) (hdown : down = [RouterClient.systemInfoMessage r.host])
  | idle (rest : List (Registration S)) (calling : p.calling = nextCall rest)
      (state : p.bridge.client.state = .connected) (blank : p.Blank)
      (stage : r.stage = .register i) (hup : up = []) (hdown : down = [])
  | registers (reg : Registration S) (rest : List (Registration S)) (calling : p.calling = .register reg rest true)
      (state : p.bridge.client.state = .connected) (blank : p.Blank) (stage : r.stage = .register i)
      (hup : up = [RouterClient.ipInfoMessage reg.config]) (hdown : down = [])
  | acked (reg : Registration S) (rest : List (Registration S)) (id : UInt64)
      (calling : p.calling = .register reg rest true) (state : p.bridge.client.state = .connected) (blank : p.Blank)
      (stage : r.stage = .register i) (hup : up = []) (hdown : down = [Client.ackIpInfoMessage id])
      (stored : ∃ ip, r.router.ips[id.toNat]? = some ip ∧ ip.config = reg.config.registered)
  | refused (reg : Registration S) (rest : List (Registration S)) (err : String)
      (calling : p.calling = .register reg rest true) (state : p.bridge.client.state = .connected)
      (stage : r.stage = .register i) (hup : up = []) (hdown : down = [createErrorMessage err])
  | unanswered (reg : Registration S) (rest : List (Registration S)) (calling : p.calling = .register reg rest true)
      (stage : r.stage = .failed) (hup : up = []) (hdown : down = [])
  | commits (calling : p.calling = .commitIp true) (state : p.bridge.client.state = .connected) (blank : p.Blank)
      (stage : r.stage = .register i) (hup : up = [RouterClient.commitMessage]) (hdown : down = [])
  | committed (calling : p.calling = .commitIp true) (state : p.bridge.client.state = .connected) (blank : p.Blank)
      (stage : r.stage.Between i) (hup : up = []) (hdown : down = [])
  | streams (stage : r.stage.Committing) (hup : up = []) (stream : p.Stream r.clInfo r.router.ips (down ++ r.unwritten i))
  | failed (calling : p.calling = .failed) (hup : up = [])

/-- What a client makes of a message that it reads; `down` is what is left in its socket. -/
inductive Party.Takes (r : RouterRun Buf) (i : Nat) (p : Party S Buf) (up down : List Buf) : Buf → Party S Buf → Prop where
  | greeted (calling : p.calling = .connect true) (blank : p.Blank) (stage : r.stage = .register i) (hup : up = [])
      (hdown : down = []) :
      Takes r i p up down (RouterClient.systemInfoMessage r.host)
        { p with
          bridge := { p.bridge with
            client := { state := .connected, connectedUri := p.uri, sock := p.sock }, routerInfo := some r.host }
          calling := nextCall p.regs }
  | acked (reg : Registration S) (rest : List (Registration S)) (id : UInt64) (b : Bridge S)
      (calling : p.calling = .register reg rest true) (state : p.bridge.client.state = .connected) (blank : p.Blank)
      (stage : r.stage = .register i) (hup : up = []) (hdown : down = [])
      (stored : ∃ ip, r.router.ips[id.toNat]? = some ip ∧ ip.config = reg.config.registered)
      (hreg : p.register reg (Client.ackIpInfoMessage id : Buf) = some (b, {}))
      (hkept : b.client = p.bridge.client ∧ b.peers = p.bridge.peers ∧ b.ipBlocks = p.bridge.ipBlocks) :
      Takes r i p up down (Client.ackIpInfoMessage id)
        { p with bridge := b, calling := nextCall rest, registered := p.registered ++ [(id, reg.config)] }
  | refused (reg : Registration S) (rest : List (Registration S)) (err : String)
      (calling : p.calling = .register reg rest true) (state : p.bridge.client.state = .connected)
      (stage : r.stage = .register i) (hup : up = []) (hdown : down = []) :
      Takes r i p up down (createErrorMessage err)
        { p with bridge := { p.bridge with client := p.bridge.client.disconnect }, calling := .failed }
  | streams (msgArr : Buf) (p' : Party S Buf) (stage : r.stage.Committing) (hup : up = [])
      (stream : p.Stream r.clInfo r.router.ips (msgArr :: (down ++ r.unwritten i))) (hr : p.reply msgArr = some p') :
      Takes r i p up down msgArr p'

namespace Party
variable {p p' : Party S Buf} {r r' : RouterRun Buf} {i : Nat} {up down out : List Buf}

/-- Only two phases have the user call. -/
theorem Phase.calls (h : Phase r i p up down) (hc : p.call = some (p', out)) : p.Blank ∧ up = [] ∧ down = [] ∧
    ((p.calling = .connect false ∧ r.stage.Before i) ∨
      ∃ rest, p.calling = nextCall rest ∧ p.bridge.client.state = .connected ∧ r.stage = .register i) := by
  cases h with
  | connects calling blank stage hup hdown => exact ⟨blank, hup, hdown, Or.inl ⟨calling, stage⟩⟩
  | idle rest calling state blank stage hup hdown => exact ⟨blank, hup, hdown, Or.inr ⟨rest, calling, state, stage⟩⟩
  | streams stage hup stream =>
    cases stream with
    | commitIp calling => simp [Party.call, calling] at hc
    | peers todo calling => simp [Party.call, calling] at hc
    | ips taken todo calling => simp [Party.call, calling] at hc
    | started calling => simp [Party.call, calling] at hc
  | greets calling => simp [Party.call, calling] at hc
  | greeted calling => simp [Party.call, calling] at hc
  | registers reg rest calling => simp [Party.call, calling] at hc
  | acked reg rest id calling => simp [Party.call, calling] at hc
  | refused reg rest err calling => simp [Party.call, calling] at hc
  | unanswered reg rest calling => simp [Party.call, calling] at hc
  | commits calling => simp [Party.call, calling] at hc
  | committed calling => simp [Party.call, calling] at hc
  | failed calling => simp [Party.call, calling] at hc

theorem Phase.call (h : Phase r i p up down) (hc : p.call = some (p', out)) :
    Phase r i p' (up ++ out) down ∧ p'.info = p.info ∧ p'.registered = p.registered := by
  obtain ⟨blank, rfl, hdown, ⟨calling, stage⟩ | ⟨rest, calling, state, stage⟩⟩ := h.calls hc
  · by_cases hready : p.bridge.client.state = .disconnected ∧
        ¬(p.uri.length < 8 ∨ RouterClient.startsWith p.uri RouterClient.unixPrefix = false)
    · simp only [Party.call, calling, hready, not_false_eq_true, and_self, decide_true, calls_true, Option.some.injEq,
        Prod.mk.injEq] at hc
      obtain ⟨rfl, rfl⟩ := hc
      exact ⟨.greets rfl hready.1 hready.2 ⟨blank.1, blank.2, blank.3, blank.4⟩ stage rfl hdown, rfl, rfl⟩
    · simp only [Party.call, calling, hready, decide_false, calls_false, Option.some.injEq, Prod.mk.injEq] at hc
      obtain ⟨rfl, rfl⟩ := hc
      exact ⟨.failed rfl rfl, rfl, rfl⟩
  · cases rest with
    | nil =>
      simp only [Party.call, calling, nextCall, state, decide_true, calls_true, Option.some.injEq, Prod.mk.injEq] at hc
      obtain ⟨rfl, rfl⟩ := hc
      exact ⟨.commits rfl state ⟨blank.1, blank.2, blank.3, blank.4⟩ stage rfl hdown, rfl, rfl⟩
    | cons reg rest =>
      simp only [Party.call, calling, nextCall, state, decide_true, calls_true, Option.some.injEq, Prod.mk.injEq] at hc
      obtain ⟨rfl, rfl⟩ := hc
      exact ⟨.registers reg rest rfl state ⟨blank.1, blank.2, blank.3, blank.4⟩ stage rfl hdown, rfl, rfl⟩

/-- Only four phases have a message for the client. -/
theorem Phase.takes {msgArr : Buf} (h : Phase r i p up (msgArr :: down)) (hr : p.reply msgArr = some p') :
    Takes r i p up down msgArr p' := by
  cases h with
  | connects calling blank stage hup hdown => cases hdown
  | greets calling state uri blank stage hup hdown => cases hdown
  | idle rest calling state blank stage hup hdown => cases hdown
  | registers reg rest calling state blank stage hup hdown => cases hdown
  | unanswered reg rest calling stage hup hdown => cases hdown
  | commits calling state blank stage hup hdown => cases hdown
  | committed calling state blank stage hup hdown => cases hdown
  | failed calling hup => simp [Party.reply, calling] at hr
  | greeted calling state uri blank stage hup hdown =>
    obtain ⟨rfl, rfl⟩ := List.cons.inj hdown
    simp only [Party.reply, calling, Bridge.connect_systemInfo state uri, returns, Option.some.injEq] at hr
    subst hr
    exact .greeted calling blank stage hup rfl
  | acked reg rest id calling state blank stage hup hdown stored =>
    obtain ⟨rfl, rfl⟩ := List.cons.inj hdown
    obtain ⟨b, hreg, hkept⟩ := register_ack reg id state
    simp only [Party.reply, calling, hreg, returns, getType_ackIpInfoMessage, getIpId_ackIpInfoMessage, if_true,
      Option.some.injEq] at hr
    subst hr
    exact .acked reg rest id b calling state blank stage hup rfl stored hreg hkept
  | refused reg rest err calling state stage hup hdown =>
    obtain ⟨rfl, rfl⟩ := List.cons.inj hdown
    obtain ⟨st, hreg, hst⟩ := register_refused reg err state
    simp only [Party.reply, calling, hreg, returns, getType_createErrorMessage, hst, if_true, reduceCtorEq, if_false,
      Option.some.injEq] at hr
    subst hr
    exact .refused reg rest err calling state stage hup rfl
  | streams stage hup stream => exact .streams msgArr p' stage hup stream hr

/-- A client that reads goes on with its calls; an id that it gets is that of a block stored for it. -/
theorem Phase.reply {msgArr : Buf} (h : Phase r i p up (msgArr :: down)) (hr : p.reply msgArr = some p') :
    Phase r i p' up down ∧ p'.info = p.info ∧
      ∀ x ∈ p'.registered, x ∈ p.registered ∨
        ∃ ip, r.router.ips[x.1.toNat]? = some ip ∧ ip.config = x.2.registered := by
  cases h.takes hr with
  | greeted calling blank stage hup hdown =>
    exact ⟨.idle p.regs rfl rfl ⟨blank.1, blank.2, blank.3, blank.4⟩ stage hup hdown, rfl, fun x hx => Or.inl hx⟩
  | acked reg rest id b calling state blank stage hup hdown stored hreg hkept =>
    obtain ⟨hclient, hpeers, hblocks⟩ := hkept
    refine ⟨.idle rest rfl (by rw [← state, ← hclient]) ⟨?_, ?_, blank.3, blank.4⟩ stage hup hdown, rfl, ?_⟩
    · exact hpeers.trans blank.peers
    · exact hblocks.trans blank.ipBlocks
    · intro x hx
      rcases List.mem_append.mp hx with hx | hx
      · exact Or.inl hx
      · rw [List.mem_singleton.mp hx]
        exact Or.inr stored
  | refused reg rest err calling state stage hup hdown => exact ⟨.failed rfl hup, rfl, fun x hx => Or.inl hx⟩
  | streams msgArr p' stage hup stream hr =>
    obtain ⟨hstream, hinfo, hreg⟩ := stream.reply hr
    exact ⟨.streams stage hup hstream, hinfo, fun x hx => Or.inl (hreg ▸ hx)⟩

/-- A message that `Run` takes from another client moves this one on only when it was the last `COMMIT`. -/
theorem Phase.received (h : Phase r i p up down) (hne : r.stage ≠ .register i) (hnot : ¬r.stage.Committing)
    (hfail : r.stage ≠ .failed) (hbefore : r.stage.Before i → r'.stage.Before i)
    (hbetween : r.stage.Between i → r'.stage.Between i ∨
      r'.stage.Committing ∧ r'.unwritten i = Client.commitMessages r'.clInfo r'.router.ips) :
    Phase r' i p up down := by
  cases h with
  | connects calling blank stage hup hdown => exact .connects calling blank (hbefore stage) hup hdown
  | greets calling state uri blank stage hup hdown => exact .greets calling state uri blank (hbefore stage) hup hdown
  | committed calling state blank stage hup hdown =>
    rcases hbetween stage with stage | ⟨stage, hmsgs⟩
    · exact .committed calling state blank stage hup hdown
    · exact .streams stage hup (.commitIp calling state blank (by rw [hdown, List.nil_append, hmsgs]))
  | failed calling hup => exact .failed calling hup
  | streams stage hup stream => exact absurd stage hnot
  | unanswered reg rest calling stage hup hdown => exact absurd stage hfail
  | greeted calling state uri blank stage hup hdown => exact absurd stage hne
  | idle rest calling state blank stage hup hdown => exact absurd stage hne
  | registers reg rest calling state blank stage hup hdown => exact absurd stage hne
  | acked reg rest id calling state blank stage hup hdown stored => exact absurd stage hne
  | refused reg rest err calling state stage hup hdown => exact absurd stage hne
  | commits calling state blank stage hup hdown => exact absurd stage hne

/-- The same while `Run` registers the blocks of client `k`. -/
theorem Phase.received_other {k : Nat} (h : Phase r i p up down) (hstage : r.stage = .register k) (hik : i ≠ k)
    (hafter : k < i → r'.stage.Before i)
    (hpast : i < k → r'.stage.Between i ∨
      r'.stage.Committing ∧ r'.unwritten i = Client.commitMessages r'.clInfo r'.router.ips) :
    Phase r' i p up down := by
  refine h.received ?_ ?_ ?_ (fun hb => hafter ?_) (fun hb => hpast ?_)
  · simpa [hstage] using Ne.symm hik
  · simp [hstage, Stage.Committing]
  · simp [hstage]
  · simpa [hstage, Stage.Before] using hb
  · simpa [hstage, Stage.Between] using hb

/-- A message that `Run` writes goes from what is still to be written to the socket. -/
theorem Phase.written {down' : List Buf} (h : Phase r i p up down) (hstage : r.stage.Committing)
    (hstage' : r'.stage.Committing) (hinfos : r'.clInfo = r.clInfo) (hips : r'.router.ips = r.router.ips)
    (hleft : down' ++ r'.unwritten i = down ++ r.unwritten i) : Phase r' i p up down' := by
  have hno : ∀ {stage : Stage Buf}, ¬stage.Committing → r.stage ≠ stage := fun hn heq => hn (heq ▸ hstage)
  cases h with
  | streams stage hup stream => exact .streams hstage' hup (by rw [hinfos, hips, hleft]; exact stream)
  | failed calling hup => exact .failed calling hup
  | connects calling blank stage =>
    cases hs : r.stage <;> simp [hs, Stage.Committing, Stage.Before] at hstage stage
  | greets calling state uri blank stage =>
    cases hs : r.stage <;> simp [hs, Stage.Committing, Stage.Before] at hstage stage
  | committed calling state blank stage =>
    cases hs : r.stage <;> simp [hs, Stage.Committing, Stage.Between] at hstage stage
  | unanswered reg rest calling stage => exact absurd stage (hno id)
  | greeted calling state uri blank stage => exact absurd stage (hno id)
  | idle rest calling state blank stage => exact absurd stage (hno id)
  | registers reg rest calling state blank stage => exact absurd stage (hno id)
  | acked reg rest id' calling state blank stage => exact absurd stage (hno id)
  | refused reg rest err calling state stage => exact absurd stage (hno id)
  | commits calling state blank stage => exact absurd stage (hno id)

end Party

end

/-! ### The invariant of the handshake -/

namespace RouterRun
variable {Buf : Type} [Flatbuffers Buf] {r r' : RouterRun Buf} {infos : List SystemInfo} {i : Nat} {out : List Buf}

/-- What `Run` has collected of the clients' infos when it is where it is. -/
def Collected (infos : List SystemInfo) (r : RouterRun Buf) : Prop :=
  match r.stage with
  | .hello k => k < r.router.clients.length ∧ r.clInfo = infos.take k
  | .register k => r.clInfo = infos.take k ∧ ∃ c, r.router.clients[k]? = some c ∧ infos[k]? = some c.systemInfo
  | .commit k rest => k < r.router.clients.length ∧ rest ≠ [] ∧ r.clInfo = infos
  | .serve => r.clInfo = infos
  | .routed => False
  | .failed => True

theorem receive_systemInfo {c : Client} (si : SystemInfo) (hstage : r.stage = .hello i)
    (hc : r.router.clients[i]? = some c) : r.receive (RouterClient.systemInfoMessage si) =
      some ({ r with
        router := { r.router with clients := r.router.clients.set i { c with systemInfo := si } }
        stage := .register i }, [RouterClient.systemInfoMessage r.host]) := by
  simp [receive, hstage, receiveHello, hc, shakeHands_systemInfoMessage]

theorem receive_commit {c : Client} (hstage : r.stage = .register i) (hc : r.router.clients[i]? = some c) :
    r.receive (RouterClient.commitMessage : Buf) =
      some ({ r with
        clInfo := r.clInfo ++ [c.systemInfo]
        stage := if i + 1 < r.router.clients.length then .hello (i + 1)
          else commitStage { r with clInfo := r.clInfo ++ [c.systemInfo] } 0 }, []) := by
  simp [receive, hstage, receiveIp, hc, receiveIpInfo_commitMessage]

theorem receive_ipInfo {c : Client} (config : IpConfig) (hstage : r.stage = .register i)
    (hc : r.router.clients[i]? = some c) :
    r.receive (RouterClient.ipInfoMessage config : Buf) = some (r.registerIp i (receivedIp config c.id)) := by
  simp [receive, hstage, receiveIp, hc, receiveIpInfo_ipInfoMessage]

/-- The three outcomes of a registration. -/
theorem registerIp_cases (hk : r.router.Kept) (ip : IpInfo) :
    (r.registerIp i ip = ({ r with stage := .failed }, [])) ∨
    (∃ err, r.registerIp i ip = ({ r with router := r.router.countMaster ip }, [createErrorMessage err])) ∨
    (∃ id, r.registerIp i ip =
        ({ r with router := (r.router.countMaster ip).store ip, arrived := r.arrived ++ [i] },
          [Client.ackIpInfoMessage id]) ∧ id.toNat = r.router.ips.length) := by
  unfold registerIp
  split
  · exact Or.inl rfl
  · rename_i router err hreg
    rcases Router.registerIp_inv hreg with ⟨b, -, -, rfl, -⟩ | ⟨-, -, -, -, hres⟩
    · exact Or.inr (Or.inl ⟨err, rfl⟩)
    · cases hres
  · rename_i router id hreg
    rcases Router.registerIp_inv hreg with ⟨b, -, -, -, hres⟩ | ⟨-, -, -, rfl, hres⟩
    · cases hres
    · cases hres
      exact Or.inr (Or.inr ⟨_, rfl, hk.count⟩)

end RouterRun

namespace Handshake
variable {S Buf : Type} [Flatbuffers Buf] {h h' : Handshake S Buf} {infos : List SystemInfo}

structure Inv (infos : List SystemInfo) (h : Handshake S Buf) : Prop where
  sound : h.router.Sound
  length : infos.length = h.router.router.clients.length
  sent : ∀ i < h.router.router.clients.length, infos[i]? = some (h.parties i).info
  collected : h.router.Collected infos
  phases : ∀ i < h.router.router.clients.length,
    (h.parties i).Phase h.router i (h.toRouter i) (h.toClient i)
  registered : ∀ i < h.router.router.clients.length, ∀ x ∈ (h.parties i).registered,
    ∃ ip, h.router.router.ips[x.1.toNat]? = some ip ∧ ip.config = x.2.registered

/-- A client's step keeps the invariant when it keeps the client in phase. -/
theorem Inv.party (hI : h.Inv infos) {i : Nat} {p : Party S Buf} {up down : List Buf}
    (hphase : p.Phase h.router i up down) (hinfo : p.info = (h.parties i).info)
    (hreg : i < h.router.router.clients.length → ∀ x ∈ p.registered,
      ∃ ip, h.router.router.ips[x.1.toNat]? = some ip ∧ ip.config = x.2.registered) :
    Inv infos { h with
      parties := Function.update h.parties i p
      toRouter := Function.update h.toRouter i up
      toClient := Function.update h.toClient i down } where
  sound := hI.sound
  length := hI.length
  sent j hj := by
    by_cases hji : j = i
    · subst hji
      simpa [hinfo] using hI.sent j hj
    · simpa [hji] using hI.sent j hj
  collected := hI.collected
  phases j hj := by
    by_cases hji : j = i
    · subst hji
      simpa using hphase
    · simpa [hji] using hI.phases j hj
  registered j hj := by
    by_cases hji : j = i
    · subst hji
      simpa using hreg hj
    · simpa [hji] using hI.registered j hj

theorem Inv.partyCalls (hI : h.Inv infos) {i : Nat} (hi : i < h.router.router.clients.length)
    (hs : h.partyCalls i = some h') : h'.Inv infos := by
  obtain ⟨⟨p, out⟩, hc, rfl⟩ := Option.map_eq_some_iff.mp hs
  obtain ⟨hphase, hinfo, hreg⟩ := (hI.phases i hi).call hc
  have hI' := hI.party hphase hinfo fun _ => hreg ▸ hI.registered i hi
  rwa [Function.update_eq_self i h.toClient] at hI'

theorem Inv.partyReads (hI : h.Inv infos) {i : Nat} (hi : i < h.router.router.clients.length)
    (hs : h.partyReads i = some h') : h'.Inv infos := by
  unfold Handshake.partyReads at hs
  split at hs
  · cases hs
  · rename_i msgArr rest hdown
    obtain ⟨p, hr, rfl⟩ := Option.map_eq_some_iff.mp hs
    have hphase := hI.phases i hi
    rw [hdown] at hphase
    obtain ⟨hphase, hinfo, hreg⟩ := hphase.reply hr
    have hI' := hI.party hphase hinfo fun _ x hx => (hreg x hx).elim (hI.registered i hi x) id
    rwa [Function.update_eq_self i h.toRouter] at hI'

/-- `Run` goes on with a message of client `i`, its other clients staying where they are. -/
theorem Inv.receives (hI : h.Inv infos) {i : Nat} {r' : RouterRun Buf} {msgArr : Buf} {replies rest : List Buf}
    (hr : h.router.receive msgArr = some (r', replies)) (hlen : r'.router.clients.length = h.router.router.clients.length)
    (hips : h.router.router.ips <+: r'.router.ips) (hcollected : r'.Collected infos)
    (hphase : (h.parties i).Phase r' i rest (h.toClient i ++ replies))
    (hothers : ∀ j < h.router.router.clients.length, j ≠ i →
      (h.parties j).Phase r' j (h.toRouter j) (h.toClient j)) :
    Inv infos { h with
      router := r'
      toRouter := Function.update h.toRouter i rest
      toClient := Function.update h.toClient i (h.toClient i ++ replies) } where
  sound := by
    have hstep : h.router.step (.receive msgArr) = some r' := by simp [RouterRun.step, hr]
    exact hI.sound.step hstep
  length := hI.length.trans hlen.symm
  sent j hj := hI.sent j (hlen ▸ hj)
  collected := hcollected
  phases j hj := by
    by_cases hji : j = i
    · subst hji
      simpa using hphase
    · simpa [hji] using hothers j (hlen ▸ hj) hji
  registered j hj x hx := by
    obtain ⟨ip, hip, hconfig⟩ := hI.registered j (hlen ▸ hj) x hx
    obtain ⟨more, hmore⟩ := hips
    refine ⟨ip, ?_, hconfig⟩
    rw [← hmore, List.getElem?_append_left (List.getElem?_eq_some_iff.mp hip).1]
    exact hip

theorem Inv.hello (hI : h.Inv infos) {i : Nat} (hstage : h.router.stage = .hello i)
    (hdown : h.toClient i = []) {rest : List Buf} (hrest : rest = [])
    (calling : (h.parties i).calling = .connect true) (state : (h.parties i).bridge.client.state = .disconnected)
    (uri : ¬((h.parties i).uri.length < 8 ∨ RouterClient.startsWith (h.parties i).uri RouterClient.unixPrefix = false))
    (blank : (h.parties i).Blank) {r' : RouterRun Buf} {replies : List Buf}
    (hr : h.router.receive (RouterClient.systemInfoMessage (h.parties i).info) = some (r', replies)) :
    Inv infos { h with
      router := r'
      toRouter := Function.update h.toRouter i rest
      toClient := Function.update h.toClient i (h.toClient i ++ replies) } := by
  have hcollected := hI.collected
  simp only [RouterRun.Collected, hstage] at hcollected
  obtain ⟨hi, hinfos⟩ := hcollected
  have hc := List.getElem?_eq_getElem hi
  have heq := RouterRun.receive_systemInfo (h.parties i).info hstage hc
  rw [hr] at heq
  obtain ⟨rfl, rfl⟩ := Prod.mk.inj (Option.some.inj heq)
  refine hI.receives hr (by simp) List.prefix_rfl ?_ ?_ fun j hj hji => ?_
  · exact ⟨hinfos, _, List.getElem?_set_self hi, hI.sent i hi⟩
  · exact .greeted calling state uri blank rfl hrest (by rw [hdown]; rfl)
  · refine (hI.phases j hj).received ?_ ?_ ?_ ?_ ?_
    · simp [hstage]
    · simp [hstage, Stage.Committing]
    · simp [hstage]
    · intro hb
      simp only [hstage, Stage.Before] at hb ⊢
      omega
    · intro hb
      simp only [hstage, Stage.Between] at hb ⊢
      exact Or.inl hb

theorem Inv.register (hI : h.Inv infos) {i : Nat} (hstage : h.router.stage = .register i)
    (hdown : h.toClient i = []) {rest : List Buf} (hrest : rest = []) {reg : Registration S}
    {regs : List (Registration S)} (calling : (h.parties i).calling = .register reg regs true)
    (state : (h.parties i).bridge.client.state = .connected) (blank : (h.parties i).Blank) {r' : RouterRun Buf}
    {replies : List Buf} (hr : h.router.receive (RouterClient.ipInfoMessage reg.config) = some (r', replies)) :
    Inv infos { h with
      router := r'
      toRouter := Function.update h.toRouter i rest
      toClient := Function.update h.toClient i (h.toClient i ++ replies) } := by
  have hcollected := hI.collected
  simp only [RouterRun.Collected, hstage] at hcollected
  obtain ⟨hinfos, c, hc, hsent⟩ := hcollected
  have heq := RouterRun.receive_ipInfo reg.config hstage hc
  rw [hr] at heq
  -- The clients that `Run` is not at stay in phase, where it goes on with this one or fails.
  have hothers : (r'.stage = .register i ∨ r'.stage = .failed) → ∀ j < h.router.router.clients.length, j ≠ i →
      (h.parties j).Phase r' j (h.toRouter j) (h.toClient j) := by
    intro hstage' j hj hji
    refine (hI.phases j hj).received_other hstage hji (fun hb => ?_) (fun hb => Or.inl ?_)
    · rcases hstage' with hstage' | hstage'
      · rw [hstage']
        exact hb
      · rw [hstage']
        trivial
    · rcases hstage' with hstage' | hstage'
      · rw [hstage']
        exact hb
      · rw [hstage']
        trivial
  rcases RouterRun.registerIp_cases (i := i) hI.sound.kept (receivedIp reg.config c.id) with
    hres | ⟨err, hres⟩ | ⟨id, hres, hid⟩
  · rw [hres] at heq
    obtain ⟨rfl, rfl⟩ := Prod.mk.inj (Option.some.inj heq)
    exact hI.receives hr rfl List.prefix_rfl trivial
      (.unanswered reg regs calling rfl hrest (by rw [hdown]; rfl)) (hothers (Or.inr rfl))
  · rw [hres] at heq
    obtain ⟨rfl, rfl⟩ := Prod.mk.inj (Option.some.inj heq)
    refine hI.receives hr (by simp) (by simp) ?_ ?_ (hothers (Or.inl hstage))
    · simp only [RouterRun.Collected, hstage, Router.countMaster_clients]
      exact ⟨hinfos, c, hc, hsent⟩
    · exact .refused reg regs err calling state hstage hrest (by rw [hdown]; rfl)
  · rw [hres] at heq
    obtain ⟨rfl, rfl⟩ := Prod.mk.inj (Option.some.inj heq)
    refine hI.receives hr (by simp) (by simp) ?_ ?_ (hothers (Or.inl hstage))
    · simp only [RouterRun.Collected, hstage, Router.store_clients, Router.countMaster_clients]
      exact ⟨hinfos, c, hc, hsent⟩
    · refine .acked reg regs id calling state blank hstage hrest (by rw [hdown]; rfl) ?_
      exact ⟨_, by rw [hid, Router.store_ips, Router.countMaster_ips, List.getElem?_concat_length], rfl⟩

theorem Inv.commit (hI : h.Inv infos) {i : Nat} (hstage : h.router.stage = .register i)
    (hdown : h.toClient i = []) {rest : List Buf} (hrest : rest = [])
    (calling : (h.parties i).calling = .commitIp true) (state : (h.parties i).bridge.client.state = .connected)
    (blank : (h.parties i).Blank) {r' : RouterRun Buf} {replies : List Buf}
    (hr : h.router.receive RouterClient.commitMessage = some (r', replies)) :
    Inv infos { h with
      router := r'
      toRouter := Function.update h.toRouter i rest
      toClient := Function.update h.toClient i (h.toClient i ++ replies) } := by
  have hcollected := hI.collected
  simp only [RouterRun.Collected, hstage] at hcollected
  obtain ⟨hinfos, c, hc, hsent⟩ := hcollected
  have hi : i < h.router.router.clients.length := (List.getElem?_eq_some_iff.mp hc).1
  have heq := RouterRun.receive_commit hstage hc
  rw [hr] at heq
  obtain ⟨hr', rfl⟩ := Prod.mk.inj (Option.some.inj heq)
  have hrouter : r'.router = h.router.router := by rw [hr']
  have htake : r'.clInfo = infos.take (i + 1) := by
    rw [hr', List.take_add_one, ← hinfos, hsent]
    rfl
  have hlen : r'.router.clients.length = h.router.router.clients.length := by rw [hrouter]
  have hips : h.router.router.ips <+: r'.router.ips := by rw [hrouter]
  by_cases hlast : i + 1 < h.router.router.clients.length
  · have hstage' : r'.stage = .hello (i + 1) := by
      rw [hr']
      exact if_pos hlast
    refine hI.receives hr hlen hips ?_ ?_ fun j hj hji => ?_
    · simp only [RouterRun.Collected, hstage', hlen]
      exact ⟨hlast, htake⟩
    · refine .committed calling state blank ?_ hrest (by rw [hdown]; rfl)
      rw [hstage']
      exact Nat.lt_succ_self i
    · refine (hI.phases j hj).received_other hstage hji (fun hb => ?_) (fun hb => Or.inl ?_)
      · rw [hstage']
        exact hb
      · rw [hstage']
        exact Nat.lt_succ_of_lt hb
  · -- It was the last client: all clients get the same messages, none of which are written yet.
    have hall : r'.clInfo = infos := by
      rw [htake, List.take_of_length_le]
      rw [hI.length]
      omega
    have hstage' : r'.stage = .commit 0 (Client.commitMessages r'.clInfo r'.router.ips) := by
      rw [hr']
      simp only [hlast, if_false, RouterRun.commitStage]
      exact if_pos (Nat.zero_lt_of_lt hi)
    have hunwritten : ∀ j, r'.unwritten j = Client.commitMessages r'.clInfo r'.router.ips := by
      intro j
      simp [RouterRun.unwritten, hstage']
    have hcommitting : r'.stage.Committing := by rw [hstage']; trivial
    refine hI.receives hr hlen hips ?_ ?_ fun j hj hji => ?_
    · simp only [RouterRun.Collected, hstage', hlen]
      exact ⟨Nat.zero_lt_of_lt hi, by simp [Client.commitMessages], hall⟩
    · refine .streams hcommitting hrest (.commitIp calling state blank ?_)
      rw [hdown, hunwritten]
      rfl
    · refine (hI.phases j hj).received_other hstage hji (fun hb => ?_) (fun _ => Or.inr ⟨hcommitting, hunwritten j⟩)
      omega

theorem Inv.reading_lt (hI : h.Inv infos) {i : Nat} (hreading : h.reading = some i) :
    i < h.router.router.clients.length := by
  have hcollected := hI.collected
  rcases reading_eq_some hreading with hstage | hstage <;> simp only [RouterRun.Collected, hstage] at hcollected
  · exact hcollected.1
  · obtain ⟨-, c, hc, -⟩ := hcollected
    exact (List.getElem?_eq_some_iff.mp hc).1

/-- What `Run` reads is the message of the call that the client is at, and there is nothing else on the way. -/
theorem Inv.reads (hI : h.Inv infos) {i : Nat} (hreading : h.reading = some i) {msgArr : Buf} {rest : List Buf}
    (hup : h.toRouter i = msgArr :: rest) : rest = [] ∧ h.toClient i = [] ∧ (h.parties i).Blank ∧
    ((h.router.stage = .hello i ∧ msgArr = RouterClient.systemInfoMessage (h.parties i).info ∧
        (h.parties i).calling = .connect true ∧ (h.parties i).bridge.client.state = .disconnected ∧
        ¬((h.parties i).uri.length < 8 ∨
          RouterClient.startsWith (h.parties i).uri RouterClient.unixPrefix = false)) ∨
      (∃ reg regs, h.router.stage = .register i ∧ msgArr = RouterClient.ipInfoMessage reg.config ∧
        (h.parties i).calling = .register reg regs true ∧ (h.parties i).bridge.client.state = .connected) ∨
      (h.router.stage = .register i ∧ msgArr = RouterClient.commitMessage ∧ (h.parties i).calling = .commitIp true ∧
        (h.parties i).bridge.client.state = .connected)) := by
  have hphase := hI.phases i (hI.reading_lt hreading)
  rw [hup] at hphase
  cases hphase with
  | greets calling state uri blank stage hup' hdown =>
    obtain ⟨rfl, rfl⟩ := List.cons.inj hup'
    rcases reading_eq_some hreading with hstage | hstage
    · exact ⟨rfl, hdown, blank, Or.inl ⟨hstage, rfl, calling, state, uri⟩⟩
    · rw [hstage] at stage
      exact absurd stage (Nat.lt_irrefl i)
  | registers reg regs calling state blank stage hup' hdown =>
    obtain ⟨rfl, rfl⟩ := List.cons.inj hup'
    exact ⟨rfl, hdown, blank, Or.inr (Or.inl ⟨reg, regs, stage, rfl, calling, state⟩)⟩
  | commits calling state blank stage hup' hdown =>
    obtain ⟨rfl, rfl⟩ := List.cons.inj hup'
    exact ⟨rfl, hdown, blank, Or.inr (Or.inr ⟨stage, rfl, calling, state⟩)⟩
  | connects calling blank stage hup' => cases hup'
  | greeted calling state uri blank stage hup' => cases hup'
  | idle regs calling state blank stage hup' => cases hup'
  | acked reg regs id calling state blank stage hup' => cases hup'
  | refused reg regs err calling state stage hup' => cases hup'
  | unanswered reg regs calling stage hup' => cases hup'
  | committed calling state blank stage hup' => cases hup'
  | streams stage hup' => cases hup'
  | failed calling hup' => cases hup'

theorem Inv.routerReceives (hI : h.Inv infos) (hs : h.routerReceives = some h') : h'.Inv infos := by
  obtain ⟨i, hreading, hs⟩ := Option.bind_eq_some_iff.mp hs
  split at hs
  · cases hs
  · rename_i msgArr rest hup
    obtain ⟨⟨r', replies⟩, hr, rfl⟩ := Option.map_eq_some_iff.mp hs
    obtain ⟨hrest, hdown, blank, hmsg⟩ := hI.reads hreading hup
    rcases hmsg with ⟨hstage, rfl, calling, state, uri⟩ | ⟨reg, regs, hstage, rfl, calling, state⟩ |
      ⟨hstage, rfl, calling, state⟩
    · exact hI.hello hstage hdown hrest calling state uri blank hr
    · exact hI.register hstage hdown hrest calling state blank hr
    · exact hI.commit hstage hdown hrest calling state blank hr

/-! #### Commits -/

theorem write_cases {r r' : RouterRun Buf} {k : Nat} {msgArr : Buf} (hw : r.write = some (r', k, msgArr)) :
    ∃ rest, r.stage = .commit k (msgArr :: rest) ∧
      r' = { r with stage := if rest = [] then r.commitStage (k + 1) else .commit k rest } := by
  unfold RouterRun.write at hw
  split at hw
  · cases hw
    exact ⟨[], ‹_›, by simp⟩
  · rename_i i m rest hne hstage
    have hrest : rest ≠ [] := hne
    cases hw
    exact ⟨rest, hstage, by simp [hrest]⟩
  · cases hw

/-- A commit that `Run` writes is gone from what it has yet to write to its client. -/
theorem write_collected {r r' : RouterRun Buf} {k : Nat} {msgArr : Buf} (hcollected : r.Collected infos)
    (hw : r.write = some (r', k, msgArr)) : r'.Collected infos ∧ r'.stage.Committing ∧
      ∀ j < r.router.clients.length, r.unwritten j = if j = k then msgArr :: r'.unwritten j else r'.unwritten j := by
  obtain ⟨rest, hstage, hr'⟩ := write_cases hw
  simp only [RouterRun.Collected, hstage] at hcollected
  obtain ⟨hk, -, hinfos⟩ := hcollected
  have hrouter : r'.router = r.router := by rw [hr']
  have hcl : r'.clInfo = r.clInfo := by rw [hr']
  by_cases hnil : rest = []
  · subst hnil
    by_cases hlast : k + 1 < r.router.clients.length
    · have hstage' : r'.stage = .commit (k + 1) (Client.commitMessages r.clInfo r.router.ips) := by
        simp [hr', RouterRun.commitStage, hlast]
      refine ⟨?_, by rw [hstage']; trivial, fun j hj => ?_⟩
      · simp only [RouterRun.Collected, hstage', hrouter, hcl]
        exact ⟨hlast, by simp [Client.commitMessages], hinfos⟩
      · simp only [RouterRun.unwritten, hstage', hstage, hrouter, hcl]
        split_ifs <;> first | rfl | omega
    · have hstage' : r'.stage = .serve := by simp [hr', RouterRun.commitStage, hlast]
      refine ⟨?_, by rw [hstage']; trivial, fun j hj => ?_⟩
      · simp only [RouterRun.Collected, hstage', hcl]
        exact hinfos
      · simp only [RouterRun.unwritten, hstage', hstage]
        split_ifs <;> first | rfl | omega
  · have hstage' : r'.stage = .commit k rest := by simp [hr', hnil]
    refine ⟨?_, by rw [hstage']; trivial, fun j hj => ?_⟩
    · simp only [RouterRun.Collected, hstage', hrouter, hcl]
      exact ⟨hk, hnil, hinfos⟩
    · simp only [RouterRun.unwritten, hstage', hstage, hrouter, hcl]
      split_ifs <;> first | rfl | omega

theorem Inv.routerWrites (hI : h.Inv infos) (hs : h.routerWrites = some h') : h'.Inv infos := by
  obtain ⟨⟨r', k, msgArr⟩, hw, rfl⟩ := Option.map_eq_some_iff.mp hs
  have hsound : r'.Sound := by
    have hstep : h.router.step .write = some r' := by simp [RouterRun.step, hw]
    exact hI.sound.step hstep
  obtain ⟨hcollected, hcommitting', hunwritten⟩ := write_collected hI.collected hw
  obtain ⟨rest, hstage, hr'⟩ := write_cases hw
  have hrouter : r'.router = h.router.router := by rw [hr']
  have hcl : r'.clInfo = h.router.clInfo := by rw [hr']
  have hcommitting : h.router.stage.Committing := by rw [hstage]; trivial
  exact
    { sound := hsound
      length := hI.length.trans (by rw [hrouter])
      sent := fun j hj => hI.sent j (hrouter ▸ hj)
      collected := hcollected
      phases := fun j hj => by
        refine (hI.phases j (hrouter ▸ hj)).written hcommitting hcommitting' hcl (by rw [hrouter]) ?_
        rw [hunwritten j (hrouter ▸ hj)]
        by_cases hjk : j = k
        · subst hjk
          simp
        · simp [hjk]
      registered := fun j hj => by
        rw [hrouter]
        exact hI.registered j (hrouter ▸ hj) }

theorem Inv.step {e : Event} (hI : h.Inv infos) (hs : h.step e = some h') : h'.Inv infos := by
  cases e with
  | routerReceives => exact hI.routerReceives hs
  | routerWrites => exact hI.routerWrites hs
  | partyCalls i =>
    simp only [Handshake.step] at hs
    split at hs
    · exact hI.partyCalls ‹_› hs
    · cases hs
  | partyReads i =>
    simp only [Handshake.step] at hs
    split at hs
    · exact hI.partyReads ‹_› hs
    · cases hs

theorem Fresh.inv (hf : h.Fresh) : h.Inv h.infos := by
  exact
    { sound := hf.router.sound
      length := by simp [Handshake.infos]
      sent := fun i hi => by simp [Handshake.infos, hi]
      collected := by
        simp only [RouterRun.Collected, hf.router.stage]
        exact ⟨hf.pos, by simp [hf.router.clInfo]⟩
      phases := fun i _ => by
        refine .connects (hf.calling i) ⟨?_, ?_, (hf.logs i).2.1, (hf.logs i).2.2⟩ ?_ (hf.toRouter i) (hf.toClient i)
        · rw [hf.bridges]
        · rw [hf.bridges]
        · rw [hf.router.stage]
          exact Nat.zero_le i
      registered := fun i _ x hx => by simp [(hf.logs i).1] at hx }

theorem Fresh.run_inv {h₀ : Handshake S Buf} (hf : h₀.Fresh) {es : List Event} (hr : run Handshake.step h₀ es = some h) :
    h.Inv h₀.infos :=
  run_invariant (fun _ _ _ hI hs => hI.step hs) hf.inv hr

/-! ### Agreement -/

theorem Inv.started (hI : h.Inv infos) {i : Nat} (hi : i < h.router.router.clients.length)
    (hstarted : (h.parties i).calling = .started) : h.router.stage.Committing ∧ h.toRouter i = [] ∧
      h.toClient i = [] ∧ h.router.unwritten i = [] ∧ (h.parties i).bridge.client.state = .started ∧
      (h.parties i).bridge.peers = h.router.clInfo ∧
      (h.parties i).bridge.ipBlocks = h.router.router.ips.map IpInfo.config ∧
      (h.parties i).peerLog = h.router.clInfo.map RouterClient.systemInfoMessage ++ [Client.ackMessage] ∧
      (h.parties i).ipLog = h.router.router.ips.map Client.ipMessage ++ [Client.ackMessage] := by
  cases hI.phases i hi with
  | streams stage hup stream =>
    cases stream with
    | started calling state peers peerLog ipBlocks ipLog hleft =>
      obtain ⟨hdown, hunwritten⟩ := List.append_eq_nil_iff.mp hleft
      exact ⟨stage, hup, hdown, hunwritten, state, peers, ipBlocks, peerLog, ipLog⟩
    | commitIp calling => simp [hstarted] at calling
    | peers todo calling => simp [hstarted] at calling
    | ips taken todo calling => simp [hstarted] at calling
  | idle rest calling => cases rest <;> simp [hstarted, Party.nextCall] at calling
  | connects calling => simp [hstarted] at calling
  | greets calling => simp [hstarted] at calling
  | greeted calling => simp [hstarted] at calling
  | registers reg rest calling => simp [hstarted] at calling
  | acked reg rest id calling => simp [hstarted] at calling
  | refused reg rest err calling => simp [hstarted] at calling
  | unanswered reg rest calling => simp [hstarted] at calling
  | commits calling => simp [hstarted] at calling
  | committed calling => simp [hstarted] at calling
  | failed calling => simp [hstarted] at calling

/-- Once the calls of all clients have completed, the router routes, no message of the handshake is left, and all
    clients are started with the same lists, each loop of `start` having taken the messages of its own. -/
theorem handshake_agreement {h₀ h : Handshake S Buf} (hf : h₀.Fresh) {es : List Event}
    (hr : run Handshake.step h₀ es = some h)
    (hstarted : ∀ i < h.router.router.clients.length, (h.parties i).calling = .started) :
    h.router.stage = .serve ∧ ∀ i < h.router.router.clients.length,
      (h.parties i).bridge.client.state = .started ∧ h.toRouter i = [] ∧ h.toClient i = [] ∧
      (h.parties i).bridge.peers = h₀.infos ∧
      (h.parties i).bridge.ipBlocks = h.router.router.ips.map IpInfo.config ∧
      (h.parties i).peerLog = h₀.infos.map RouterClient.systemInfoMessage ++ [Client.ackMessage] ∧
      (h.parties i).ipLog = h.router.router.ips.map Client.ipMessage ++ [Client.ackMessage] := by
  have hI := hf.run_inv hr
  have hpos : 0 < h.router.router.clients.length := by
    rw [← hI.length, hf.inv.length]
    exact hf.pos
  have hstage : h.router.stage = .serve := by
    obtain ⟨hcommitting, -⟩ := hI.started hpos (hstarted 0 hpos)
    cases hs : h.router.stage with
    | serve => rfl
    | commit k rest =>
      -- The client that is being committed to still has messages to come.
      have hcollected := hI.collected
      simp only [RouterRun.Collected, hs] at hcollected
      obtain ⟨-, -, -, hunwritten, -⟩ := hI.started hcollected.1 (hstarted k hcollected.1)
      simp only [RouterRun.unwritten, hs, lt_irrefl, if_false, if_true] at hunwritten
      exact absurd hunwritten hcollected.2.1
    | hello k => simp [hs, Stage.Committing] at hcommitting
    | register k => simp [hs, Stage.Committing] at hcommitting
    | routed => simp [hs, Stage.Committing] at hcommitting
    | failed => simp [hs, Stage.Committing] at hcommitting
  have hinfos : h.router.clInfo = h₀.infos := by
    have hcollected := hI.collected
    simpa only [RouterRun.Collected, hstage] using hcollected
  refine ⟨hstage, fun i hi => ?_⟩
  obtain ⟨-, hup, hdown, -, hstate, hpeers, hblocks, hpeerLog, hipLog⟩ := hI.started hi (hstarted i hi)
  exact ⟨hstate, hup, hdown, hpeers.trans hinfos, hblocks, by rw [hpeerLog, hinfos], hipLog⟩

/-- A block that a client registered is learnt by a started client as it was registered exactly when it has no
    interrupts. -/
theorem config_round_trip_iff {h₀ h : Handshake S Buf} (hf : h₀.Fresh) {es : List Event}
    (hr : run Handshake.step h₀ es = some h) {i j : Nat} (hi : i < h.router.router.clients.length)
    (hj : j < h.router.router.clients.length) {id : UInt64} {config : IpConfig}
    (hreg : (id, config) ∈ (h.parties i).registered) (hstarted : (h.parties j).calling = .started) :
    (h.parties j).bridge.ipBlocks[id.toNat]? = some config ↔
      config.firstInterrupt = 0 ∧ config.numInterrupts = 0 := by
  have hI := hf.run_inv hr
  obtain ⟨ip, hip, hconfig⟩ := hI.registered i hi _ hreg
  obtain ⟨-, -, -, -, -, -, hblocks, -⟩ := hI.started hj hstarted
  rw [hblocks, List.getElem?_map, hip, Option.map_some, hconfig, Option.some_inj, IpConfig.registered_eq_iff]

/-! ### One client -/

/-- A client that is to register this slave, with its router. -/
def oneSlave (config : IpConfig) : Handshake Unit Wire.Message where
  router := { router := Router.single, host := { name := "router" } }
  parties _ :=
    { info := { name := "01-handshake" }, uri := "unix:///tmp/sw-axi", sock := 3, regs := [.slave () config] }
  toRouter _ := []
  toClient _ := []

theorem oneSlave_fresh (config : IpConfig) : (oneSlave config).Fresh where
  router := ⟨Router.single_accepted, rfl, rfl, rfl⟩
  bridges _ := rfl
  calling _ := rfl
  logs _ := ⟨rfl, rfl, rfl⟩
  toRouter _ := rfl
  toClient _ := rfl

/-- The calls of the client one after the other. -/
def inTurn : List Event :=
  [.partyCalls 0, .routerReceives, .partyReads 0, .partyCalls 0, .routerReceives, .partyReads 0, .partyCalls 0,
    .routerReceives, .routerWrites, .routerWrites, .routerWrites, .routerWrites, .routerWrites,
    .partyReads 0, .partyReads 0, .partyReads 0, .partyReads 0, .partyReads 0]

def plainRam : IpConfig := { name := "Soft-RAM", address := 0x1000, size := 0x2000, type := .slaveLite }

def interruptingRam : IpConfig := { plainRam with firstInterrupt := 4, numInterrupts := 2 }

theorem config_round_trip_plainRam :
    ∃ h, run Handshake.step (oneSlave plainRam) inTurn = some h ∧
      ((h.parties 0).bridge.ipBlocks[(0 : UInt64).toNat]? = some plainRam ↔
        plainRam.firstInterrupt = 0 ∧ plainRam.numInterrupts = 0) := by
  have hrun : (run Handshake.step (oneSlave plainRam) inTurn).map (fun h =>
      (h.router.router.clients.length, (h.parties 0).registered, (h.parties 0).calling)) =
        some (1, [(0, plainRam)], .started) := by decide
  obtain ⟨h, hr, heq⟩ := Option.map_eq_some_iff.mp hrun
  obtain ⟨hlen, heq⟩ := Prod.mk.inj heq
  obtain ⟨hreg, hstarted⟩ := Prod.mk.inj heq
  have hpos : 0 < h.router.router.clients.length := by omega
  exact ⟨h, hr, config_round_trip_iff (oneSlave_fresh plainRam) hr hpos hpos (by simp [hreg]) hstarted⟩

/-- The interrupts of the slave are lost on their way. -/
theorem interrupts_lost :
    (oneSlave interruptingRam).Fresh ∧
    ∃ h, run Handshake.step (oneSlave interruptingRam) inTurn = some h ∧ 0 < h.router.router.clients.length ∧
      (0, interruptingRam) ∈ (h.parties 0).registered ∧ (h.parties 0).calling = .started ∧
      (h.parties 0).bridge.ipBlocks[0]? ≠ some interruptingRam := by
  have hrun : (run Handshake.step (oneSlave interruptingRam) inTurn).map (fun h =>
      (h.router.router.clients.length, (h.parties 0).registered, (h.parties 0).calling,
        (h.parties 0).bridge.ipBlocks)) =
      some (1, [(0, interruptingRam)], .started, [plainRam]) := by decide
  obtain ⟨h, hr, heq⟩ := Option.map_eq_some_iff.mp hrun
  simp only [Prod.mk.injEq] at heq
  obtain ⟨hlen, hreg, hstarted, hblocks⟩ := heq
  exact ⟨oneSlave_fresh _, h, hr, by omega, by simp [hreg], hstarted, by rw [hblocks]; decide⟩

/-! ### Two clients -/

/-- A client with a master and a client that is to register the slave, with their router. -/
def masterThenSlave : Handshake Unit Wire.Message where
  router := RouterRun.twoClients
  parties i :=
    if i = 0 then { info := { name := "first" }, uri := "unix:///tmp/sw-axi", sock := 3, regs := [.master "Soft-Master"] }
    else { info := { name := "second" }, uri := "unix:///tmp/sw-axi", sock := 3, regs := [.slave () plainRam] }
  toRouter _ := []
  toClient _ := []

theorem masterThenSlave_fresh : masterThenSlave.Fresh where
  router := RouterRun.twoClients_fresh
  bridges i := by
    unfold masterThenSlave
    simp only
    split <;> rfl
  calling i := by
    unfold masterThenSlave
    simp only
    split <;> rfl
  logs i := by
    unfold masterThenSlave
    simp only
    split <;> exact ⟨rfl, rfl, rfl⟩
  toRouter _ := rfl
  toClient _ := rfl

/-- Both connect at once; the second client calls on while `Run` still serves the first one. -/
def interleaved : List Event :=
  [.partyCalls 1, .partyCalls 0, .routerReceives, .partyReads 0, .partyCalls 0, .routerReceives, .partyReads 0,
    .partyCalls 0, .routerReceives, .routerReceives, .partyReads 1, .partyCalls 1, .routerReceives, .partyReads 1,
    .partyCalls 1, .routerReceives] ++ List.replicate 14 .routerWrites ++
    (List.replicate 7 [.partyReads 1, .partyReads 0]).flatten

theorem handshake_agreement_masterThenSlave :
    ∃ h, run Handshake.step masterThenSlave interleaved = some h ∧
      h.router.router.ips.map (fun ip => (ip.id, ip.name)) = [(0, "Soft-Master"), (1, "Soft-RAM")] ∧
      h.router.stage = .serve ∧ ∀ i < h.router.router.clients.length,
        (h.parties i).bridge.client.state = .started ∧ h.toRouter i = [] ∧ h.toClient i = [] ∧
        (h.parties i).bridge.peers = masterThenSlave.infos ∧
        (h.parties i).bridge.ipBlocks = h.router.router.ips.map IpInfo.config ∧
        (h.parties i).peerLog = masterThenSlave.infos.map RouterClient.systemInfoMessage ++ [Client.ackMessage] ∧
        (h.parties i).ipLog = h.router.router.ips.map Client.ipMessage ++ [Client.ackMessage] := by
  have hrun : (run Handshake.step masterThenSlave interleaved).map (fun h =>
      (h.router.router.clients.length, h.router.router.ips.map (fun ip => (ip.id, ip.name)),
        (h.parties 0).calling, (h.parties 1).calling)) =
      some (2, [(0, "Soft-Master"), (1, "Soft-RAM")], .started, .started) := by decide
  obtain ⟨h, hr, heq⟩ := Option.map_eq_some_iff.mp hrun
  simp only [Prod.mk.injEq] at heq
  obtain ⟨hlen, hips, hfirst, hsecond⟩ := heq
  refine ⟨h, hr, hips, handshake_agreement masterThenSlave_fresh hr fun i hi => ?_⟩
  obtain rfl | rfl : i = 0 ∨ i = 1 := by omega
  · exact hfirst
  · exact hsecond

end Handshake

end SwAxi
