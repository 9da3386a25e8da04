import SwAxi.Run
import SwAxi.Bridge

/-! The handshake as a whole: one router, its clients, and a socket in each direction between them. Each
client is a bridge that connects, registers its blocks, commits and starts; no socket call fails. -/

namespace SwAxi
open Wire (Flatbuffers)
open Wire.Flatbuffers (getRoot)
open Transition

/-- A registration that the user of a bridge makes. -/
inductive Registration (S : Type) where
  | slave (slave : S) (config : IpConfig)
  | master (name : String)
  deriving DecidableEq, Repr

/-- The block it asks for. -/
def Registration.config {S : Type} : Registration S → IpConfig
  | .slave _ config => config
  | .master name => Bridge.masterConfig name

/-- The call that the user of a bridge is at; `waiting` once its message is written. -/
inductive Calling (S : Type) where
  | connect (waiting : Bool)
  | register (reg : Registration S) (rest : List (Registration S)) (waiting : Bool)
  | commitIp (waiting : Bool)
  | start (loop : Bridge.StartLoop)
  /-- `start` has returned with success. -/
  | started
  /-- A call has returned an error, or the process is gone. -/
  | failed
  deriving DecidableEq, Repr

/-- A client and its user. The last three fields are no part of its state: the ids it got for its blocks, and
    the messages that each loop of `start` has taken. -/
structure Party (S Buf : Type) where
  info : SystemInfo
  uri : String
  sock : Nat
  regs : List (Registration S)
  bridge : Bridge S := {}
  calling : Calling S := .connect false
  registered : List (UInt64 × IpConfig) := []
  peerLog : List Buf := []
  ipLog : List Buf := []

namespace Party
variable {S Buf : Type} [Flatbuffers Buf] (p : Party S Buf)

/-- What comes after `connect` or a registration. -/
def nextCall : List (Registration S) → Calling S
  | [] => .commitIp false
  | reg :: rest => .register reg rest false

/-- A call returns; its user goes on to the given call if it went well. -/
def returns (res : Option (Bridge S × Status)) (calling : Calling S) : Party S Buf :=
  match res with
  | none => { p with calling := .failed }
  | some (bridge, st) => { p with bridge, calling := if st.isError then .failed else calling }

/-- A call gets as far as writing its message, unless its client is in the wrong state for it. -/
def calls (ready : Bool) (calling : Calling S) (msgArr : Buf) : Party S Buf × List Buf :=
  if ready then ({ p with calling }, [msgArr]) else ({ p with calling := .failed }, [])

def replied (msgArr : Buf) : RouterClient.Exchange Buf := { write := .ok (), read := .ok msgArr }

/-- `registerSlave` or `registerMaster` with this reply. -/
def register (reg : Registration S) (msgArr : Buf) : Option (Bridge S × Status) :=
  match reg with
  | .slave slave config => p.bridge.registerSlave slave config (replied msgArr)
  | .master name => (p.bridge.registerMaster name (replied msgArr)).map fun (bridge, _, st) => (bridge, st)

/-- A call that waits for its reply gets it. -/
def reply (msgArr : Buf) : Option (Party S Buf) :=
  match p.calling with
  | .connect true =>
    some (p.returns (p.bridge.connect p.uri
      { replied msgArr with socket := .ok p.sock, connect := fun _ => .ok () }) (nextCall p.regs))
  | .register reg rest true =>
    let p' := p.returns (p.register reg msgArr) (nextCall rest)
    some (if (getRoot msgArr).getType = .ipAck then
      { p' with registered := p.registered ++ [((getRoot msgArr).getIpId, reg.config)] } else p')
  | .commitIp true => some (p.returns (p.bridge.commitIp (replied msgArr)) (.start .peers))
  | .start loop =>
    let p' := match loop with
      | .peers => { p with peerLog := p.peerLog ++ [msgArr] }
      | .ips => { p with ipLog := p.ipLog ++ [msgArr] }
    match p.bridge.startTurn loop (.ok msgArr) with
    | none => some { p' with calling := .failed }
    | some (bridge, .again loop) => some { p' with bridge, calling := .start loop }
    | some (bridge, .returned st) =>
      some { p' with bridge, calling := if st.isError then .failed else .started }
  | _ => none

/-- The user makes its next call; the message it writes. -/
def call : Option (Party S Buf × List Buf) :=
  let state := p.bridge.client.state
  match p.calling with
  | .connect false =>
    some (p.calls (state = .disconnected ∧ ¬(p.uri.length < 8 ∨ RouterClient.startsWith p.uri RouterClient.unixPrefix = false))
      (.connect true) (RouterClient.systemInfoMessage p.info))
  | .register reg rest false =>
    some (p.calls (state = .connected) (.register reg rest true) (RouterClient.ipInfoMessage reg.config))
  | .commitIp false => some (p.calls (state = .connected) (.commitIp true) RouterClient.commitMessage)
  | _ => none

end Party

structure Handshake (S Buf : Type) where
  router : RouterRun Buf
  parties : Nat → Party S Buf
  /-- What is in the socket of each client in either direction. -/
  toRouter : Nat → List Buf
  toClient : Nat → List Buf

namespace Handshake

section
variable {S Buf : Type} (h : Handshake S Buf)

/-- The infos of the clients in the order of their acceptance. -/
def infos : List SystemInfo := (List.range h.router.router.clients.length).map fun i => (h.parties i).info

/-- The client that `Run` reads from. -/
def reading : Option Nat :=
  match h.router.stage with
  | .hello i | .register i => some i
  | _ => none

theorem reading_eq_some {h : Handshake S Buf} {i : Nat} (hr : h.reading = some i) :
    h.router.stage = .hello i ∨ h.router.stage = .register i := by
  unfold reading at hr
  split at hr
  · cases hr
    exact Or.inl ‹_›
  · cases hr
    exact Or.inr ‹_›
  · cases hr

/-- All clients are fresh bridges whose connections `Run` has accepted. -/
structure Fresh : Prop where
  router : h.router.Fresh
  bridges : ∀ i, (h.parties i).bridge = {}
  calling : ∀ i, (h.parties i).calling = .connect false
  logs : ∀ i, (h.parties i).registered = [] ∧ (h.parties i).peerLog = [] ∧ (h.parties i).ipLog = []
  toRouter : ∀ i, h.toRouter i = []
  toClient : ∀ i, h.toClient i = []

theorem Fresh.pos {h : Handshake S Buf} (hf : h.Fresh) : 0 < h.router.router.clients.length := by
  obtain ⟨uri, n, r₀, h0, heq⟩ := hf.router.router
  obtain ⟨hn, rfl⟩ := Router.newRouter_inv h0
  rw [heq]
  simp [Router.acceptClients]
  omega

end

variable {S Buf : Type} [Flatbuffers Buf] (h : Handshake S Buf)

/-- `Run` takes the next message of the client it reads from. -/
def routerReceives : Option (Handshake S Buf) :=
  h.reading.bind fun i =>
    match h.toRouter i with
    | [] => none
    | msgArr :: rest =>
      (h.router.receive msgArr).map fun (router, replies) =>
        { h with
          router
          toRouter := Function.update h.toRouter i rest
          toClient := Function.update h.toClient i (h.toClient i ++ replies) }

/-- `Run` writes the next message of its commits. -/
def routerWrites : Option (Handshake S Buf) :=
  h.router.write.map fun (router, i, msgArr) =>
    { h with router, toClient := Function.update h.toClient i (h.toClient i ++ [msgArr]) }

/-- The user of client `i` makes its next call. -/
def partyCalls (i : Nat) : Option (Handshake S Buf) :=
  (h.parties i).call.map fun (party, out) =>
    { h with
      parties := Function.update h.parties i party
      toRouter := Function.update h.toRouter i (h.toRouter i ++ out) }

/-- Client `i` reads the next message. -/
def partyReads (i : Nat) : Option (Handshake S Buf) :=
  match h.toClient i with
  | [] => none
  | msgArr :: rest =>
    ((h.parties i).reply msgArr).map fun party =>
      { h with
        parties := Function.update h.parties i party
        toClient := Function.update h.toClient i rest }

inductive Event where
  | routerReceives
  | routerWrites
  | partyCalls (i : Nat)
  | partyReads (i : Nat)
  deriving DecidableEq, Repr

def step : Event → Option (Handshake S Buf)
  | .routerReceives => h.routerReceives
  | .routerWrites => h.routerWrites
  | .partyCalls i => if i < h.router.router.clients.length then h.partyCalls i else none
  | .partyReads i => if i < h.router.router.clients.length then h.partyReads i else none

end Handshake

end SwAxi
