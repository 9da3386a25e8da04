import SwAxi.Lifecycle
import SwAxi.SvMemory

/-! The two bridges side by side: that of the simulator (`src/sim/bridge.sv`), and that of the library for C++
(`src/lib/SwAxi.cc`), of which it is meant to be the counterpart. Both get the same calls, and the socket calls under
them give the same, until `start` has gone well and the threads of the second one run. Where they part is said by a
condition on each call. -/

namespace SwAxi
open Wire (Flatbuffers)
open Wire.Flatbuffers (getRoot)
open Transition
open RouterClient (Consistent ConnectCalls Exchange)
open Bridge (StartLoop)

/-! ### What the operations of the client return -/

namespace RouterClient
variable {Buf : Type} [Flatbuffers Buf] {c : RouterClient}

theorem connect_result {uri : String} {x : ConnectCalls Buf} {r : RouterClient × Option SystemInfo × Status}
    (hclient : Consistent c) (h : c.connect uri x = some r) :
    (r.2.2.isError = true ∧ r.2.1 = none) ∨ (r.2.2 = {} ∧ r.2.1.isSome = true) := by
  unfold connect at h
  split at h
  · cases h
    obtain ⟨hst, hnone, -⟩ := dial_error hclient ‹_›
    exact Or.inl ⟨hst, hnone⟩
  · rcases connectReply_inv h with ⟨-, text, rfl⟩ | ⟨data, -, -, si, rfl⟩
    · exact Or.inl ⟨rfl, rfl⟩
    · exact Or.inr ⟨rfl, rfl⟩

theorem registerIp_result {config : IpConfig} {x : Exchange Buf} {r : RouterClient × UInt64 × Status}
    (h : c.registerIp config x = some r) : r.2.2.isError = true ∨ r.2.2 = {} := by
  unfold registerIp at h
  split at h
  · cases h
    exact Or.inl rfl
  · rcases exchange_inv h with ⟨text, rfl⟩ | ⟨-, hreply⟩
    · exact Or.inl rfl
    · rcases registerIpReply_inv hreply with ⟨-, text, rfl⟩ | ⟨data, -, -, rfl⟩
      · exact Or.inl rfl
      · exact Or.inr rfl

end RouterClient

theorem Bridge.startTurn_consistent {S Buf : Type} [Flatbuffers Buf] {b t : Bridge S} {loop : StartLoop}
    {read : RouterClient.Received Buf} {res : Bridge.StartResult} (hc : Consistent b.client)
    (h : b.startTurn loop read = some (t, res)) : Consistent t.client := by
  cases Bridge.turns_of_startTurn hc h with
  | peer => exact hc
  | peersEnd hstate => exact Bridge.consistent_state hc (by simp [hstate]) (by simp)
  | ip => exact hc
  | started hstate => exact Bridge.consistent_state hc (by simp [hstate]) (by simp)
  | failed => exact hc.after_disconnect

namespace Sv

variable {S Buf : Type}

/-! ### The two test benches -/

/-- The bridge for C++ with the calls of the test bench. -/
structure Original (S : Type) where
  bridge : SwAxi.Bridge S := {}
  starting : Option StartLoop := none
  /-- A call has ended the process; nothing catches what `resize` throws. -/
  crashed : Bool := false
  returned : List SwAxi.Status := []

namespace Original
variable (o : Original S)

def call {α : Type} (f : Option α) (k : α → Original S) : Original S :=
  match f with
  | none => { o with crashed := true }
  | some a => k a

def return_ (r : SwAxi.Bridge S × SwAxi.Status) : Original S :=
  { o with bridge := r.1, starting := none, returned := o.returned ++ [r.2] }

def turned (r : SwAxi.Bridge S × SwAxi.Bridge.StartResult) : Original S :=
  match r.2 with
  | .again loop => { o with bridge := r.1, starting := some loop }
  | .returned st => o.return_ (r.1, st)

def step [Flatbuffers Buf] (o : Original S) (e : Event S Buf) : Option (Original S) :=
  if o.crashed ∨ o.bridge.readerThread.isSome then none
  else match o.starting, e with
  | none, .connect uri x => some (o.call (o.bridge.connect uri.val x) o.return_)
  | none, .registerSlave slave cfg x => some (o.call (o.bridge.registerSlave slave cfg.toNative x) o.return_)
  | none, .commitIp x => some (o.call (o.bridge.commitIp x) o.return_)
  | none, .start => some { o with starting := some .peers }
  | some loop, .turn read => some (o.call (o.bridge.startTurn loop read) o.turned)
  | none, .disconnect => some { o with bridge := o.bridge.disconnect }
  | _, _ => none

section
variable [Flatbuffers Buf] {o o' : Original S}

theorem step_connect {uri : SvString} {x : ConnectCalls Buf} (hs : o.step (.connect uri x) = some o') :
    o' = o.call (o.bridge.connect uri.val x) o.return_ := by
  unfold step at hs
  split at hs
  · cases hs
  · cases hstarting : o.starting <;> simp [hstarting, eq_comm] at hs
    exact hs

theorem step_registerSlave {slave : S} {cfg : IpConfig} {x : Exchange Buf}
    (hs : o.step (.registerSlave slave cfg x) = some o') :
    o' = o.call (o.bridge.registerSlave slave cfg.toNative x) o.return_ := by
  unfold step at hs
  split at hs
  · cases hs
  · cases hstarting : o.starting <;> simp [hstarting, eq_comm] at hs
    exact hs

theorem step_commitIp {x : Exchange Buf} (hs : o.step (.commitIp x) = some o') :
    o' = o.call (o.bridge.commitIp x) o.return_ := by
  unfold step at hs
  split at hs
  · cases hs
  · cases hstarting : o.starting <;> simp [hstarting, eq_comm] at hs
    exact hs

theorem step_start (hs : o.step (.start : Event S Buf) = some o') : o' = { o with starting := some .peers } := by
  unfold step at hs
  split at hs
  · cases hs
  · cases hstarting : o.starting <;> simp [hstarting, eq_comm] at hs
    exact hs

theorem starting_of_turn {read : RouterClient.Received Buf} (hs : o.step (.turn read) = some o') :
    ∃ loop, o.starting = some loop := by
  unfold step at hs
  split at hs
  · cases hs
  · cases hstarting : o.starting <;> simp [hstarting] at hs
    exact ⟨_, rfl⟩

theorem step_turn {read : RouterClient.Received Buf} {loop : StartLoop} (hstarting : o.starting = some loop)
    (hs : o.step (.turn read) = some o') : o' = o.call (o.bridge.startTurn loop read) o.turned := by
  unfold step at hs
  split at hs
  · cases hs
  · simpa [hstarting, eq_comm] using hs

theorem step_disconnect (hs : o.step (.disconnect : Event S Buf) = some o') :
    o' = { o with bridge := o.bridge.disconnect } := by
  unfold step at hs
  split at hs
  · cases hs
  · cases hstarting : o.starting <;> simp [hstarting, eq_comm] at hs
    exact hs

theorem call_consistent {α : Type} {f : Option α} {k : α → Original S} (hc : Consistent o.bridge.client)
    (hk : ∀ a, f = some a → Consistent (k a).bridge.client) : Consistent (o.call f k).bridge.client := by
  cases f with
  | none => exact hc
  | some a => exact hk a rfl

theorem step_consistent {e : Event S Buf} (hc : Consistent o.bridge.client) (hs : o.step e = some o') :
    Consistent o'.bridge.client := by
  cases e with
  | connect uri x =>
    obtain rfl := step_connect hs
    refine call_consistent hc fun r hr => ?_
    obtain ⟨⟨c, si, st⟩, hop, rfl⟩ := Option.map_eq_some_iff.mp hr
    have houtcome : (RouterClient.Op.connect uri.val {} x).Outcome o.bridge.client c st :=
      RouterClient.connect_outcome hc hop
    have hclient : Consistent c := houtcome.consistent hc
    cases herror : st.isError <;> simpa [return_, SwAxi.Bridge.connected, herror] using hclient
  | registerSlave slave cfg x =>
    obtain rfl := step_registerSlave hs
    refine call_consistent hc fun r hr => ?_
    obtain ⟨⟨c, id, st⟩, hop, rfl⟩ := Option.map_eq_some_iff.mp hr
    have hclient : Consistent c := (RouterClient.registerIp_outcome hc hop).consistent hc
    cases herror : st.isError <;> simpa [return_, SwAxi.Bridge.registeredSlave, herror] using hclient
  | commitIp x =>
    obtain rfl := step_commitIp hs
    refine call_consistent hc fun r hr => ?_
    obtain ⟨⟨c, _, st⟩, hop, rfl⟩ := Option.map_eq_some_iff.mp hr
    exact (RouterClient.commitIp_outcome hc hop).consistent hc
  | start =>
    obtain rfl := step_start hs
    exact hc
  | turn read =>
    obtain ⟨loop, hstarting⟩ := starting_of_turn hs
    obtain rfl := step_turn hstarting hs
    refine call_consistent hc fun r hr => ?_
    obtain ⟨t, res⟩ := r
    have hclient : Consistent t.client := Bridge.startTurn_consistent hc hr
    cases res <;> exact hclient
  | disconnect =>
    obtain rfl := step_disconnect hs
    exact hc.after_disconnect

end

end Original

structure Twin (S : Type) where
  sv : Session S
  original : Original S := {}

namespace Twin

def new (name : SvString) : Twin S where
  sv := .new name

variable [Flatbuffers Buf]

def step (t : Twin S) (e : Event S Buf) : Option (Twin S) :=
  (t.sv.step e).bind fun sv => (t.original.step e).map fun original => { sv, original }

/-- The bridges would go on in the same way: no client in the simulator's bridge counts as one that is disconnected,
    and what the other bridge forgets may still be there. -/
structure Matches (heap : Heap Object) (b : Bridge S) (b' : SwAxi.Bridge S) : Prop where
  client : ∀ n, b.client = some n → heap.cells n = some (.client b'.client)
  closed : b.client = none → b'.client = {}
  routerInfo : ∀ si, b'.routerInfo = some si → b.routerInfo = .ofNative si
  peers : b.peers = b'.peers.map .ofNative
  ipBlocks : b'.ipBlocks.map .ofNative <:+ b.ipBlocks
  slaveMap : ∀ id slave, b'.slaveMap id = some slave → b.slaveMap id = some slave

/-- They have also returned the same, up to what a `string` holds, and are in the same place. -/
structure Agree (t : Twin S) : Prop where
  ended : t.sv.ended = if t.original.crashed then some .crash else none
  starting : t.sv.starting = t.original.starting
  returned : t.sv.returned = t.original.returned.map .ofNative
  bridges : Matches t.sv.heap t.sv.bridge t.original.bridge

/-- The call is one that both bridges treat alike: `connect` only while there is no connection, the calls that go to
    the client only where there is one, and `start` only when it has been committed or is not connected at all, and
    the router sends no block of unknown type. -/
def Fits (t : Twin S) : Event S Buf → Prop
  | .connect _ _ => t.original.bridge.client.state = .disconnected
  | .start => True
  | .registerSlave _ _ _ | .commitIp _ | .disconnect => t.sv.bridge.client ≠ none
  | .turn read => t.sv.bridge.client ≠ none ∧
    (t.original.bridge.client.state = .disconnected ∨
      ∀ loop, t.original.starting = some loop → t.original.bridge.client.state = loop.required ∧
        (loop = .ips → Dpi.strayIpConfig t.original.bridge.client read = none))

/-! ### One call -/

/-- What holds of the two whether they agree or not. -/
structure Sound (t : Twin S) : Prop where
  owns : t.sv.ended = none → ∃ left c, t.sv.Owns left c
  consistent : Consistent t.original.bridge.client

variable {t u : Twin S}

theorem step_inv {e : Event S Buf} (hs : t.step e = some u) :
    ∃ sv original, t.sv.step e = some sv ∧ t.original.step e = some original ∧ u = { sv, original } := by
  obtain ⟨sv, hsv, hs⟩ := Option.bind_eq_some_iff.mp hs
  obtain ⟨original, ho, rfl⟩ := Option.map_eq_some_iff.mp hs
  exact ⟨sv, original, hsv, ho, rfl⟩

section
variable {heap : Heap Object} {b : Bridge S} {b' : SwAxi.Bridge S} {st : SwAxi.Status}

omit [Flatbuffers Buf]

/-- A crash of both. -/
theorem Agree.crash (ha : t.Agree) :
    Agree { sv := { t.sv with ended := some .crash }, original := { t.original with crashed := true } } where
  ended := rfl
  starting := ha.starting
  returned := ha.returned
  bridges := ha.bridges

theorem Agree.return_ (ha : t.Agree) (hb : Matches heap b b') :
    Agree { sv := t.sv.return_ (b, .ofNative st) heap, original := t.original.return_ (b', st) } where
  ended := ha.ended
  starting := rfl
  returned := by simp [Session.return_, Original.return_, ha.returned]
  bridges := hb

theorem Agree.again (ha : t.Agree) {loop : StartLoop} (hb : Matches heap b b') :
    Agree {
      sv := { t.sv with heap, bridge := b, starting := some loop }
      original := { t.original with bridge := b', starting := some loop } } where
  ended := ha.ended
  starting := rfl
  returned := ha.returned
  bridges := hb

theorem Agree.going (ha : t.Agree) (hended : t.sv.ended = none) : t.original.crashed = false := by
  have hno := ha.ended
  rw [hended] at hno
  cases hcrashed : t.original.crashed
  · rfl
  · simp [hcrashed] at hno

theorem Agree.not_terminated {sv : Session S} {original : Original S} {text : String}
    (hended : sv.ended = some (.terminate text)) : ¬Agree { sv, original } := by
  intro ha
  have hno := hended.symm.trans ha.ended
  cases hcrashed : original.crashed <;> simp [hcrashed] at hno

/-- The client is there in both. -/
theorem Matches.same {n : Nat} {c : RouterClient} {l : List (Nat × Object)} (hb : Matches heap b b')
    (hclient : b.client = some n) (hh : heap.Holds ((n, .client c) :: l)) : c = b'.client := by
  have hsame := (hh.get List.mem_cons_self).symm.trans (hb.client n hclient)
  cases hsame
  rfl

/-- The client goes on, and nothing else changes. -/
theorem Matches.update {heap' : Heap Object} {n : Nat} {c : RouterClient} {l : List (Nat × Object)} (hb : Matches heap b b')
    (hclient : b.client = some n) (hh : heap'.Holds ((n, .client c) :: l)) :
    Matches heap' b { b' with client := c } where
  client m hm := by
    obtain rfl : n = m := Option.some.inj (hclient.symm.trans hm)
    exact hh.get List.mem_cons_self
  closed hno := by simp [hclient] at hno
  routerInfo := hb.routerInfo
  peers := hb.peers
  ipBlocks := hb.ipBlocks
  slaveMap := hb.slaveMap

/-- The disconnected bridge forgets the blocks and the slaves. -/
theorem Matches.disconnect {heap' : Heap Object} {client : CHandle} (hb : Matches heap b b') (hc : Consistent b'.client)
    (hclient : ∀ n, client = some n → heap'.cells n = some (.client {})) :
    Matches heap' { b with client } b'.disconnect where
  client n hn := by
    rw [hclient n hn]
    simp [SwAxi.Bridge.disconnect, hc.disconnect]
  closed _ := hc.disconnect
  routerInfo := by simp [SwAxi.Bridge.disconnect]
  peers := hb.peers
  ipBlocks := by simp [SwAxi.Bridge.disconnect]
  slaveMap := by simp [SwAxi.Bridge.disconnect]

/-- `start` fails with a client that has dropped its connection. -/
theorem Agree.dropped {n : Nat} {l : List (Nat × Object)} (hI : t.Sound) (ha : t.Agree)
    (hclient : t.sv.bridge.client = some n) (hh : heap.Holds ((n, .client t.original.bridge.client.disconnect) :: l)) :
    Agree {
      sv := t.sv.return_ (t.sv.bridge, .ofNative st) heap
      original := t.original.return_
        ({ t.original.bridge with client := t.original.bridge.client.disconnect }.disconnect, st) } := by
  have hc : t.original.bridge.client.disconnect = {} := hI.consistent.disconnect
  rw [hc] at hh ⊢
  refine ha.return_ (b := t.sv.bridge) ((ha.bridges.update hclient hh).disconnect .new fun m hm => ?_)
  obtain rfl : n = m := Option.some.inj (hclient.symm.trans hm)
  exact hh.get List.mem_cons_self

/-- `start` fails with a client that keeps its connection: only the bridge for C++ disconnects it. -/
theorem agree_kept {n : Nat} {l : List (Nat × Object)} (hI : t.Sound) (ha : t.Agree)
    (hclient : t.sv.bridge.client = some n) (hh : heap.Holds ((n, .client t.original.bridge.client) :: l)) :
    Agree {
      sv := t.sv.return_ (t.sv.bridge, .ofNative st) heap
      original := t.original.return_ (t.original.bridge.disconnect, st) } ↔
    t.original.bridge.client.state = .disconnected := by
  have hc : t.original.bridge.disconnect.client = {} := hI.consistent.disconnect
  constructor
  · intro hu
    have hsame := (hh.get List.mem_cons_self).symm.trans (hu.bridges.client n hclient)
    have hnew : t.original.bridge.client = {} := (Object.client.inj (Option.some.inj hsame)).trans hc
    rw [hnew]
  · intro hstate
    have hnew : t.original.bridge.client = {} := hI.consistent.eq_new hstate
    refine ha.return_ (b := t.sv.bridge) (ha.bridges.disconnect hI.consistent fun m hm => ?_)
    obtain rfl : n = m := Option.some.inj (hclient.symm.trans hm)
    rw [← hnew]
    exact hh.get List.mem_cons_self

end

theorem agree_connect {uri : SvString} {x : ConnectCalls Buf} (hI : t.Sound) (ha : t.Agree)
    (hs : t.step (.connect uri x) = some u) : u.Agree ↔ t.Fits (.connect uri x) := by
  obtain ⟨sv, original, hsv, horiginal, rfl⟩ := step_inv hs
  obtain ⟨hended, -, rfl⟩ := Session.step_connect.mp hsv
  obtain rfl := Original.step_connect horiginal
  obtain ⟨left, c, ho⟩ := hI.owns hended
  have hb := ha.bridges
  by_cases hfits : t.original.bridge.client.state = .disconnected
  · refine iff_of_true ?_ hfits
    have hnew := hI.consistent.eq_new hfits
    cases hc : ({} : RouterClient).connect uri.val x with
    | none =>
      have hcrash : t.original.bridge.connect uri.val x = none := by simp [SwAxi.Bridge.connect, hnew, hc]
      rw [Session.call_of_error (Bridge.connect_crash ho.holds hc), hcrash]
      exact ha.crash
    | some r =>
      obtain ⟨c', si, st⟩ := r
      obtain ⟨heap, heq, hh⟩ := Session.call_of_returns (k := t.sv.return_)
        (Bridge.connect_returns (b := t.sv.bridge) ho.holds hc)
      rw [heq]
      have hclient : ∀ n, some t.sv.heap.next = some n → heap.cells n = some (.client c') := by
        rintro n ⟨⟩
        exact hh.get List.mem_cons_self
      rcases RouterClient.connect_result Consistent.new hc with ⟨herror, rfl⟩ | ⟨rfl, hsi⟩
      · have hcall : t.original.bridge.connect uri.val x = some ({ t.original.bridge with client := c' }, st) := by
          simp [SwAxi.Bridge.connect, SwAxi.Bridge.connected, hnew, hc, herror]
        rw [hcall]
        exact ha.return_ {
          client := hclient
          closed := by simp
          routerInfo := hb.routerInfo
          peers := hb.peers
          ipBlocks := hb.ipBlocks
          slaveMap := hb.slaveMap }
      · have hcall : t.original.bridge.connect uri.val x =
            some ({ t.original.bridge with client := c', routerInfo := si }, {}) := by
          simp [SwAxi.Bridge.connect, SwAxi.Bridge.connected, hnew, hc]
        rw [hcall]
        exact ha.return_ {
          client := hclient
          closed := by simp
          routerInfo := by
            rintro si rfl
            rfl
          peers := hb.peers
          ipBlocks := hb.ipBlocks
          slaveMap := hb.slaveMap }
  · refine iff_of_false (fun hu => ?_) hfits
    have hcall : t.original.bridge.connect uri.val x = some (t.original.bridge,
        ⟨1, "The bridge needs to be disconnected for the connect operation to proceed"⟩) := by
      simp [SwAxi.Bridge.connect, SwAxi.Bridge.connected, RouterClient.connect, RouterClient.dial, hfits]
    rw [hcall] at hu
    cases hc : ({} : RouterClient).connect uri.val x with
    | none =>
      rw [Session.call_of_error (Bridge.connect_crash ho.holds hc)] at hu
      have hcrashed := hu.ended
      simp [Original.call, Original.return_, ha.going hended] at hcrashed
    | some r =>
      obtain ⟨c', si, st⟩ := r
      obtain ⟨heap, heq, hh⟩ := Session.call_of_returns (k := t.sv.return_)
        (Bridge.connect_returns (b := t.sv.bridge) ho.holds hc)
      rw [heq] at hu
      have hsame : Object.client c' = .client t.original.bridge.client :=
        Option.some.inj ((hh.get List.mem_cons_self).symm.trans (hu.bridges.client _ rfl))
      rcases RouterClient.connect_cases Consistent.new hc with ⟨-, hnew⟩ | ⟨hok, -⟩
      · have hclient : c' = {} := hnew
        cases hsame
        exact hfits (by rw [hclient])
      · have hst := hu.returned
        simp only [Session.return_, Original.call, Original.return_, ha.returned, List.map_append,
          List.append_cancel_left_eq] at hst
        have hcode : st.code = 1 := congrArg Status.code (List.cons.inj hst).1
        simp [SwAxi.Status.isError, hcode] at hok

theorem agree_registerSlave {slave : S} {cfg : IpConfig} {x : Exchange Buf} (hI : t.Sound) (ha : t.Agree)
    (hs : t.step (.registerSlave slave cfg x) = some u) : u.Agree ↔ t.Fits (.registerSlave slave cfg x) := by
  obtain ⟨sv, original, hsv, horiginal, rfl⟩ := step_inv hs
  obtain ⟨hended, -, rfl⟩ := Session.step_registerSlave.mp hsv
  obtain rfl := Original.step_registerSlave horiginal
  obtain ⟨left, c, ho⟩ := hI.owns hended
  cases ho with
  | nothing hclient _ =>
    obtain ⟨text, hnull⟩ := Bridge.registerSlave_null slave cfg x (h := t.sv.heap) hclient
    rw [Session.call_of_error hnull]
    exact iff_of_false (Agree.not_terminated rfl) (by simp [Fits, hclient])
  | @client n c hclient hh =>
    refine iff_of_true ?_ (by simp [Fits, hclient])
    obtain rfl := ha.bridges.same hclient hh
    cases hc : t.original.bridge.client.registerIp cfg.toNative x with
    | none =>
      have hcrash : t.original.bridge.registerSlave slave cfg.toNative x = none := by
        simp [SwAxi.Bridge.registerSlave, hc]
      rw [Session.call_of_error (Bridge.registerSlave_crash hclient hh hc), hcrash]
      exact ha.crash
    | some r =>
      obtain ⟨c', id, st⟩ := r
      obtain ⟨heap, heq, hh'⟩ := Session.call_of_returns (k := t.sv.return_)
        (Bridge.registerSlave_returns slave hclient hh hc)
      rw [heq]
      have hb := ha.bridges.update hclient hh'
      rcases RouterClient.registerIp_result hc with herror | hok
      · have herror : st.isError = true := herror
        have hcall : t.original.bridge.registerSlave slave cfg.toNative x =
            some ({ t.original.bridge with client := c' }, st) := by
          simp [SwAxi.Bridge.registerSlave, SwAxi.Bridge.registeredSlave, hc, herror]
        rw [hcall, if_pos herror]
        exact ha.return_ hb
      · obtain rfl : st = {} := hok
        have hcall : t.original.bridge.registerSlave slave cfg.toNative x = some ({ t.original.bridge with
            client := c', slaveMap := Function.update t.original.bridge.slaveMap id (some slave) }, {}) := by
          simp [SwAxi.Bridge.registerSlave, SwAxi.Bridge.registeredSlave, hc]
        rw [hcall, if_neg (by simp)]
        exact ha.return_ {
          client := hb.client
          closed := hb.closed
          routerInfo := hb.routerInfo
          peers := hb.peers
          ipBlocks := hb.ipBlocks
          slaveMap := fun id' slave' hslave => by
            by_cases hid : id' = id
            · subst hid
              simpa using hslave
            · simp only [Function.update_of_ne hid] at hslave ⊢
              exact hb.slaveMap id' slave' hslave }

theorem agree_commitIp {x : Exchange Buf} (hI : t.Sound) (ha : t.Agree) (hs : t.step (.commitIp x) = some u) :
    u.Agree ↔ t.Fits (.commitIp (S := S) x) := by
  obtain ⟨sv, original, hsv, horiginal, rfl⟩ := step_inv hs
  obtain ⟨hended, -, rfl⟩ := Session.step_commitIp.mp hsv
  obtain rfl := Original.step_commitIp horiginal
  obtain ⟨left, c, ho⟩ := hI.owns hended
  cases ho with
  | nothing hclient _ =>
    obtain ⟨text, hnull⟩ := Bridge.commitIp_null x (h := t.sv.heap) hclient
    rw [Session.call_of_error hnull]
    exact iff_of_false (Agree.not_terminated rfl) (by simp [Fits, hclient])
  | @client n c hclient hh =>
    refine iff_of_true ?_ (by simp [Fits, hclient])
    obtain rfl := ha.bridges.same hclient hh
    cases hc : t.original.bridge.client.commitIp x with
    | none =>
      have hcrash : t.original.bridge.commitIp x = none := by simp [SwAxi.Bridge.commitIp, hc]
      rw [Session.call_of_error (Bridge.commitIp_crash hclient hh hc), hcrash]
      exact ha.crash
    | some r =>
      obtain ⟨c', _, st⟩ := r
      obtain ⟨heap, heq, hh'⟩ := Session.call_of_returns (k := t.sv.return_) (Bridge.commitIp_returns hclient hh hc)
      have hcall : t.original.bridge.commitIp x = some ({ t.original.bridge with client := c' }, st) := by
        simp [SwAxi.Bridge.commitIp, SwAxi.Bridge.committed, hc]
      rw [heq, hcall]
      exact ha.return_ (ha.bridges.update hclient hh')

theorem agree_disconnect (hI : t.Sound) (ha : t.Agree) (hs : t.step (.disconnect : Event S Buf) = some u) :
    u.Agree ↔ t.Fits (.disconnect : Event S Buf) := by
  obtain ⟨sv, original, hsv, horiginal, rfl⟩ := step_inv hs
  obtain ⟨hended, -, rfl⟩ := Session.step_disconnect.mp hsv
  obtain rfl := Original.step_disconnect horiginal
  obtain ⟨left, c, ho⟩ := hI.owns hended
  cases ho with
  | nothing hclient _ =>
    obtain ⟨text, hnull⟩ := Bridge.disconnect_null (h := t.sv.heap) hclient
    rw [Session.call_of_error hnull]
    exact iff_of_false (Agree.not_terminated rfl) (by simp [Fits, hclient])
  | @client n c hclient hh =>
    refine iff_of_true ?_ (by simp [Fits, hclient])
    obtain ⟨heap, heq, hh'⟩ := Session.call_of_returns (k := fun bridge heap => { t.sv with heap, bridge })
      (Bridge.disconnect_returns hclient hh)
    rw [heq]
    exact {
      ended := ha.ended
      starting := ha.starting
      returned := ha.returned
      bridges := ha.bridges.disconnect hI.consistent (by simp) }

theorem agree_start (ha : t.Agree) (hs : t.step (.start : Event S Buf) = some u) : u.Agree := by
  obtain ⟨sv, original, hsv, horiginal, rfl⟩ := step_inv hs
  obtain ⟨hended, -, rfl⟩ := Session.step_start.mp hsv
  obtain rfl := Original.step_start horiginal
  exact {
    ended := ha.ended
    starting := rfl
    returned := ha.returned
    bridges := ha.bridges }

theorem agree_peersTurn {read : RouterClient.Received Buf} (hI : t.Sound) (ha : t.Agree) (hended : t.sv.ended = none)
    (hstarting : t.original.starting = some .peers) :
    Agree {
      sv := t.sv.call (t.sv.bridge.startTurn .peers read) t.sv.turned
      original := t.original.call (t.original.bridge.startTurn .peers read) t.original.turned } ↔ t.Fits (.turn read) := by
  have hfits : t.Fits (.turn read) ↔ t.sv.bridge.client ≠ none ∧
      (t.original.bridge.client.state = .disconnected ∨ t.original.bridge.client.state = .committed) := by
    simp [Fits, hstarting, StartLoop.required]
  rw [hfits]
  obtain ⟨left, c, ho⟩ := hI.owns hended
  cases ho with
  | nothing hclient _ =>
    obtain ⟨text, hnull⟩ := Bridge.startTurn_null .peers read (h := t.sv.heap) hclient
    rw [Session.call_of_error hnull]
    exact iff_of_false (Agree.not_terminated rfl) (by simp [hclient])
  | @client n c hclient hh =>
    have hthere : t.sv.bridge.client ≠ none := by simp [hclient]
    obtain rfl := ha.bridges.same hclient hh
    cases hc : t.original.bridge.client.retrievePeerInfo read with
    | none =>
      have hcrash : t.original.bridge.startTurn .peers read = none := by simp [SwAxi.Bridge.startTurn, hc]
      rw [Session.call_of_error (Bridge.peersTurn_crash hclient hh hc), hcrash]
      exact iff_of_true ha.crash ⟨hthere, Or.inr (Dpi.state_of_retrievePeerInfo hc)⟩
    | some r =>
      obtain ⟨c', si, st⟩ := r
      obtain ⟨heap, heq, hh'⟩ := Session.call_of_returns (k := t.sv.turned) (Bridge.peersTurn_returns hclient hh hc)
      have hr : Dpi.Retrieval .committed t.original.bridge.client none c' si st := Dpi.retrievePeerInfo_retrieval hc
      rw [heq]
      simp only [SwAxi.Bridge.startTurn, hc, Option.map_some]
      cases hr with
      | refused hstate _ herror =>
        simp only [Bridge.afterPeer, SwAxi.Bridge.peersTurned, herror, if_true]
        exact (agree_kept hI ha hclient hh').trans (by simp [hthere, hstate])
      | dropped hstate _ herror =>
        simp only [Bridge.afterPeer, SwAxi.Bridge.peersTurned, herror, if_true]
        exact iff_of_true (Agree.dropped hI ha hclient hh') ⟨hthere, Or.inr hstate⟩
      | unknown _ hblock _ => cases hblock
      | fine hstate _ =>
        refine iff_of_true ?_ ⟨hthere, Or.inr hstate⟩
        have hb := ha.bridges.update hclient hh'
        cases si with
        | none => exact ha.again hb
        | some si =>
          exact ha.again {
            client := hb.client
            closed := hb.closed
            routerInfo := hb.routerInfo
            peers := by simp [Bridge.afterPeer, SwAxi.Bridge.peersTurned, ha.bridges.peers]
            ipBlocks := hb.ipBlocks
            slaveMap := hb.slaveMap }

theorem agree_ipsTurn {read : RouterClient.Received Buf} (hI : t.Sound) (ha : t.Agree) (hended : t.sv.ended = none)
    (hstarting : t.original.starting = some .ips) :
    Agree {
      sv := t.sv.call (t.sv.bridge.startTurn .ips read) t.sv.turned
      original := t.original.call (t.original.bridge.startTurn .ips read) t.original.turned } ↔ t.Fits (.turn read) := by
  have hfits : t.Fits (.turn read) ↔ t.sv.bridge.client ≠ none ∧
      (t.original.bridge.client.state = .disconnected ∨ t.original.bridge.client.state = .peerInfoReceived ∧
        Dpi.strayIpConfig t.original.bridge.client read = none) := by
    simp [Fits, hstarting, StartLoop.required]
  rw [hfits]
  obtain ⟨left, c, ho⟩ := hI.owns hended
  cases ho with
  | nothing hclient _ =>
    obtain ⟨text, hnull⟩ := Bridge.startTurn_null .ips read (h := t.sv.heap) hclient
    rw [Session.call_of_error hnull]
    exact iff_of_false (Agree.not_terminated rfl) (by simp [hclient])
  | @client n c hclient hh =>
    have hthere : t.sv.bridge.client ≠ none := by simp [hclient]
    obtain rfl := ha.bridges.same hclient hh
    cases hc : t.original.bridge.client.retrieveIpConfig read with
    | none =>
      have hcrash : t.original.bridge.startTurn .ips read = none := by simp [SwAxi.Bridge.startTurn, hc]
      rw [Session.call_of_error (Bridge.ipsTurn_crash hclient hh hc), hcrash]
      exact iff_of_true ha.crash ⟨hthere, Or.inr (Dpi.state_of_retrieveIpConfig hc)⟩
    | some r =>
      obtain ⟨c', ipc, st⟩ := r
      obtain ⟨heap, heq, hh'⟩ := Session.call_of_returns (k := t.sv.turned) (Bridge.ipsTurn_returns hclient hh hc)
      have hr : Dpi.Retrieval .peerInfoReceived t.original.bridge.client
        (Dpi.strayIpConfig t.original.bridge.client read) c' ipc st := Dpi.retrieveIpConfig_retrieval hc
      rw [heq]
      simp only [SwAxi.Bridge.startTurn, hc, Option.map_some]
      have hh' := hh'.perm List.perm_append_comm
      cases hr with
      | refused hstate _ herror =>
        simp only [Bridge.afterIp, SwAxi.Bridge.ipsTurned, herror, if_true]
        exact (agree_kept hI ha hclient hh').trans (by simp [hthere, hstate])
      | dropped hstate hnothing herror =>
        simp only [Bridge.afterIp, SwAxi.Bridge.ipsTurned, herror, if_true]
        exact iff_of_true (Agree.dropped hI ha hclient hh') ⟨hthere, Or.inr ⟨hstate, hnothing⟩⟩
      | unknown hstate hblock herror =>
        simp only [Bridge.afterIp, SwAxi.Bridge.ipsTurned, herror, if_true]
        exact (agree_kept hI ha hclient hh').trans (by simp [hthere, Option.isSome_iff_ne_none.mp hblock])
      | fine hstate hnothing =>
        refine iff_of_true ?_ ⟨hthere, Or.inr ⟨hstate, hnothing⟩⟩
        have hb := ha.bridges.update hclient hh'
        cases ipc with
        | none =>
          exact ha.return_ {
            client := hb.client
            closed := hb.closed
            routerInfo := hb.routerInfo
            peers := hb.peers
            ipBlocks := hb.ipBlocks
            slaveMap := hb.slaveMap }
        | some ipc =>
          obtain ⟨forgotten, hblocks⟩ := hb.ipBlocks
          exact ha.again {
            client := hb.client
            closed := hb.closed
            routerInfo := hb.routerInfo
            peers := hb.peers
            ipBlocks := ⟨forgotten, by simp [Bridge.afterIp, SwAxi.Bridge.ipsTurned, ← hblocks]⟩
            slaveMap := hb.slaveMap }

/-- The two bridges go on to agree exactly where the call fits. -/
theorem agree_step {e : Event S Buf} (hI : t.Sound) (ha : t.Agree) (hs : t.step e = some u) : u.Agree ↔ t.Fits e := by
  cases e with
  | connect uri x => exact agree_connect hI ha hs
  | registerSlave slave cfg x => exact agree_registerSlave hI ha hs
  | commitIp x => exact agree_commitIp hI ha hs
  | start => exact iff_of_true (agree_start ha hs) trivial
  | turn read =>
    obtain ⟨sv, original, hsv, horiginal, rfl⟩ := step_inv hs
    obtain ⟨hended, loop, hstarting, rfl⟩ := Session.step_turn.mp hsv
    have hstarting' : t.original.starting = some loop := ha.starting.symm.trans hstarting
    obtain rfl := Original.step_turn hstarting' horiginal
    cases loop with
    | peers => exact agree_peersTurn hI ha hended hstarting'
    | ips => exact agree_ipsTurn hI ha hended hstarting'
  | disconnect => exact agree_disconnect hI ha hs

/-! ### Whole runs -/

theorem Sound.step {e : Event S Buf} (hI : t.Sound) (hs : t.step e = some u) : u.Sound := by
  obtain ⟨sv, original, hsv, horiginal, rfl⟩ := step_inv hs
  refine ⟨fun hended => ?_, Original.step_consistent hI.consistent horiginal⟩
  obtain ⟨left, c, ho⟩ := hI.owns (Session.ended_of_step hsv)
  rcases ho.step hsv with ⟨-, -, text, hterminate⟩ | ⟨-, hcrash | ⟨-, c', ho'⟩⟩
  · exact absurd (hended.symm.trans hterminate) (by simp)
  · exact absurd (hended.symm.trans hcrash) (by simp)
  · exact ⟨_, c', ho'⟩

omit [Flatbuffers Buf] in
theorem Sound.new (name : SvString) : (new (S := S) name).Sound where
  owns _ := ⟨[], none, .new name⟩
  consistent := .new

omit [Flatbuffers Buf] in
theorem Agree.new (name : SvString) : (new (S := S) name).Agree where
  ended := rfl
  starting := rfl
  returned := rfl
  bridges := {
    client := by simp [Twin.new, Session.new]
    closed := fun _ => rfl
    routerInfo := by simp [Twin.new]
    peers := rfl
    ipBlocks := List.suffix_refl _
    slaveMap := by simp [Twin.new] }

/-- Over any calls of a test bench, the two bridges agree all along exactly when every call is one that fits. -/
theorem agree_iff (name : SvString) (es : List (Event S Buf)) :
    EveryState step Agree (new name) es ↔ EveryStep step Fits (new name) es :=
  everyState_iff_everyStep (I := Sound) (E := fun _ => True) (fun _ _ _ hI _ hs => hI.step hs)
    (fun _ _ _ hI _ ha hs => agree_step hI ha hs) (.new name) (.new name) (fun _ _ => trivial)

end Twin

end Sv

end SwAxi
