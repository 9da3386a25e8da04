import SwAxi.Opening
import SwAxi.Lookup

/-! The blocks of a router that has one client: they are those that the client's user asked for, in turn. -/

namespace SwAxi
open Wire (Flatbuffers)
open Wire.Flatbuffers (getRoot)
open Transition

/-! ### The registry along a handshake -/

/-- Whatever a step does to the registry, no sized block is lost from the map, unless a range wraps. -/
theorem RouterRun.step_keyed {Buf : Type} [Flatbuffers Buf] {s t : RouterRun Buf} {e : RouterRun.Event Buf}
    (h : s.router.NoWraps → s.router.Keyed) (hs : s.step e = some t) : t.router.NoWraps → t.router.Keyed := by
  rcases step_inv hs with ⟨i, c, c', -, -, -, -, heq⟩ | ⟨msgArr, i, ip, res, -, -, hreg, -⟩ | ⟨n, heq, -⟩
  · rw [heq]
    exact h
  · intro hw
    have hr : s.router.register ip = some t.router := by simp [Router.register, hreg]
    exact (h (Router.NoWraps.of_register hr hw)).register hr hw
  · rw [heq]
    exact h

/-! ### The calls of a user -/

section
variable {S Buf : Type}

/-- The registrations that a user is still to make, or at. -/
def Calling.undone (regs : List (Registration S)) : Calling S → List (Registration S)
  | .connect _ => regs
  | .register reg rest _ => reg :: rest
  | .commitIp _ | .start _ | .started | .failed => []

/-- The user has its blocks registered in turn, a slave that comes first being kept under the id 0. -/
structure Party.InTurn (p : Party S Buf) : Prop where
  calls : p.calling ≠ .failed → ∃ made, p.regs = made ++ p.calling.undone p.regs ∧ p.registered.length = made.length
  slave : ∀ slave config (names : List String), p.regs = .slave slave config :: names.map .master →
    p.registered ≠ [] → p.bridge.slaveMap 0 = some slave

namespace Party
variable {p p' : Party S Buf}

theorem undone_nextCall (regs rest : List (Registration S)) : (nextCall rest).undone regs = rest := by
  cases rest <;> rfl

/-- The user goes on without a new block. -/
theorem InTurn.goes_on (h : p.InTurn) (hregs : p'.regs = p.regs) (hregistered : p'.registered = p.registered)
    (hslaves : p'.bridge.slaveMap = p.bridge.slaveMap)
    (hcalling : p'.calling = .failed ∨ p.calling ≠ .failed ∧ p'.calling.undone p.regs = p.calling.undone p.regs) :
    p'.InTurn where
  calls hno := by
    rcases hcalling with hfailed | ⟨hcalling, hundone⟩
    · exact absurd hfailed hno
    · rw [hregs, hundone, hregistered]
      exact h.calls hcalling
  slave := by
    rw [hregs, hregistered, hslaves]
    exact h.slave

variable [Flatbuffers Buf]

theorem InTurn.call (h : p.InTurn) {out : List Buf} (hc : p.call = some (p', out)) : p'.InTurn := by
  obtain ⟨calling, rfl, hcalling⟩ := call_inv hc
  refine h.goes_on rfl rfl rfl ?_
  rcases hcalling with hfailed | ⟨hcalling, rfl⟩ | ⟨reg, rest, hcalling, rfl⟩ | ⟨hcalling, rfl⟩
  · exact Or.inl hfailed
  · exact Or.inr ⟨by simp [hcalling], by simp [hcalling, Calling.undone]⟩
  · exact Or.inr ⟨by simp [hcalling], by simp [hcalling, Calling.undone]⟩
  · exact Or.inr ⟨by simp [hcalling], by simp [hcalling, Calling.undone]⟩

/-- A block under the id that comes next. -/
theorem InTurn.acked (h : p.InTurn) {reg : Registration S} {rest : List (Registration S)} {id : UInt64}
    (hcalling : p.calling = .register reg rest true) (hstate : p.bridge.client.state = .connected)
    (hid : id.toNat = p.registered.length) {b : Bridge S}
    (hb : p.register reg (Client.ackIpInfoMessage id : Buf) = some (b, {})) :
    InTurn { p with bridge := b, calling := nextCall rest, registered := p.registered ++ [(id, reg.config)] } := by
  obtain ⟨made, hmade, hlen⟩ := h.calls (by simp [hcalling])
  simp only [hcalling, Calling.undone] at hmade
  refine ⟨fun _ => ⟨made ++ [reg], ?_, by simp [hlen]⟩, fun slave config names hregs _ => ?_⟩
  · simp [undone_nextCall, hmade]
  · have hsplit : made ++ reg :: rest = .slave slave config :: names.map Registration.master := hmade.symm.trans hregs
    cases made with
    | nil =>
      -- The slave is the first.
      obtain ⟨rfl, -⟩ := List.cons.inj hsplit
      obtain rfl : { p.bridge with slaveMap := Function.update p.bridge.slaveMap id (some slave) } = b := by
        simpa [register, Bridge.registerSlave, Bridge.registeredSlave, registerIp_ack hstate] using hb
      obtain rfl : id = 0 := UInt64.toNat_inj.mp (hid.trans hlen)
      simp
    | cons x made =>
      obtain ⟨-, hmasters⟩ := List.cons.inj hsplit
      have hmem : reg ∈ names.map Registration.master := by
        rw [← hmasters]
        exact List.mem_append_right made List.mem_cons_self
      obtain ⟨name, -, rfl⟩ := List.mem_map.mp hmem
      obtain rfl : { p.bridge with
          masterMap := Function.update p.bridge.masterMap id (some ((p.bridge.masterMap id).getD {})) } = b := by
        simpa [register, Bridge.registerMaster, Bridge.registeredMaster, registerIp_ack hstate] using hb
      refine h.slave slave config names hregs fun hnil => ?_
      rw [hnil] at hlen
      cases hlen

variable {r : RouterRun Buf} {i : Nat} {up down : List Buf} {msgArr : Buf}

/-- The messages of the commit bring no new block. -/
theorem InTurn.stream {infos : List SystemInfo} {ips : List IpInfo} {left : List Buf} (h : p.InTurn)
    (hstream : Stream infos ips p (msgArr :: left)) (hr : p.reply msgArr = some p') :
    (getRoot msgArr).getType ≠ .ipAck ∧ p'.regs = p.regs ∧ p'.registered = p.registered ∧ p'.InTurn := by
  obtain ⟨_, _, _, _, _, calling, _, _, rfl, hack, -, -, hbefore, hafter⟩ := hstream.reply_inv hr
  refine ⟨hack, rfl, rfl, h.goes_on rfl rfl rfl (Or.inr ?_)⟩
  have hnone : p.calling ≠ .failed ∧ p.calling.undone p.regs = [] := by
    rcases hbefore with hcalling | ⟨loop, hcalling⟩ <;> simp [hcalling, Calling.undone]
  have hnone' : calling.undone p.regs = [] := by
    rcases hafter with ⟨loop, rfl⟩ | ⟨rfl, -⟩ <;> rfl
  exact ⟨hnone.1, hnone'.trans hnone.2.symm⟩

/-- A reply acknowledges the block that the user is at, or there is no new block. -/
theorem InTurn.reply (h : p.InTurn) (hphase : Phase r i p up (msgArr :: down)) (hr : p.reply msgArr = some p')
    (hid : (getRoot msgArr).getType = .ipAck → (getRoot msgArr).getIpId.toNat = p.registered.length) :
    p'.InTurn ∧ p'.regs = p.regs ∧
      if (getRoot msgArr).getType = .ipAck then down = [] ∧ p'.registered.length = p.registered.length + 1
      else p'.registered = p.registered := by
  cases hphase.takes hr with
  | greeted calling blank stage hup hdown =>
    have hundone : p.calling.undone p.regs = p.regs := by
      rw [calling]
      rfl
    refine ⟨h.goes_on rfl rfl rfl (Or.inr ⟨by simp [calling], ?_⟩), rfl, ?_⟩
    · exact (undone_nextCall p.regs p.regs).trans hundone.symm
    · rw [if_neg (by simp [getType_systemInfoMessage])]
  | acked reg rest id b calling state blank stage hup hdown stored hreg =>
    rw [getType_ackIpInfoMessage, getIpId_ackIpInfoMessage] at hid
    refine ⟨h.acked calling state (hid rfl) hreg, rfl, ?_⟩
    rw [if_pos (getType_ackIpInfoMessage id)]
    exact ⟨hdown, by simp⟩
  | refused reg rest err calling state stage hup hdown =>
    refine ⟨h.goes_on rfl rfl rfl (Or.inl rfl), rfl, ?_⟩
    rw [if_neg (by simp [getType_createErrorMessage])]
  | streams msgArr p' stage hup stream hr =>
    obtain ⟨hack, hregs, hregistered, hturn⟩ := h.stream stream hr
    exact ⟨hturn, hregs, by rw [if_neg hack, hregistered]⟩

end Party

end

/-! ### The blocks -/

section
variable {Buf : Type} [Flatbuffers Buf]

def isIpAck (msgArr : Buf) : Bool := decide ((getRoot msgArr).getType = .ipAck)

theorem countP_isIpAck_concat {msgs : List Buf} {msgArr : Buf} (h : (getRoot msgArr).getType ≠ .ipAck) :
    (msgs ++ [msgArr]).countP isIpAck = msgs.countP isIpAck := by
  simp [isIpAck, h]

end

namespace Handshake
variable {S Buf : Type} [Flatbuffers Buf] {h h' : Handshake S Buf} {regs : List (Registration S)}

/-- The one client has its blocks registered in turn, the last of which may still have to be acknowledged. -/
structure Rostered (regs : List (Registration S)) (h : Handshake S Buf) : Prop where
  one : h.router.router.clients.length = 1
  regs : (h.parties 0).regs = regs
  keyed : h.router.router.NoWraps → h.router.router.Keyed
  configs : h.router.router.ips.map IpInfo.config <+: (h.parties 0).regs.map fun reg => reg.config.registered
  count : h.router.router.ips.length = (h.parties 0).registered.length + (h.toClient 0).countP isIpAck
  acks : ∀ msgArr ∈ h.toClient 0, (getRoot msgArr).getType = .ipAck →
    (getRoot msgArr).getIpId.toNat = (h.parties 0).registered.length
  turn : (h.parties 0).InTurn

theorem Rostered.eq_zero (hr : h.Rostered regs) {i : Nat} (hi : i < h.router.router.clients.length) : i = 0 := by
  have hone := hr.one
  omega

/-- A step without a new block. -/
theorem Rostered.goes_on (hr : h.Rostered regs) (hone : h'.router.router.clients.length = h.router.router.clients.length)
    (hkeyed : h'.router.router.NoWraps → h'.router.router.Keyed) (hips : h'.router.router.ips = h.router.router.ips)
    (hregs : (h'.parties 0).regs = (h.parties 0).regs) (hregistered : (h'.parties 0).registered = (h.parties 0).registered)
    (hcount : (h'.toClient 0).countP isIpAck = (h.toClient 0).countP isIpAck)
    (hacks : ∀ msgArr ∈ h'.toClient 0, (getRoot msgArr).getType = .ipAck → msgArr ∈ h.toClient 0)
    (hturn : (h'.parties 0).InTurn) : h'.Rostered regs where
  one := hone.trans hr.one
  regs := hregs.trans hr.regs
  keyed := hkeyed
  configs := by
    rw [hips, hregs]
    exact hr.configs
  count := by
    rw [hips, hregistered, hcount]
    exact hr.count
  acks msgArr hmem hack := by
    rw [hregistered]
    exact hr.acks msgArr (hacks msgArr hmem hack) hack
  turn := hturn

/-- `Run` answers the client, which acknowledges nothing. -/
theorem Rostered.answered (hro : h.Rostered regs) (hdown : h.toClient 0 = []) {r' : RouterRun Buf}
    {replies rest : List Buf} (hkeyed : r'.router.NoWraps → r'.router.Keyed)
    (hone : r'.router.clients.length = h.router.router.clients.length) (hips : r'.router.ips = h.router.router.ips)
    (hreplies : ∀ reply ∈ replies, (getRoot reply).getType ≠ .ipAck) :
    Rostered regs { h with
      router := r'
      toRouter := Function.update h.toRouter 0 rest
      toClient := Function.update h.toClient 0 (h.toClient 0 ++ replies) } := by
  have hno : ∀ reply ∈ replies, isIpAck reply = false := fun reply hmem => by simp [isIpAck, hreplies reply hmem]
  refine hro.goes_on hone hkeyed hips rfl rfl ?_ (fun reply hmem hack => ?_) hro.turn
  · simpa [hdown] using hno
  · have hmem : reply ∈ replies := by simpa [hdown] using hmem
    exact absurd hack (hreplies reply hmem)

/-- `Run` stores the block that the user is at, and acknowledges it. -/
theorem Rostered.stored (hro : h.Rostered regs) (hdown : h.toClient 0 = []) {reg : Registration S}
    {more : List (Registration S)} (hcalling : (h.parties 0).calling = .register reg more true) {r' : RouterRun Buf}
    {ip : IpInfo} {id : UInt64} {rest : List Buf} (hkeyed : r'.router.NoWraps → r'.router.Keyed)
    (hone : r'.router.clients.length = h.router.router.clients.length)
    (hips : r'.router.ips = h.router.router.ips ++ [ip]) (hip : ip.config = reg.config.registered)
    (hid : id.toNat = h.router.router.ips.length) :
    Rostered regs { h with
      router := r'
      toRouter := Function.update h.toRouter 0 rest
      toClient := Function.update h.toClient 0 (h.toClient 0 ++ [Client.ackIpInfoMessage id]) } := by
  have hcount : h.router.router.ips.length = (h.parties 0).registered.length := by
    simpa [hdown] using hro.count
  obtain ⟨made, hmade, hlen⟩ := hro.turn.calls (by simp [hcalling])
  simp only [hcalling, Calling.undone] at hmade
  have hconfigs : h.router.router.ips.map IpInfo.config = made.map fun reg => reg.config.registered := by
    have htake := List.prefix_iff_eq_take.mp hro.configs
    rw [List.length_map, hcount, hlen, hmade, List.map_append] at htake
    rw [htake, List.take_left' (by simp)]
  refine ⟨hone.trans hro.one, hro.regs, hkeyed, ?_, ?_, fun reply hmem _ => ?_, hro.turn⟩
  · simp only [hips, hmade, List.map_append, List.map_cons, List.map_nil, hconfigs, hip]
    exact (List.prefix_append_right_inj _).mpr (List.prefix_append [_] _)
  · simp [hdown, hips, hcount, isIpAck, getType_ackIpInfoMessage]
  · obtain rfl : reply = Client.ackIpInfoMessage id := by simpa [hdown] using hmem
    rw [getIpId_ackIpInfoMessage, hid, hcount]

theorem Rostered.routerReceives {infos : List SystemInfo} (hro : h.Rostered regs) (hI : h.Inv infos)
    (hs : h.routerReceives = some h') : h'.Rostered regs := by
  obtain ⟨i, hreading, hs⟩ := Option.bind_eq_some_iff.mp hs
  split at hs
  · cases hs
  · rename_i msgArr rest hup
    obtain ⟨⟨r', replies⟩, hr, rfl⟩ := Option.map_eq_some_iff.mp hs
    have hi := hI.reading_lt hreading
    obtain rfl := hro.eq_zero hi
    have hc := List.getElem?_eq_getElem hi
    have hkeyed : r'.router.NoWraps → r'.router.Keyed := by
      have hstep : h.router.step (.receive msgArr) = some r' := by simp [RouterRun.step, hr]
      exact RouterRun.step_keyed hro.keyed hstep
    obtain ⟨-, hdown, -, hmsg⟩ := hI.reads hreading hup
    rcases hmsg with ⟨hstage, rfl, -⟩ | ⟨reg, more, hstage, rfl, calling, -⟩ | ⟨hstage, rfl, -⟩
    · rw [RouterRun.receive_systemInfo _ hstage hc] at hr
      obtain ⟨rfl, rfl⟩ := Prod.mk.inj (Option.some.inj hr)
      exact hro.answered hdown hkeyed (by simp) rfl (by simp [getType_systemInfoMessage])
    · rw [RouterRun.receive_ipInfo _ hstage hc] at hr
      rcases RouterRun.registerIp_cases (i := 0) hI.sound.kept (receivedIp reg.config h.router.router.clients[0].id) with
        hres | ⟨err, hres⟩ | ⟨id, hres, hid⟩
      · rw [hres] at hr
        obtain ⟨rfl, rfl⟩ := Prod.mk.inj (Option.some.inj hr)
        exact hro.answered hdown hkeyed rfl rfl (by simp)
      · rw [hres] at hr
        obtain ⟨rfl, rfl⟩ := Prod.mk.inj (Option.some.inj hr)
        exact hro.answered hdown hkeyed (by simp) (by simp) (by simp [getType_createErrorMessage])
      · rw [hres] at hr
        obtain ⟨rfl, rfl⟩ := Prod.mk.inj (Option.some.inj hr)
        exact hro.stored hdown calling hkeyed (by simp) (by simp; rfl) rfl hid
    · rw [RouterRun.receive_commit hstage hc] at hr
      obtain ⟨rfl, rfl⟩ := Prod.mk.inj (Option.some.inj hr)
      exact hro.answered hdown hkeyed rfl rfl (by simp)

theorem Rostered.step {infos : List SystemInfo} (hro : h.Rostered regs) (hI : h.Inv infos) (hrolled : h.Rolled) {e : Event}
    (hs : h.step e = some h') : h'.Rostered regs := by
  cases e with
  | routerReceives => exact hro.routerReceives hI hs
  | routerWrites =>
    obtain ⟨⟨r', k, msgArr⟩, hw, rfl⟩ := Option.map_eq_some_iff.mp hs
    obtain ⟨-, -, hno⟩ := hrolled.tallied.write hw
    obtain ⟨rest, -, rfl⟩ := write_cases hw
    refine hro.goes_on rfl hro.keyed rfl rfl rfl ?_ ?_ hro.turn
    · by_cases hk : 0 = k
      · subst hk
        simp only [Function.update_self, countP_isIpAck_concat hno]
      · simp only [Function.update_of_ne hk]
    · intro reply hmem hack
      by_cases hk : 0 = k
      · subst hk
        simp only [Function.update_self] at hmem
        rcases List.mem_append.mp hmem with hmem | hmem
        · exact hmem
        · rw [List.mem_singleton.mp hmem] at hack
          exact absurd hack hno
      · simpa only [Function.update_of_ne hk] using hmem
  | partyCalls i =>
    simp only [Handshake.step] at hs
    split at hs
    · rename_i hi
      obtain rfl := hro.eq_zero hi
      obtain ⟨⟨p, out⟩, hc, rfl⟩ := Option.map_eq_some_iff.mp hs
      obtain ⟨calling, rfl, -⟩ := Party.call_inv hc
      exact hro.goes_on rfl hro.keyed rfl (by simp) (by simp) rfl (fun _ hmem _ => hmem)
        (by simpa using hro.turn.call hc)
    · cases hs
  | partyReads i =>
    simp only [Handshake.step] at hs
    split at hs
    · rename_i hi
      obtain rfl := hro.eq_zero hi
      unfold Handshake.partyReads at hs
      split at hs
      · cases hs
      · rename_i msgArr rest hdown
        obtain ⟨p, hr, rfl⟩ := Option.map_eq_some_iff.mp hs
        have hphase := hI.phases 0 hi
        rw [hdown] at hphase
        have hid : (getRoot msgArr).getType = .ipAck → _ := hro.acks msgArr (hdown ▸ List.mem_cons_self)
        obtain ⟨hturn, hregs, hregistered⟩ := hro.turn.reply hphase hr hid
        split at hregistered
        · rename_i hack
          obtain ⟨rfl, hlen⟩ := hregistered
          have hcount := hro.count
          rw [hdown, List.countP_singleton, isIpAck, decide_eq_true hack, if_pos rfl] at hcount
          refine ⟨hro.one, by simpa [hregs] using hro.regs, hro.keyed, ?_, ?_, ?_, by simpa using hturn⟩
          · simpa [hregs] using hro.configs
          · simpa [hlen] using hcount
          · simp
        · rename_i hack
          refine hro.goes_on rfl hro.keyed rfl (by simpa using hregs) (by simpa using hregistered) ?_
            (fun reply hmem _ => ?_) (by simpa using hturn)
          · simp only [Function.update_self]
            rw [hdown, List.countP_cons_of_neg (by simp [isIpAck, hack])]
          · simp only [Function.update_self] at hmem
            rw [hdown]
            exact List.mem_cons_of_mem _ hmem
    · cases hs

theorem Fresh.rostered (hf : h.Fresh) (hone : h.router.router.clients.length = 1) :
    h.Rostered (h.parties 0).regs where
  one := hone
  regs := rfl
  keyed _ := by simp [Router.Keyed, hf.router.router.ips]
  configs := by simp [hf.router.router.ips]
  count := by simp [hf.router.router.ips, hf.logs, hf.toClient]
  acks := by simp [hf.toClient]
  turn :=
    { calls := fun _ => ⟨[], by simp [hf.calling, Calling.undone], by simp [hf.logs]⟩
      slave := fun _ _ _ _ hno => absurd (hf.logs 0).1 hno }

theorem Fresh.run_rostered {h₀ : Handshake S Buf} (hf : h₀.Fresh) (hone : h₀.router.router.clients.length = 1)
    {es : List Event} (hr : run Handshake.step h₀ es = some h) :
    h.Inv h₀.infos ∧ h.Rolled ∧ h.Rostered (h₀.parties 0).regs := by
  have keep : ∀ (h : Handshake S Buf) e h', (h.Inv h₀.infos ∧ h.Rolled ∧ h.Rostered (h₀.parties 0).regs) →
      h.step e = some h' → h'.Inv h₀.infos ∧ h'.Rolled ∧ h'.Rostered (h₀.parties 0).regs :=
    fun h e h' hh hs => ⟨hh.1.step hs, hh.2.1.step hh.1 hs, hh.2.2.step hh.1 hh.2.1 hs⟩
  exact run_invariant keep ⟨hf.inv, hf.rolled, hf.rostered hone⟩ hr

/-- Once the client is started, its blocks are at the router, and the slave that it began with is there under the id
    0. -/
theorem Rostered.started {slave : S} {config : IpConfig} {names : List String}
    (hro : h.Rostered (.slave slave config :: names.map .master)) {infos : List SystemInfo} (hI : h.Inv infos)
    (hstarted : (h.parties 0).calling = .started) : (h.parties 0).bridge.slaveMap 0 = some slave ∧
      h.router.router.ips.map IpInfo.config = config.registered :: names.map Bridge.masterConfig := by
  obtain ⟨-, -, hdown, -⟩ := hI.started (by rw [hro.one]; exact Nat.one_pos) hstarted
  obtain ⟨made, hmade, hlen⟩ := hro.turn.calls (by simp [hstarted])
  simp only [hstarted, Calling.undone, List.append_nil, hro.regs] at hmade
  have hcount : h.router.router.ips.length = made.length := by
    rw [hro.count, hdown, hlen]
    rfl
  refine ⟨hro.turn.slave slave config names hro.regs fun hnil => ?_, ?_⟩
  · rw [hnil, ← hmade] at hlen
    cases hlen
  · have hall := hro.configs.eq_of_length (by rw [List.length_map, List.length_map, hro.regs, hmade, hcount])
    rw [hall, hro.regs]
    simp [Registration.config, IpConfig.registered, Bridge.masterConfig]

end Handshake

/-! ### The search -/

namespace Router
variable {r : Router} {ip : IpInfo} {rest order : List IpInfo} {address size : UInt64}

/-- Where only the first block has addresses, what is found lies in it. -/
theorem findTarget_head (hk : r.Kept) (hkeyed : r.NoWraps → r.Keyed) (hips : r.ips = ip :: rest) (hw : ip.NoWrap)
    (hrest : ∀ b ∈ rest, b.address = 0 ∧ b.size = 0) (horder : r.IterationOrder order) (hpos : 0 < size.toNat)
    (hbound : address.toNat + size.toNat < 2 ^ 64) : (∃ found, findTarget order address size = .ok found) ↔
      ip.address.toNat ≤ address.toNat ∧ address.toNat + size.toNat ≤ ip.address.toNat + ip.size.toNat := by
  have hempty : ∀ b ∈ rest, b.size.toNat = 0 := fun b hb => by
    rw [(hrest b hb).2]
    rfl
  have hnoWraps : r.NoWraps := by
    intro b hb
    rw [hips] at hb
    rcases List.mem_cons.mp hb with rfl | hb
    · exact hw
    · obtain ⟨haddr, hsize⟩ := hrest b hb
      rw [IpInfo.NoWrap, haddr, hsize]
      decide
  have hdisjoints : r.Disjoints := by
    rw [Disjoints, hips, List.pairwise_cons]
    refine ⟨fun b hb => IpInfo.range_disjoint_iff.mpr (Or.inr (Or.inl (hempty b hb))), ?_⟩
    exact List.pairwise_of_forall_mem_list fun a ha b _ => IpInfo.range_disjoint_iff.mpr (Or.inl (hempty a ha))
  have hmem : ip ∈ r.ips := hips ▸ List.mem_cons_self
  by_cases ha : address.toNat ∈ ip.range
  · have hlow : ip.address.toNat ≤ address.toNat := ha.1
    rw [findTarget_of_mem hk (hkeyed hnoWraps) hdisjoints hnoWraps horder hbound hmem ha]
    by_cases hspans : ip.address.toNat + ip.size.toNat < address.toNat + size.toNat
    · rw [if_pos hspans]
      exact iff_of_false (by simp) (by omega)
    · rw [if_neg hspans]
      exact iff_of_true ⟨_, rfl⟩ (by omega)
  · have hnone : ∀ b ∈ r.ips, address.toNat ∉ b.range := by
      intro b hb hab
      rw [hips] at hb
      rcases List.mem_cons.mp hb with rfl | hb
      · exact ha hab
      · have hsize := hempty b hb
        obtain ⟨hlow, hhigh⟩ := hab
        omega
    rw [findTarget_of_not_mem hk hnoWraps horder hnone]
    refine iff_of_false (by simp) fun hin => ha ⟨hin.1, ?_⟩
    omega

end Router

end SwAxi
