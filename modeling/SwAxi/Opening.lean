import SwAxi.Agreement
import SwAxi.System
import SwAxi.Matching

/-! The opening of the closed system: the ids under which the bridges keep what they have registered, and what a
completed handshake leaves for the threads and goroutines to start from. -/

namespace SwAxi
open Wire (Flatbuffers)
open Wire.Flatbuffers (getRoot)
open Transition

/-! ### Where the blocks of the router came from -/

namespace RouterRun
variable {Buf : Type} [Flatbuffers Buf] {s t : RouterRun Buf}

/-- Every block arrived from some client, all under the same `Id`, and no commit acknowledges a block. -/
structure Tallied (s : RouterRun Buf) : Prop where
  length : s.arrived.length = s.router.ips.length
  owners : ∀ ip ∈ s.router.ips, ip.clientId = 0
  commits : ∀ k rest, s.stage = .commit k rest → ∀ msgArr ∈ rest, (getRoot msgArr).getType ≠ .ipAck

theorem getType_commitMessages {infos : List SystemInfo} {ips : List IpInfo} {msgArr : Buf}
    (h : msgArr ∈ Client.commitMessages infos ips) : (getRoot msgArr).getType ≠ .ipAck := by
  simp only [Client.commitMessages, List.mem_cons, List.mem_append, List.mem_map, List.not_mem_nil, or_false] at h
  rcases h with rfl | ⟨si, -, rfl⟩ | rfl | ⟨ip, -, rfl⟩ | rfl
  · simp [getType_ackMessage]
  · simp [getType_systemInfoMessage]
  · simp [getType_ackMessage]
  · simp [getType_ipMessage]
  · simp [getType_ackMessage]

theorem commitStage_commits {i k : Nat} {rest : List Buf} (h : s.commitStage i = .commit k rest) :
    ∀ msgArr ∈ rest, (getRoot msgArr).getType ≠ .ipAck := by
  unfold commitStage at h
  split at h
  · cases h
    exact fun msgArr hmem => getType_commitMessages hmem
  · cases h

/-- What the router answers to a client, an acknowledged block being one that arrived from it. -/
theorem Tallied.receive (h : s.Tallied) (hs : s.Sound) {i : Nat} (hstage : s.stage = .hello i ∨ s.stage = .register i)
    {msgArr : Buf} {replies : List Buf} (hr : s.receive msgArr = some (t, replies)) :
    t.Tallied ∧ s.arrived <+: t.arrived ∧ ∀ reply ∈ replies, (getRoot reply).getType = .ipAck →
      t.arrived[(getRoot reply).getIpId.toNat]? = some i := by
  have hquiet : ∀ {u : RouterRun Buf} {out}, some (u, out) = some (t, replies) → u.arrived = s.arrived →
      u.router.ips = s.router.ips →
      (∀ k rest, u.stage = .commit k rest → ∀ msgArr ∈ rest, (getRoot msgArr).getType ≠ .ipAck) →
      (∀ reply ∈ out, (getRoot reply).getType ≠ .ipAck) →
      t.Tallied ∧ s.arrived <+: t.arrived ∧ ∀ reply ∈ replies, (getRoot reply).getType = .ipAck →
        t.arrived[(getRoot reply).getIpId.toNat]? = some i := by
    rintro u out heq harrived hips hcommits hout
    obtain ⟨rfl, rfl⟩ := Prod.mk.inj (Option.some.inj heq)
    exact ⟨⟨by rw [harrived, hips, h.length], by rw [hips]; exact h.owners, hcommits⟩, by rw [harrived],
      fun reply hmem hack => absurd hack (hout reply hmem)⟩
  have hfail : some s.fail = some (t, replies) → _ := fun heq => hquiet heq rfl rfl (by simp) (by simp)
  rcases hstage with hstage | hstage
  · simp only [RouterRun.receive, hstage, receiveHello] at hr
    split at hr
    · exact hfail hr
    · rename_i c hc
      split at hr
      · rename_i c' reply hshake
        have hreply : (getRoot reply).getType ≠ .ipAck := by
          unfold Client.shakeHands at hshake
          simp only at hshake
          split at hshake
          · simp at hshake
          · simp only [Option.bind_eq_bind, Option.bind_eq_some_iff, Option.pure_def, Option.some.injEq,
              Except.ok.injEq, Prod.mk.injEq] at hshake
            obtain ⟨si, -, -, rfl⟩ := hshake
            simp [getType_systemInfoMessage]
        refine hquiet hr rfl rfl ?_ ?_
        · simp
        · simpa using hreply
      · exact hfail hr
  · simp only [RouterRun.receive, hstage, receiveIp] at hr
    split at hr
    · exact hfail hr
    · rename_i c hc
      split at hr
      · refine hquiet hr rfl rfl (fun k rest hcommit => ?_) (by simp)
        split at hcommit
        · cases hcommit
        · exact commitStage_commits hcommit
      · rename_i ip hip
        rcases registerIp_cases (i := i) hs.kept ip with heq | ⟨err, heq⟩ | ⟨id, heq, hid⟩ <;> rw [heq] at hr
        · exact hfail hr
        · refine hquiet hr rfl (by simp) ?_ ?_
          · simp [hstage]
          · simp [getType_createErrorMessage]
        · obtain ⟨rfl, rfl⟩ := Prod.mk.inj (Option.some.inj hr)
          refine ⟨⟨by simp [h.length], fun b hb => ?_, by simp [hstage]⟩, by simp, fun reply hmem _ => ?_⟩
          · rw [Router.store_ips, Router.countMaster_ips] at hb
            rcases List.mem_append.mp hb with hb | hb
            · exact h.owners b hb
            · rw [List.mem_singleton.mp hb]
              exact (receiveIpInfo_clientId hip).trans (hs.ids c (List.mem_of_getElem? hc))
          · rw [List.mem_singleton.mp hmem, getIpId_ackIpInfoMessage, hid, ← h.length]
            simp
      · exact hfail hr

theorem Tallied.write (h : s.Tallied) {i : Nat} {msgArr : Buf} (hw : s.write = some (t, i, msgArr)) :
    t.Tallied ∧ t.arrived = s.arrived ∧ (getRoot msgArr).getType ≠ .ipAck := by
  obtain ⟨rest, hstage, rfl⟩ := Handshake.write_cases hw
  refine ⟨⟨h.length, h.owners, fun k more hcommit => ?_⟩, rfl, h.commits _ _ hstage msgArr List.mem_cons_self⟩
  split at hcommit
  · exact commitStage_commits hcommit
  · cases hcommit
    exact fun msgArr hmem => h.commits _ _ hstage msgArr (List.mem_cons_of_mem _ hmem)

theorem Fresh.tallied (h : s.Fresh) : s.Tallied where
  length := by rw [h.arrived, h.router.ips]; rfl
  owners := by simp [h.router.ips]
  commits := by simp [h.stage]

/-! ### The ids that `registerIp` returns -/

/-- The id that `registerIp` returns for the message. -/
def acknowledged (s : RouterRun Buf) : Event Buf → List UInt64
  | .receive msgArr =>
    match s.registering msgArr with
    | none => []
    | some (_, ip) =>
      match s.router.registerIp ip with
      | some (_, .ok id) => [id]
      | _ => []
  | _ => []

/-- A step returns the index of the block that it stores, and no id if it stores none. -/
theorem step_acknowledged {e : Event Buf} (hs : s.Sound) (h : s.step e = some t) :
    (s.acknowledged e = [] ∧ t.router.ips.length = s.router.ips.length) ∨
    ∃ id, s.acknowledged e = [id] ∧ id.toNat = s.router.ips.length ∧
      t.router.ips.length = s.router.ips.length + 1 := by
  rcases step_inv h with ⟨i, c, c', hstage, -, -, -, heq⟩ | ⟨msgArr, i, ip, res, rfl, hreg, hres, -⟩ |
    ⟨n, heq, -, hno, -⟩
  · refine Or.inl ⟨?_, by rw [heq]⟩
    cases e <;> simp [acknowledged, registering, hstage]
  · simp only [acknowledged, show s.registering msgArr = some (i, ip) from hreg, hres]
    rcases Router.registerIp_inv hres with ⟨b, -, -, heq, rfl⟩ | ⟨-, -, -, heq, rfl⟩
    · exact Or.inl ⟨rfl, by rw [heq, Router.countMaster_ips]⟩
    · exact Or.inr ⟨_, rfl, hs.kept.count, by rw [heq]; simp⟩
  · refine Or.inl ⟨?_, by rw [heq]⟩
    cases e with
    | receive msgArr =>
      cases hreg : s.registering msgArr with
      | none => simp [acknowledged, hreg]
      | some x => simp [acknowledged, hreg, hno msgArr x.1 x.2 rfl hreg]
    | write => rfl
    | turn order msgArr => rfl

/-- The ids returned in a run are the indices of the blocks, in turn. -/
theorem acknowledged_range {s₀ : RouterRun Buf} (h₀ : s₀.Fresh) {es : List (Event Buf)}
    (hr : run RouterRun.step s₀ es = some s) :
    (outputs RouterRun.step acknowledged s₀ es).map UInt64.toNat = List.range s.router.ips.length := by
  have keep : ∀ (l : List UInt64) (s : RouterRun Buf) e t,
      (s.Sound ∧ l.map UInt64.toNat = List.range s.router.ips.length) → s.step e = some t →
      t.Sound ∧ (l ++ s.acknowledged e).map UInt64.toNat = List.range t.router.ips.length := by
    rintro l s e t ⟨hs, hl⟩ h
    refine ⟨hs.step h, ?_⟩
    rcases step_acknowledged hs h with ⟨hnone, hlen⟩ | ⟨id, hid, hnat, hlen⟩
    · rw [hnone, List.append_nil, hl, hlen]
    · rw [hid, List.map_append, hl, hlen, List.range_succ, List.map_singleton, hnat]
  have hstart : s₀.Sound ∧ ([] : List UInt64).map UInt64.toNat = List.range s₀.router.ips.length :=
    ⟨h₀.sound, by rw [h₀.router.ips]; rfl⟩
  exact (run_output acknowledged keep hstart hr).2

end RouterRun

/-! ### What a client keeps -/

section
variable {S Buf : Type}

/-- What holds of client `i`, where `arrived` is what the router has of the clients: its bridge has done nothing but
    its calls, and keeps its objects under the ids that it got for them. -/
structure Party.Enrolled (i : Nat) (arrived : List Nat) (p : Party S Buf) : Prop where
  queue : p.bridge.queue = {}
  futures : p.bridge.futures = fun _ => none
  history : p.bridge.history = {}
  slaves : ∀ id slave, p.bridge.slaveMap id = some slave →
    ∃ config, .slave slave config ∈ p.regs ∧ (id, config) ∈ p.registered
  masters : ∀ id md, p.bridge.masterMap id = some md →
    md = {} ∧ ∃ name, .master name ∈ p.regs ∧ (id, Bridge.masterConfig name) ∈ p.registered
  arrived : ∀ x ∈ p.registered, arrived[x.1.toNat]? = some i
  calls : ∀ reg rest waiting, p.calling = .register reg rest waiting → reg ∈ p.regs ∧ rest ⊆ p.regs
  threads : p.calling = .started →
    p.bridge.readerThread = some .receiving ∧ p.bridge.writerThread = some .popping

namespace Party
variable {p p' : Party S Buf} {i : Nat} {arrived arrived' : List Nat}

/-- The router has taken more blocks. -/
theorem Enrolled.more (h : p.Enrolled i arrived) (hmore : arrived <+: arrived') : p.Enrolled i arrived' :=
  { h with
    arrived := fun x hx => by
      obtain ⟨more, rfl⟩ := hmore
      have hget := h.arrived x hx
      rwa [List.getElem?_append_left (List.getElem?_eq_some_iff.mp hget).1] }

/-- The user goes on, its objects staying where they are. -/
theorem Enrolled.goes_on (h : p.Enrolled i arrived) (hqueue : p'.bridge.queue = p.bridge.queue)
    (hfutures : p'.bridge.futures = p.bridge.futures) (hhistory : p'.bridge.history = p.bridge.history)
    (hslaves : p'.bridge.slaveMap = p.bridge.slaveMap) (hmasters : p'.bridge.masterMap = p.bridge.masterMap)
    (hregs : p'.regs = p.regs) (hregistered : p'.registered = p.registered)
    (hcalls : ∀ reg rest waiting, p'.calling = .register reg rest waiting → reg ∈ p.regs ∧ rest ⊆ p.regs)
    (hthreads : p'.calling = .started →
      p'.bridge.readerThread = some .receiving ∧ p'.bridge.writerThread = some .popping) : p'.Enrolled i arrived where
  queue := hqueue.trans h.queue
  futures := hfutures.trans h.futures
  history := hhistory.trans h.history
  slaves := by
    rw [hslaves, hregs, hregistered]
    exact h.slaves
  masters := by
    rw [hmasters, hregs, hregistered]
    exact h.masters
  arrived := by
    rw [hregistered]
    exact h.arrived
  calls := by
    rw [hregs]
    exact hcalls
  threads := hthreads

theorem nextCall_calls {regs rest : List (Registration S)} (hsub : rest ⊆ regs) {reg : Registration S}
    {rest' : List (Registration S)} {waiting : Bool} (h : nextCall rest = .register reg rest' waiting) :
    reg ∈ regs ∧ rest' ⊆ regs := by
  cases rest with
  | nil => cases h
  | cons x rest =>
    cases h
    exact ⟨hsub List.mem_cons_self, fun y hy => hsub (List.mem_cons_of_mem _ hy)⟩

theorem nextCall_ne_started (rest : List (Registration S)) : nextCall rest ≠ .started := by
  cases rest <;> simp [nextCall]

variable [Flatbuffers Buf] {r : RouterRun Buf} {up down : List Buf} {msgArr : Buf}

theorem Enrolled.call (h : p.Enrolled i arrived) {out : List Buf} (hc : p.call = some (p', out)) :
    p'.Enrolled i arrived := by
  obtain ⟨calling, rfl, hcalling⟩ := call_inv hc
  refine h.goes_on rfl rfl rfl rfl rfl rfl rfl ?_ ?_
  · rintro reg rest waiting rfl
    rcases hcalling with hno | ⟨-, hno⟩ | ⟨reg', rest', hcalling, heq⟩ | ⟨-, hno⟩
    · cases hno
    · cases hno
    · cases heq
      exact h.calls _ _ _ hcalling
    · cases hno
  · rintro rfl
    rcases hcalling with hno | ⟨-, hno⟩ | ⟨reg', rest', -, hno⟩ | ⟨-, hno⟩ <;> cases hno

/-- An acknowledged block is kept under its id. -/
theorem Enrolled.acked (h : p.Enrolled i arrived) {reg : Registration S} {rest : List (Registration S)} {id : UInt64}
    (hcalling : p.calling = .register reg rest true) (hstate : p.bridge.client.state = .connected)
    (hid : arrived[id.toNat]? = some i) {b : Bridge S}
    (hb : p.register reg (Client.ackIpInfoMessage id : Buf) = some (b, {})) :
    Enrolled i arrived { p with
      bridge := b, calling := nextCall rest, registered := p.registered ++ [(id, reg.config)] } := by
  obtain ⟨hreg, hrest⟩ := h.calls _ _ _ hcalling
  have hcalls : ∀ reg' rest' waiting, nextCall rest = .register reg' rest' waiting → reg' ∈ p.regs ∧ rest' ⊆ p.regs :=
    fun reg' rest' waiting heq => nextCall_calls hrest heq
  have harrived : ∀ x ∈ p.registered ++ [(id, reg.config)], arrived[x.1.toNat]? = some i := by
    intro x hx
    rcases List.mem_append.mp hx with hx | hx
    · exact h.arrived x hx
    · rw [List.mem_singleton.mp hx]
      exact hid
  have hkeep : ∀ {x}, x ∈ p.registered → x ∈ p.registered ++ [(id, reg.config)] := List.mem_append_left _
  cases reg with
  | slave slave config =>
    obtain rfl : { p.bridge with slaveMap := Function.update p.bridge.slaveMap id (some slave) } = b := by
      simpa [register, Bridge.registerSlave, Bridge.registeredSlave, registerIp_ack hstate] using hb
    refine ⟨h.queue, h.futures, h.history, fun id' slave' hs => ?_, fun id' md hm => ?_, harrived, hcalls,
      fun heq => absurd heq (nextCall_ne_started rest)⟩
    · by_cases hid' : id' = id
      · subst hid'
        obtain rfl : slave = slave' := by simpa using hs
        exact ⟨config, hreg, List.mem_append_right _ (List.mem_singleton_self _)⟩
      · obtain ⟨config', hmem, hlog⟩ := h.slaves id' slave' (by simpa [hid'] using hs)
        exact ⟨config', hmem, hkeep hlog⟩
    · obtain ⟨hmd, name, hmem, hlog⟩ := h.masters id' md hm
      exact ⟨hmd, name, hmem, hkeep hlog⟩
  | master name =>
    obtain rfl : { p.bridge with
        masterMap := Function.update p.bridge.masterMap id (some ((p.bridge.masterMap id).getD {})) } = b := by
      simpa [register, Bridge.registerMaster, Bridge.registeredMaster, registerIp_ack hstate] using hb
    refine ⟨h.queue, h.futures, h.history, fun id' slave' hs => ?_, fun id' md hm => ?_, harrived, hcalls,
      fun heq => absurd heq (nextCall_ne_started rest)⟩
    · obtain ⟨config', hmem, hlog⟩ := h.slaves id' slave' hs
      exact ⟨config', hmem, hkeep hlog⟩
    · by_cases hid' : id' = id
      · subst hid'
        refine ⟨?_, name, hreg, List.mem_append_right _ (List.mem_singleton_self _)⟩
        obtain rfl : (p.bridge.masterMap id').getD {} = md := by simpa using hm
        cases hold : p.bridge.masterMap id' with
        | none => rfl
        | some md => exact (h.masters id' md hold).1
      · obtain ⟨hmd, name', hmem, hlog⟩ := h.masters id' md (by simpa [hid'] using hm)
        exact ⟨hmd, name', hmem, hkeep hlog⟩

theorem Enrolled.stream {infos : List SystemInfo} {ips : List IpInfo} {left : List Buf} (h : p.Enrolled i arrived)
    (hstream : Stream infos ips p (msgArr :: left)) (hr : p.reply msgArr = some p') : p'.Enrolled i arrived := by
  obtain ⟨_, _, _, _, _, _, _, _, rfl, -, -, -, -, hcalling⟩ := hstream.reply_inv hr
  rcases hcalling with ⟨loop, rfl⟩ | ⟨rfl, hreader, hwriter⟩
  · exact h.goes_on rfl rfl rfl rfl rfl rfl rfl (by simp) (by simp)
  · exact h.goes_on rfl rfl rfl rfl rfl rfl rfl (by simp) fun _ => ⟨hreader, hwriter⟩

theorem Enrolled.reply (h : p.Enrolled i arrived) (hphase : Phase r i p up (msgArr :: down))
    (hack : (getRoot msgArr).getType = .ipAck → arrived[(getRoot msgArr).getIpId.toNat]? = some i)
    (hr : p.reply msgArr = some p') : p'.Enrolled i arrived := by
  cases hphase.takes hr with
  | greeted calling blank stage hup hdown =>
    exact h.goes_on rfl rfl rfl rfl rfl rfl rfl (fun reg rest waiting heq => nextCall_calls (fun _ hx => hx) heq)
      fun heq => absurd heq (nextCall_ne_started p.regs)
  | acked reg rest id b calling state blank stage hup hdown stored hreg =>
    rw [getType_ackIpInfoMessage, getIpId_ackIpInfoMessage] at hack
    exact h.acked calling state (hack rfl) hreg
  | refused reg rest err calling state stage hup hdown =>
    exact h.goes_on rfl rfl rfl rfl rfl rfl rfl (by simp) (by simp)
  | streams msgArr p' stage hup stream hr => exact h.stream stream hr

end Party

end

namespace Handshake
variable {S Buf : Type} [Flatbuffers Buf] {h h' : Handshake S Buf}

/-- Every client keeps its objects under its own ids, and only those are on their way to it. -/
structure Rolled (h : Handshake S Buf) : Prop where
  tallied : h.router.Tallied
  enrolled : ∀ i, (h.parties i).Enrolled i h.router.arrived
  acks : ∀ i, ∀ msgArr ∈ h.toClient i, (getRoot msgArr).getType = .ipAck →
    h.router.arrived[(getRoot msgArr).getIpId.toNat]? = some i

theorem Fresh.rolled (hf : h.Fresh) : h.Rolled where
  tallied := hf.router.tallied
  enrolled i :=
    { queue := by rw [hf.bridges]
      futures := by rw [hf.bridges]
      history := by rw [hf.bridges]
      slaves := by simp [hf.bridges]
      masters := by simp [hf.bridges]
      arrived := by simp [hf.logs]
      calls := by simp [hf.calling]
      threads := by simp [hf.calling] }
  acks := by simp [hf.toClient]

theorem Rolled.step {infos : List SystemInfo} (hrolled : h.Rolled) (hI : h.Inv infos) {e : Event}
    (hs : h.step e = some h') : h'.Rolled := by
  cases e with
  | routerReceives =>
    obtain ⟨i, hreading, hs⟩ := Option.bind_eq_some_iff.mp hs
    split at hs
    · cases hs
    · obtain ⟨⟨r', replies⟩, hr, rfl⟩ := Option.map_eq_some_iff.mp hs
      obtain ⟨htallied, hmore, hreplies⟩ := hrolled.tallied.receive hI.sound (reading_eq_some hreading) hr
      have hold : ∀ j, ∀ msgArr ∈ h.toClient j, (getRoot msgArr).getType = .ipAck →
          r'.arrived[(getRoot msgArr).getIpId.toNat]? = some j := by
        intro j msgArr hmem hack
        obtain ⟨more, hmore⟩ := hmore
        have hget := hrolled.acks j msgArr hmem hack
        rw [← hmore, List.getElem?_append_left (List.getElem?_eq_some_iff.mp hget).1]
        exact hget
      refine ⟨htallied, fun j => (hrolled.enrolled j).more hmore, ?_⟩
      refine (Function.forall_update_iff h.toClient fun j down => ∀ msgArr ∈ down, (getRoot msgArr).getType = .ipAck →
        r'.arrived[(getRoot msgArr).getIpId.toNat]? = some j).mpr ⟨fun msgArr hmem hack => ?_, fun j _ => hold j⟩
      rcases List.mem_append.mp hmem with hmem | hmem
      · exact hold i msgArr hmem hack
      · exact hreplies msgArr hmem hack
  | routerWrites =>
    obtain ⟨⟨r', k, msgArr⟩, hw, rfl⟩ := Option.map_eq_some_iff.mp hs
    obtain ⟨htallied, harrived, hno⟩ := hrolled.tallied.write hw
    refine ⟨htallied, fun j => harrived ▸ hrolled.enrolled j, ?_⟩
    refine (Function.forall_update_iff h.toClient fun j down => ∀ msgArr ∈ down, (getRoot msgArr).getType = .ipAck →
      r'.arrived[(getRoot msgArr).getIpId.toNat]? = some j).mpr
        ⟨fun out hmem hack => ?_, fun j _ => harrived ▸ hrolled.acks j⟩
    rcases List.mem_append.mp hmem with hmem | hmem
    · rw [harrived]
      exact hrolled.acks k out hmem hack
    · rw [List.mem_singleton.mp hmem] at hack
      exact absurd hack hno
  | partyCalls i =>
    simp only [Handshake.step] at hs
    split at hs
    · obtain ⟨⟨p, out⟩, hc, rfl⟩ := Option.map_eq_some_iff.mp hs
      exact ⟨hrolled.tallied, (Function.forall_update_iff h.parties fun j p => p.Enrolled j h.router.arrived).mpr
        ⟨(hrolled.enrolled i).call hc, fun j _ => hrolled.enrolled j⟩, hrolled.acks⟩
    · cases hs
  | partyReads i =>
    simp only [Handshake.step] at hs
    split at hs
    · rename_i hi
      unfold Handshake.partyReads at hs
      split at hs
      · cases hs
      · rename_i msgArr rest hdown
        obtain ⟨p, hr, rfl⟩ := Option.map_eq_some_iff.mp hs
        have hphase := hI.phases i hi
        rw [hdown] at hphase
        have hacks : ∀ out ∈ msgArr :: rest, (getRoot out).getType = .ipAck →
            h.router.arrived[(getRoot out).getIpId.toNat]? = some i := fun out hmem => hrolled.acks i out (hdown ▸ hmem)
        refine ⟨hrolled.tallied, (Function.forall_update_iff h.parties fun j p => p.Enrolled j h.router.arrived).mpr
          ⟨(hrolled.enrolled i).reply hphase (hacks msgArr List.mem_cons_self) hr, fun j _ => hrolled.enrolled j⟩, ?_⟩
        exact (Function.forall_update_iff h.toClient fun j down => ∀ msgArr ∈ down,
          (getRoot msgArr).getType = .ipAck → h.router.arrived[(getRoot msgArr).getIpId.toNat]? = some j).mpr
            ⟨fun out hmem => hacks out (List.mem_cons_of_mem _ hmem), fun j _ => hrolled.acks j⟩
    · cases hs

theorem Fresh.run_rolled {h₀ : Handshake S Buf} (hf : h₀.Fresh) {es : List Event}
    (hr : run Handshake.step h₀ es = some h) : h.Inv h₀.infos ∧ h.Rolled := by
  have keep : ∀ (h : Handshake S Buf) e h', (h.Inv h₀.infos ∧ h.Rolled) → h.step e = some h' →
      h'.Inv h₀.infos ∧ h'.Rolled := fun h e h' hI hs => ⟨hI.1.step hs, hI.2.step hI.1 hs⟩
  exact run_invariant keep ⟨hf.inv, hf.rolled⟩ hr

/-- Client `i` got the id for a block that it asked to be registered: the block at this index of the registry. -/
structure Holds (h : Handshake S Buf) (i : Nat) (id : UInt64) (config : IpConfig) : Prop where
  logged : (id, config) ∈ (h.parties i).registered
  arrived : h.router.arrived[id.toNat]? = some i
  stored : ∃ ip, h.router.router.ips[id.toNat]? = some ip ∧ ip.id = id ∧ ip.config = config.registered

theorem Rolled.holds {infos : List SystemInfo} (hrolled : h.Rolled) (hI : h.Inv infos) {i : Nat}
    (hi : i < h.router.router.clients.length) {id : UInt64} {config : IpConfig}
    (hlog : (id, config) ∈ (h.parties i).registered) : h.Holds i id config := by
  obtain ⟨ip, hip, hconfig⟩ := hI.registered i hi _ hlog
  exact ⟨hlog, (hrolled.enrolled i).arrived _ hlog, ip, hip, UInt64.toNat_inj.mp (hI.sound.kept.ids _ ip hip), hconfig⟩

/-! ### The system that it opens -/

/-- The closed system that a completed handshake leads to. A client may be started before the others are; what it and
    its users do meanwhile touches neither the router nor the others, so it can as well come after. -/
def system (h : Handshake S Buf) : System S Buf where
  router := h.router.router
  endpoints i := { bridge := (h.parties i).bridge, toRouter := h.toRouter i, toClient := h.toClient i }

end Handshake

namespace System
variable {S Buf : Type} [Flatbuffers Buf]

/-- The handshake of fresh bridges with a router that has just accepted them has led to this system. -/
def Opened (s : System S Buf) : Prop :=
  ∃ (h₀ : Handshake S Buf) (es : List Handshake.Event) (h : Handshake S Buf), h₀.Fresh ∧
    run Handshake.step h₀ es = some h ∧
    (∀ i < h.router.router.clients.length, (h.parties i).calling = .started) ∧ s = h.system

/-- What the threads and goroutines start from. -/
structure Ready (s : System S Buf) : Prop where
  kept : s.router.Kept
  owners : ∀ ip ∈ s.router.ips, ip.clientId = 0
  pos : 0 < s.clients
  bridges : ∀ i < s.clients, (s.endpoints i).bridge.Started
  queues : ∀ i < s.clients, (s.endpoints i).bridge.queue = {}
  registered : ∀ i < s.clients, ∀ m, ((s.endpoints i).bridge.masterMap m).isSome = true → m.toNat < s.router.ips.length
  apart : ∀ i < s.clients, ∀ j < s.clients, ∀ m, ((s.endpoints i).bridge.masterMap m).isSome = true →
    ((s.endpoints j).bridge.masterMap m).isSome = true → i = j
  sockets : ∀ i < s.clients, (s.endpoints i).toRouter = [] ∧ (s.endpoints i).toClient = []
  goroutines : ∀ i, (s.endpoints i).reader = .reading ∧ (s.endpoints i).writer = .waiting
  route : s.route = .receiving
  record : s.record = {}

theorem Opened.ready {s : System S Buf} (h : s.Opened) : s.Ready := by
  obtain ⟨h₀, es, h, hf, hr, hstarted, rfl⟩ := h
  obtain ⟨hI, hrolled⟩ := hf.run_rolled hr
  have hfirst := hI.length
  have hpos := hf.pos
  rw [hf.inv.length] at hfirst
  have hholds : ∀ i < h.router.router.clients.length, ∀ m, ((h.parties i).bridge.masterMap m).isSome = true →
      ∃ config, h.Holds i m config := by
    intro i hi m hm
    obtain ⟨md, hmd⟩ := Option.isSome_iff_exists.mp hm
    obtain ⟨-, name, -, hlog⟩ := (hrolled.enrolled i).masters m md hmd
    exact ⟨_, hrolled.holds hI hi hlog⟩
  refine
    { kept := hI.sound.kept
      owners := hrolled.tallied.owners
      pos := lt_of_lt_of_eq hpos hfirst
      bridges := fun i hi => ?_
      queues := fun i _ => (hrolled.enrolled i).queue
      registered := fun i hi m hm => ?_
      apart := fun i hi j hj m hm hm' => ?_
      sockets := fun i hi => ?_
      goroutines := fun i => ⟨rfl, rfl⟩
      route := rfl
      record := rfl }
  · have hp := hrolled.enrolled i
    obtain ⟨-, -, -, -, hstate, -⟩ := hI.started hi (hstarted i hi)
    obtain ⟨hreader, hwriter⟩ := hp.threads (hstarted i hi)
    exact
      { client := hstate
        reader := hreader
        writer := hwriter
        masters := fun m md hmd => (hp.masters m md hmd).1
        queue := congrArg Queue.items hp.queue
        futures := hp.futures
        history := hp.history }
  · obtain ⟨config, hheld⟩ := hholds i hi m hm
    obtain ⟨ip, hip, -⟩ := hheld.stored
    exact (List.getElem?_eq_some_iff.mp hip).1
  · obtain ⟨config, hheld⟩ := hholds i hi m hm
    obtain ⟨config', hheld'⟩ := hholds j hj m hm'
    exact Option.some.inj (hheld.arrived.symm.trans hheld'.arrived)
  · obtain ⟨-, hup, hdown, -⟩ := hI.started hi (hstarted i hi)
    exact ⟨hup, hdown⟩

/-! ### A client with a slave and a master -/

end System

namespace Handshake

/-- The client of the second test bench before it calls `connect`. -/
def slaveAndMaster : Handshake Ram Wire.Message where
  router := { router := Router.single, host := { name := "router" } }
  parties _ :=
    { info := { name := "02-sw-master-lite" }, uri := "unix:///tmp/sw-axi", sock := 3,
      regs := [.slave { addr := 0x1000 } plainRam, .master "Soft-Master"] }
  toRouter _ := []
  toClient _ := []

theorem slaveAndMaster_fresh : slaveAndMaster.Fresh where
  router := ⟨Router.single_accepted, rfl, rfl, rfl⟩
  bridges _ := rfl
  calling _ := rfl
  logs _ := ⟨rfl, rfl, rfl⟩
  toRouter _ := rfl
  toClient _ := rfl

/-- Its calls one after the other, up to `start`. -/
def untilStarted : List Event :=
  [.partyCalls 0, .routerReceives, .partyReads 0, .partyCalls 0, .routerReceives, .partyReads 0, .partyCalls 0,
    .routerReceives, .partyReads 0, .partyCalls 0, .routerReceives, .routerWrites, .routerWrites, .routerWrites,
    .routerWrites, .routerWrites, .routerWrites, .partyReads 0, .partyReads 0, .partyReads 0, .partyReads 0,
    .partyReads 0, .partyReads 0]

end Handshake

namespace System

/-- The system that they lead to. -/
def opened : System Ram Wire.Message :=
  ((run Handshake.step Handshake.slaveAndMaster Handshake.untilStarted).get (by decide)).system

theorem opened_opened : opened.Opened := by
  have hrun : (run Handshake.step Handshake.slaveAndMaster Handshake.untilStarted).map (fun h =>
      (h.router.router.clients.length, (h.parties 0).calling matches .started)) = some (1, true) := by decide
  obtain ⟨h, hr, heq⟩ := Option.map_eq_some_iff.mp hrun
  obtain ⟨hlen, hstarted⟩ := Prod.mk.inj heq
  refine ⟨_, _, h, Handshake.slaveAndMaster_fresh, hr, fun i hi => ?_, ?_⟩
  · obtain rfl : i = 0 := by omega
    split at hstarted
    · assumption
    · cases hstarted
  · simp [opened, hr]

end System

end SwAxi
