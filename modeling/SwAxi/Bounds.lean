import SwAxi.Opening
import SwAxi.Turn

/-! Ids in the closed system: every id on its way to `route` is that of a registered block, so that no index of
`route` is out of range. -/

namespace SwAxi
open Wire (Flatbuffers)
open Wire.Flatbuffers (getRoot mutateTarget)
open Transition
open RouterClient (decode transactionMessage terminateMessage doneMessage)

/-! ### What carries registered ids -/

/-- The ids in it are below `n`. -/
def Outgoing.Within (n : Nat) : Outgoing → Prop
  | .transaction txn => txn.initiator.toNat < n
  | .termination id => id.toNat < n
  | .logout => True

def Master.Txn.Within (n : Nat) (tx : Master.Txn) : Prop :=
  match tx.type with
  | .transaction => tx.txn.initiator.toNat < n
  | .termination => tx.txn.id.toNat < n

/-- A `DONE`, or a transaction of a registered initiator. -/
def Deliverable {Buf : Type} [Flatbuffers Buf] (n : Nat) (msgArr : Buf) : Prop :=
  (getRoot msgArr).getType = .done ∨ ∃ txn, decode msgArr = some txn ∧ txn.initiator.toNat < n

theorem Master.Txn.Within.transaction {n : Nat} {tx : Master.Txn} (h : tx.Within n) (htype : tx.type = .transaction) :
    tx.txn.initiator.toNat < n := by
  unfold Master.Txn.Within at h
  rwa [htype] at h

theorem Master.Txn.Within.termination {n : Nat} {tx : Master.Txn} (h : tx.Within n) (htype : tx.type = .termination) :
    tx.txn.id.toNat < n := by
  unfold Master.Txn.Within at h
  rwa [htype] at h

theorem Master.Txn.type_of_isRequest {tx : Master.Txn} (h : tx.isRequest = true) :
    tx.type = .transaction ∧ tx.txn.type.isRequest = true := by
  simpa [Master.Txn.isRequest] using h

namespace Flow
variable {S Buf : Type} [Flatbuffers Buf] {n : Nat} {f f' : Flow S Buf} {U : Users}

/-- All ids of a flow are below `n`, and nothing in it makes an end of its bridge give up. -/
structure Within (n : Nat) (f : Flow S Buf) : Prop where
  has : ∀ m, f.has m = true → m.toNat < n
  waiting : ∀ tx ∈ f.ledger.waiting, tx.Within n
  up : ∀ msgArr ∈ f.up, ∃ out : Outgoing, msgArr = out.message ∧ out.Within n
  down : ∀ msgArr ∈ f.down, Deliverable n msgArr
  held : ∀ txn, f.held = some txn → txn.initiator.toNat < n
  intact : f.intact = true

theorem Within.push (h : f.Within n) (tx : Master.Txn) (htx : tx.Within n) : (f.push tx).Within n :=
  { h with
    waiting := fun x hx => by
      rcases List.mem_append.mp hx with hx | hx
      · exact h.waiting x hx
      · rw [List.mem_singleton.mp hx]
        exact htx }

theorem Within.send (h : f.Within n) {tx : Master.Txn} {rest : List Master.Txn} (hw : f.ledger.waiting = tx :: rest)
    (out : Outgoing) (hout : out.Within n) : (f.send rest out.message).Within n :=
  { h with
    waiting := fun x hx => h.waiting x (hw ▸ List.mem_cons_of_mem _ hx)
    up := fun msgArr hmem => by
      rcases List.mem_append.mp hmem with hmem | hmem
      · exact h.up msgArr hmem
      · exact ⟨out, List.mem_singleton.mp hmem, hout⟩ }

theorem Within.deliver (h : f.Within n) {msgArr : Buf} (hmsg : Deliverable n msgArr) : (f.deliver [msgArr]).Within n :=
  { h with
    down := fun out hmem => by
      rcases List.mem_append.mp hmem with hmem | hmem
      · exact h.down out hmem
      · rw [List.mem_singleton.mp hmem]
        exact hmsg }

theorem Within.taken (h : f.Within n) {msgArr : Buf} {rest : List Buf} (hup : f.up = msgArr :: rest) :
    (f.taken rest).Within n :=
  { h with up := fun out hmem => h.up out (hup ▸ List.mem_cons_of_mem _ hmem) }

variable [Slave S]

theorem Within.step (h : f.Within n) (hs : Step U f f') : f'.Within n := by
  cases hs with
  | stay => exact h
  | issue bytes txn huser hreq hread hhas =>
    exact { h.push { type := .transaction, txn } (h.has _ hhas) with
            waiting := fun x hx => by
              rcases List.mem_append.mp hx with hx | hx
              · exact h.waiting x hx
              · rw [List.mem_singleton.mp hx]
                exact h.has _ hhas }
  | terminate m huser hhas =>
    exact { h.push { type := .termination, txn := { id := m } } (h.has m hhas) with }
  | termination tx rest hw htype =>
    exact h.send hw (.termination tx.txn.id) ((h.waiting tx (hw ▸ List.mem_cons_self)).termination htype)
  | request tx rest hw hreq =>
    have htx := (h.waiting tx (hw ▸ List.mem_cons_self)).transaction (Master.Txn.type_of_isRequest hreq).1
    exact { h.send hw (.transaction { tx.txn with id := (f.ledger.masters tx.txn.initiator).lastTxnId }) htx with
            has := fun m hm => by
              by_cases hm' : m = tx.txn.initiator
              · rw [hm']
                exact htx
              · exact h.has m (by simpa [assign, hm'] using hm) }
  | response tx rest hw htype hreq =>
    exact h.send hw (.transaction tx.txn) ((h.waiting tx (hw ▸ List.mem_cons_self)).transaction htype)
  | logout =>
    exact { h with
            up := fun msgArr hmem => by
              rcases List.mem_append.mp hmem with hmem | hmem
              · exact h.up msgArr hmem
              · exact ⟨.logout, List.mem_singleton.mp hmem, trivial⟩ }
  | lose up msgArr hup hintact =>
    rw [h.intact] at hintact
    cases hintact
  | leave msgArr rest hup htype => exact h.taken hup
  | receive msgArr rest txn hdown hdec hheld =>
    refine { h with down := fun out hmem => h.down out (hdown ▸ List.mem_cons_of_mem _ hmem), held := ?_ }
    rintro _ ⟨⟩
    rcases h.down msgArr (hdown ▸ List.mem_cons_self) with hdone | ⟨txn', hdec', hlt⟩
    · rw [decode_eq_none (by simp [hdone])] at hdec
      cases hdec
    · rw [hdec] at hdec'
      cases hdec'
      exact hlt
  | finish msgArr rest hdown htype =>
    exact { h with down := fun out hmem => h.down out (hdown ▸ List.mem_cons_of_mem _ hmem) }
  | reject msgArr rest intact hdown hdec htype =>
    rcases h.down msgArr (hdown ▸ List.mem_cons_self) with hdone | ⟨txn', hdec', -⟩
    · exact absurd hdone htype
    · rw [hdec] at hdec'
      cases hdec'
  | serve txn s hheld hreq hs =>
    have hresp : Master.Txn.Within n { type := .transaction, txn := (Bridge.serve s txn).2 } := by
      rw [Master.Txn.Within, Bridge.serve_initiator]
      exact h.held txn hheld
    exact { h.push _ hresp with held := fun x hx => by cases hx }
  | unknownSlave txn hheld => exact { h with held := fun x hx => by cases hx }
  | unknownRequest txn hheld => exact { h with held := fun x hx => by cases hx }
  | crash txn tx buffers hheld => exact { h with held := fun x hx => by cases hx }
  | resolve txn tx p hheld => exact { h with held := fun x hx => by cases hx }

section
omit [Flatbuffers Buf] [Slave S]
variable {F : Nat → Flow S Buf} {P : Nat → Flow S Buf → Prop} {N : Nat}

theorem update_forall (hF : ∀ j < N, P j (F j)) {i : Nat} {g : Flow S Buf} (hg : i < N → P i g) :
    ∀ j < N, P j (Function.update F i g j) := by
  intro j hj
  by_cases hji : j = i
  · subst hji
    rw [Function.update_self]
    exact hg hj
  · rw [Function.update_of_ne hji]
    exact hF j hj

/-- What holds of the flows, and of the one that a turn of `route` delivers to, holds after the turn. -/
theorem pass_forall {routed : Routed Buf} (hF : ∀ j < N, P j (F j))
    (hsend : ∀ k msgArr, routed = .send k msgArr → k < N → P k ((F k).deliver [msgArr])) :
    ∀ j < N, P j (pass F routed j) := by
  cases routed with
  | send k msgArr => exact update_forall hF (hsend k msgArr rfl)
  | next => exact hF
  | done => exact hF
  | fatal text => exact hF
  | panic => exact hF

end

end Flow

/-! ### Turns on registered ids -/

namespace Router
variable {Buf : Type} [Flatbuffers Buf] {r : Router} {order : List IpInfo}

/-- No index is out of range, and what goes out has a registered initiator again. -/
theorem Kept.route_within (hk : r.Kept) (horder : r.IterationOrder order) {out : Outgoing}
    (hout : out.Within r.ips.length) {turn : Router × Routed Buf} (hturn : r.route order out.message = turn) :
    turn.2 ≠ .panic ∧ ∀ k msgArr, turn.2 = .send k msgArr → k < r.clients.length ∧ Deliverable r.ips.length msgArr := by
  cases out with
  | transaction txn =>
    rcases hk.route_transaction horder hturn with
      ⟨target, client, hreq, -, hlt, rfl⟩ | ⟨err, ip, hreq, -, -, hlt, rfl⟩ | ⟨ip, hreq, -, hlt, rfl⟩ | ⟨hnone, -, rfl⟩
    · refine ⟨by simp, ?_⟩
      rintro k msgArr ⟨⟩
      exact ⟨hlt, Or.inr ⟨_, decode_mutateTarget txn target, hout⟩⟩
    · refine ⟨by simp, ?_⟩
      rintro k msgArr ⟨⟩
      exact ⟨hlt, Or.inr ⟨_, decode_createErrorTxn hreq err, hout⟩⟩
    · refine ⟨by simp, ?_⟩
      rintro k msgArr ⟨⟩
      exact ⟨hlt, Or.inr ⟨_, decode_transactionMessage txn, hout⟩⟩
    · exact absurd (List.getElem?_eq_none_iff.mp hnone) (Nat.not_le.mpr hout)
  | termination id =>
    obtain ⟨ip, hip⟩ : ∃ ip, r.ips[id.toNat]? = some ip := ⟨_, List.getElem?_eq_getElem hout⟩
    have hlt := hk.owners ip (List.mem_of_getElem? hip)
    have hmsg : (Outgoing.termination id).message = (terminateMessage id : Buf) := rfl
    rw [hmsg, route] at hturn
    simp only [getType_terminateMessage, getIpId_terminateMessage, if_true, hip, hlt] at hturn
    split at hturn
    · subst hturn
      exact ⟨by simp, by simp⟩
    · rw [routeTransaction, if_pos (by simp)] at hturn
      subst hturn
      exact ⟨by simp, by simp⟩
  | logout =>
    have hmsg : Outgoing.logout.message = (RouterClient.doneMessage : Buf) := rfl
    rw [hmsg, route_logout] at hturn
    subst hturn
    exact ⟨by simp, by simp⟩

end Router

namespace System
variable {S Buf : Type} [Flatbuffers Buf] {s t : System S Buf}

/-- All ids that are under way are those of registered blocks. -/
structure Within (s : System S Buf) : Prop where
  kept : s.router.Kept
  flows : ∀ i < s.clients, (s.flow i).Within s.router.ips.length

/-- Every index of `route` is in range in this step. -/
def InBounds (s : System S Buf) : Event Buf → Prop
  | .take i order => ∀ msgArr, (s.endpoints i).reader = .offering msgArr → (s.router.route order msgArr).2 ≠ .panic
  | _ => True

theorem offered_mem {i : Nat} {msgArr : Buf} (h : (s.endpoints i).reader = .offering msgArr) :
    msgArr ∈ (s.flow i).up := by
  simp [flow, Flow.deliver, Endpoint.flow, Endpoint.offered, h]

theorem Ready.flow_eq (h : s.Ready) {i : Nat} (hi : i < s.clients) :
    (s.flow i).ledger.waiting = [] ∧ (s.flow i).up = [] ∧ (s.flow i).down = [] ∧ (s.flow i).held = none ∧
      (s.flow i).intact = true ∧ (s.flow i).terminated = [] := by
  have hb := h.bridges i hi
  have hroute : s.flow i = (s.endpoints i).flow := flow_of_ne (by simp [h.route]) i
  rw [hroute]
  refine ⟨?_, ?_, ?_, ?_, ?_, ?_⟩
  · simp [Endpoint.flow, Bridge.ledger, Bridge.writerItem, hb.writer, hb.queue]
  · simp [Endpoint.flow, Endpoint.offered, Endpoint.sending, h.goroutines i, h.sockets i hi, hb.writer]
  · simp [Endpoint.flow, Endpoint.written, h.goroutines i, h.sockets i hi]
  · simp [Endpoint.flow, Endpoint.held, hb.reader]
  · simp [Endpoint.flow, hb.client]
  · simp [Endpoint.flow, hb.history]

theorem Ready.within (h : s.Ready) : s.Within where
  kept := h.kept
  flows i hi := by
    obtain ⟨hwaiting, hup, hdown, hheld, hintact, -⟩ := h.flow_eq hi
    exact
      { has := h.registered i hi
        waiting := by simp [hwaiting]
        up := by simp [hup]
        down := by simp [hdown]
        held := by simp [hheld]
        intact := hintact }

variable [Slave S]

theorem Within.move {U : Users} (h : s.Within) (hm : Move U s t) : t.Within := by
  cases hm with
  | endpoint i hi hstep hothers hrouter hroute hrecord =>
    refine ⟨hrouter ▸ h.kept, fun j hj => ?_⟩
    rw [clients, hrouter] at hj
    rw [hrouter]
    by_cases hji : j = i
    · subst hji
      exact (h.flows j hj).step hstep
    · rw [hothers j hji]
      exact h.flows j hj
  | take i order msgArr rest routed hi hreceiving hup horder hturn hroute hrecord hflow =>
    obtain ⟨out, rfl, hout⟩ := (h.flows i hi).up msgArr (hup ▸ List.mem_cons_self)
    obtain ⟨-, hsend⟩ := h.kept.route_within horder hout hturn
    obtain ⟨n, hn⟩ := s.router.route_router order (out.message : Buf)
    rw [hturn] at hn
    have hrouter : t.router = { s.router with masterCount := n } := hn
    have hrest : ∀ j < s.clients, (Function.update s.flow i ((s.flow i).taken rest) j).Within s.router.ips.length :=
      Flow.update_forall (P := fun _ f => f.Within s.router.ips.length) h.flows fun hi => (h.flows i hi).taken hup
    refine ⟨hrouter ▸ { h.kept with }, ?_⟩
    rw [clients, hrouter, hflow]
    exact Flow.pass_forall (P := fun _ f => f.Within s.router.ips.length) hrest fun k msgArr heq hk =>
      (hrest k hk).deliver (hsend k msgArr heq).2
  | hand k msgArr hsending hroute hrouter hrecord hflow =>
    refine ⟨hrouter ▸ h.kept, ?_⟩
    rw [clients, hrouter, hflow]
    exact h.flows
  | handDone k hsending hroute hrouter hrecord hflow =>
    refine ⟨hrouter ▸ h.kept, ?_⟩
    rw [clients, hrouter, hflow]
    exact Flow.update_forall (P := fun _ f => f.Within s.router.ips.length) h.flows fun hk =>
      (h.flows k hk).deliver (Or.inl getType_doneMessage)

/-- Users who do what they like. -/
def anyone : Users where
  issues _ _ := True
  terminates _ _ := True

omit [Flatbuffers Buf] [Slave S] in
theorem keeps_anyone [Flatbuffers Buf] (e : Event Buf) : s.Keeps anyone e := by
  cases e with
  | bridge i e => cases e <;> trivial
  | _ => trivial

theorem Within.step {e : Event Buf} (h : s.Within) (hs : s.step e = some t) : t.Within :=
  h.move (step_move (keeps_anyone e) hs)

theorem Within.inBounds {e : Event Buf} (h : s.Within) (hs : s.step e = some t) : s.InBounds e := by
  cases e with
  | take i order =>
    intro msgArr hoffering
    simp only [System.step] at hs
    split at hs
    · obtain ⟨_, _, _, -, -, -, horder, -⟩ := take_inv hs
      obtain ⟨out, rfl, hout⟩ := (h.flows i ‹_›).up msgArr (offered_mem hoffering)
      exact (h.kept.route_within horder hout rfl).1
    · cases hs
  | _ => trivial

end System

/-- Ids agree: the registry counts its blocks by their ids, no id is returned twice, a bridge keeps its slaves and
    masters under the ids of the blocks that it registered for them, and every index of `route` is in range. -/
theorem ids_agree {S Buf : Type} [Slave S] [Flatbuffers Buf] :
    (∀ (s₀ s : RouterRun Buf) (es : List (RouterRun.Event Buf)), s₀.Fresh → run RouterRun.step s₀ es = some s →
      s.router.ipCount.toNat = s.router.ips.length ∧ (∀ k (ip : IpInfo), s.router.ips[k]? = some ip → ip.id.toNat = k) ∧
        (outputs RouterRun.step RouterRun.acknowledged s₀ es).Nodup) ∧
    (∀ (h₀ h : Handshake S Buf) es, h₀.Fresh → run Handshake.step h₀ es = some h →
      ∀ i < h.router.router.clients.length,
        (∀ id slave, (h.parties i).bridge.slaveMap id = some slave →
          ∃ config, .slave slave config ∈ (h.parties i).regs ∧ h.Holds i id config) ∧
        ∀ id md, (h.parties i).bridge.masterMap id = some md →
          ∃ name, .master name ∈ (h.parties i).regs ∧ h.Holds i id (Bridge.masterConfig name)) ∧
    ∀ (s : System S Buf) es, s.Opened → EveryStep System.step System.InBounds s es := by
  refine ⟨fun s₀ s es h₀ hr => ?_, fun h₀ h es hf hr i hi => ?_, fun s es hopened => ?_⟩
  · have hs := h₀.sound.of_run hr
    refine ⟨hs.kept.count, hs.kept.ids, List.Nodup.of_map UInt64.toNat ?_⟩
    rw [RouterRun.acknowledged_range h₀ hr]
    exact List.nodup_range
  · obtain ⟨hI, hrolled⟩ := hf.run_rolled hr
    refine ⟨fun id slave hslave => ?_, fun id md hmd => ?_⟩
    · obtain ⟨config, hreg, hlog⟩ := (hrolled.enrolled i).slaves id slave hslave
      exact ⟨config, hreg, hrolled.holds hI hi hlog⟩
    · obtain ⟨-, name, hreg, hlog⟩ := (hrolled.enrolled i).masters id md hmd
      exact ⟨name, hreg, hrolled.holds hI hi hlog⟩
  · have keep : ∀ (s : System S Buf) e t, s.Within → s.step e = some t → t.Within := fun _ _ _ h hs => h.step hs
    exact EveryState.everyStep keep (fun _ _ _ h _ hs => h.inBounds hs) hopened.ready.within
      (everyState_of_invariant keep (fun _ _ => trivial) hopened.ready.within es)

/-- The master of a started client has a read of its routed. -/
def System.readRouted : List (System.Event Wire.Message) :=
  [.bridge 0 (.read 1 { data := [0, 0], size := 2, address := 0x1000 }), .bridge 0 .pop, .bridge 0 .dispatch, .sent 0,
    .readMsg 0, .take 0 (System.opened.router.ipMMap.map Prod.snd)]

theorem ids_agree_slaveAndMaster :
    (∃ s, run RouterRun.step RouterRun.twoClients RouterRun.slaveOfSecond = some s ∧
      s.router.ipCount.toNat = s.router.ips.length ∧
      (outputs RouterRun.step RouterRun.acknowledged RouterRun.twoClients RouterRun.slaveOfSecond).Nodup) ∧
    (∃ h slave config, run Handshake.step Handshake.slaveAndMaster Handshake.untilStarted = some h ∧
      (h.parties 0).bridge.slaveMap 0 = some slave ∧ .slave slave config ∈ (h.parties 0).regs ∧ h.Holds 0 0 config) ∧
    (run System.step System.opened System.readRouted).isSome = true ∧
      EveryStep System.step System.InBounds System.opened System.readRouted := by
  obtain ⟨hrouter, hparties, hroute⟩ := @ids_agree Ram Wire.Message _ _
  refine ⟨?_, ?_, by decide, hroute System.opened _ System.opened_opened⟩
  · have hrun : (run RouterRun.step RouterRun.twoClients RouterRun.slaveOfSecond).isSome = true := by decide
    obtain ⟨s, hr⟩ := Option.isSome_iff_exists.mp hrun
    obtain ⟨hcount, -, hnodup⟩ := hrouter _ s _ RouterRun.twoClients_fresh hr
    exact ⟨s, hr, hcount, hnodup⟩
  · have hrun : (run Handshake.step Handshake.slaveAndMaster Handshake.untilStarted).map (fun h =>
        (h.router.router.clients.length, ((h.parties 0).bridge.slaveMap 0).isSome)) = some (1, true) := by decide
    obtain ⟨h, hr, heq⟩ := Option.map_eq_some_iff.mp hrun
    obtain ⟨hlen, hsome⟩ := Prod.mk.inj heq
    obtain ⟨slave, hslave⟩ := Option.isSome_iff_exists.mp hsome
    obtain ⟨config, hreg, hholds⟩ := (hparties _ h _ Handshake.slaveAndMaster_fresh hr 0 (by omega)).1 0 slave hslave
    exact ⟨h, slave, config, hr, hslave, hreg, hholds⟩

end SwAxi
