import SwAxi.Atomic

/-! The slave of the only client, whatever its handlers do: to the masters of that client the bus is the device itself,
which executes their requests one at a time, each once, in the order in which they were issued. -/

namespace SwAxi
open Wire (Flatbuffers)
open Transition

section
variable {S : Type} [Slave S]

/-- The slave once the requests are executed; those outside the block do not get to it. -/
def deviceAfter (base size : UInt64) (slave : S) (requests : List Transaction) : S :=
  (requests.filter fun txn => txn.Inside base size).foldl (fun s txn => (Bridge.serve s txn).1) slave

variable {base size : UInt64} {slave : S} {requests : List Transaction} {txn : Transaction}

theorem deviceAfter_inside (h : txn.Inside base size) :
    deviceAfter base size slave (requests ++ [txn]) = (Bridge.serve (deviceAfter base size slave requests) txn).1 := by
  simp [deviceAfter, List.filter_append, h]

theorem deviceAfter_outside (h : ¬txn.Inside base size) :
    deviceAfter base size slave (requests ++ [txn]) = deviceAfter base size slave requests := by
  simp [deviceAfter, List.filter_append, h]

/-! The id of a request makes no difference to the slave. -/

theorem Bridge.serve_id_state (s : S) (id : UInt64) : (Bridge.serve s { txn with id }).1 = (Bridge.serve s txn).1 := rfl

theorem Bridge.serve_id_response (s : S) (id : UInt64) :
    (Bridge.serve s { txn with id }).2 = { (Bridge.serve s txn).2 with id } := by
  unfold Bridge.serve
  by_cases hwrite : txn.type = .writeReq
  · simp only [hwrite, if_true]
    split <;> rfl
  · simp only [hwrite, if_false]
    split <;> rfl

/-- Requests to a device that are executed one after the other. -/
def device (base size : UInt64) (slave : S) : Contract S where
  issues := WellFormed
  foreign _ := False
  admits x := x.Inside base size
  refuses x := ¬x.Inside base size
  slaves before m := m 0 = some (deviceAfter base size slave before)
  answers before y r := r = (Bridge.serve (deviceAfter base size slave before) y).2
  target h := h.target
  serve {before m bytes x id s} hslaves _ hin hs := by
    obtain rfl : deviceAfter base size slave before = s := Option.some.inj (hslaves.symm.trans hs)
    refine ⟨?_, rfl⟩
    rw [Function.update_self, deviceAfter_inside hin, Bridge.serve_id_state]
  drop {before m x} hslaves hno := by
    rcases hno with hout | hnone
    · rw [deviceAfter_outside hout]
      exact hslaves
    · rw [hslaves] at hnone
      cases hnone
  serveForeign _ hforeign := hforeign.elim

theorem device_ofBlock (slave : S) : (device base size slave).OfBlock base size where
  issues _ _ := Iff.rfl
  admits _ hin := hin
  refuses _ hout := hout

end

/-- The client is a front for the device: its slave is what the requests up to some point leave behind, which those
    that are resolved come before; each resolved request inside the block got what the device gives in its turn, and
    each other one failed. -/
structure Endpoint.Fronts {S Buf : Type} [Slave S] (base size : UInt64) (slave : S) (c : Endpoint S Buf) : Prop where
  state : ∃ n ≤ c.bridge.history.issued.length,
    c.bridge.slaveMap 0 = some (deviceAfter base size slave (c.bridge.history.issued.take n)) ∧
      ∀ p st, c.bridge.futures p = some st → p < n
  answered : ∀ p x st, c.bridge.history.issued[p]? = some x → c.bridge.futures p = some st → x.Inside base size →
    st = Bridge.responseStatus (Bridge.serve (deviceAfter base size slave (c.bridge.history.issued.take p)) x).2 ∧
      (x.type = .readReq → st.isOk = true → c.bridge.buffers p =
        (Bridge.serve (deviceAfter base size slave (c.bridge.history.issued.take p)) x).2.data)
  refused : ∀ p x st, c.bridge.history.issued[p]? = some x → c.bridge.futures p = some st → ¬x.Inside base size →
    st.isError = true

section
variable {S Buf : Type} [Slave S] [Flatbuffers Buf]

/-- A request that is resolved has been at the front. -/
theorem Piped.resolved_lt {C : Contract S} {own : UInt64 → Prop} {f : Flow S Buf} {k : Stages} (h : Piped C own f k)
    {p : Nat} {st : Status} (hp : f.ledger.futures p = some st) : p < k.front := by
  obtain ⟨x, r, hr⟩ := h.tracked.settled p st hp
  have hlt : p < f.ledger.issued.length := (List.getElem?_eq_some_iff.mp hr.issued).1
  by_contra hle
  have hmem : p ∈ k.tokens.filterMap TicketRing.Token.fresh := h.ring.fresh_mem.mpr ⟨Nat.le_of_not_lt hle, hlt⟩
  obtain ⟨t, ht, hfresh⟩ := List.mem_filterMap.mp hmem
  have hticket : p ∈ k.tokens.map TicketRing.Token.ticket :=
    List.mem_map.mpr ⟨t, ht, TicketRing.Token.fresh_eq_some hfresh⟩
  rw [h.tracked.pending p hticket] at hp
  cases hp

namespace System
variable {s t : System S Buf} {base size : UInt64} {slave : S} {own : UInt64 → Prop}

theorem Piping.fronts (h : s.Piping (device base size slave) own) : (s.endpoints 0).Fronts base size slave := by
  obtain ⟨k, hk⟩ := h.served
  refine ⟨⟨k.front, hk.ring.front_le, hk.tracked.slaves, fun p st hp => hk.resolved_lt hp⟩, ?_, ?_⟩
  · intro p x st hx hp hin
    obtain ⟨y, r, hr⟩ := hk.tracked.settled p st hp
    obtain rfl : x = y := Option.some.inj (hx.symm.trans hr.issued)
    rcases hr.bears with hbears | hbears
    · -- Only requests outside the block are refused.
      cases hbears with
      | refused p y err hy hreq hrefused =>
        obtain rfl : x = y := Option.some.inj (hx.symm.trans hy)
        exact absurd hin hrefused
    · cases hbears with
      | response p y r hy hanswers hadmitted hright =>
        obtain rfl : x = y := Option.some.inj (hx.symm.trans hy)
        have hgiven : r = { (Bridge.serve (deviceAfter base size slave (s.issued.take p)) x).2 with
            id := (sentAs s.issued p x).id } := hright.trans (Bridge.serve_id_response _ _)
        refine ⟨by rw [hr.status, hgiven]; rfl, fun hread hok => ?_⟩
        have hwell : r.ok = true := by
          by_contra hno
          rw [hr.status, Bridge.responseStatus, if_neg hno] at hok
          cases hok
        obtain ⟨bytes, hbytes, hbuffer⟩ := hr.buffer hread hwell
        have hroom : bytes.length = x.size.toNat := hbytes.buffer bytes rfl
        have hlen : r.data.length = x.size.toNat := hanswers.data hwell hread
        have hdata : r.data = (Bridge.serve (deviceAfter base size slave (s.issued.take p)) x).2.data := by rw [hgiven]
        rw [Bridge.overwrite, List.drop_of_length_le (by omega), List.append_nil, hdata] at hbuffer
        exact hbuffer
  · intro p x st hx hp hout
    obtain ⟨y, r, hr⟩ := hk.tracked.settled p st hp
    obtain rfl : x = y := Option.some.inj (hx.symm.trans hr.issued)
    rw [hr.status]
    rcases hr.bears with hbears | hbears
    · cases hbears with
      | refused p y err hy hreq hrefused => rfl
    · cases hbears with
      | response p y r hy hanswers hadmitted hright =>
        obtain rfl : x = y := Option.some.inj (hx.symm.trans hy)
        exact absurd hadmitted hout

/-- In every state of a run of the only client and its router, the client is a front for its slave. -/
theorem device_sequential {slave : S} {config : IpConfig} (hs : s.OpenedBy slave config)
    (hbound : config.address.toNat + config.size.toNat < 2 ^ 64) {es : List (Event Buf)}
    (hes : ∀ e ∈ es, e.WellFormed) (hr : run step s es = some t) :
    (t.endpoints 0).Fronts config.address config.size slave := by
  have hkeeps : EveryStep step (fun s e => s.Keeps (device config.address config.size slave).users e) s es :=
    everyStep_of_forall fun e he _ => (hes e he).keeps (device_ofBlock slave)
  have hpiping : t.Piping (device config.address config.size slave) _ :=
    run_invariant_of_everyStep (fun _ _ _ h he hs => h.step he hs)
      (hs.piping (device_ofBlock slave) hbound fun _ hm => hm) hkeeps hr
  exact hpiping.fronts

end System

end

/-! ### A device that counts its reads -/

structure Counter where
  reads : Nat := 0
  deriving DecidableEq, Repr

/-- A read returns how many there were before it; there is nothing to write. -/
instance : Slave Counter where
  handleWrite c _ := (c, -1)
  handleRead c _ := ({ reads := c.reads + 1 }, 0, fun _ => UInt8.ofNat c.reads)

namespace Handshake

def counterAndMaster : Handshake Counter Wire.Message where
  router := slaveAndMaster.router
  parties _ := {
    info := { name := "02-sw-master-lite" }
    uri := "unix:///tmp/sw-axi"
    sock := 3
    regs := [.slave {} plainRam, .master "Soft-Master"] }
  toRouter _ := []
  toClient _ := []

theorem counterAndMaster_fresh : counterAndMaster.Fresh where
  router := slaveAndMaster_fresh.router
  bridges _ := rfl
  calling _ := rfl
  logs _ := ⟨rfl, rfl, rfl⟩
  toRouter _ := rfl
  toClient _ := rfl

end Handshake

namespace System

def openedCounter : System Counter Wire.Message :=
  ((run Handshake.step Handshake.counterAndMaster Handshake.untilStarted).get (by decide)).system

theorem openedCounter_openedBy : openedCounter.OpenedBy {} Handshake.plainRam := by
  have hrun : ∃ h, run Handshake.step Handshake.counterAndMaster Handshake.untilStarted = some h ∧
      (h.parties 0).calling = .started := ⟨_, rfl, rfl⟩
  obtain ⟨h, hr, hstarted⟩ := hrun
  refine ⟨_, _, h, ["Soft-Master"], Handshake.counterAndMaster_fresh, rfl, rfl, hr, hstarted, ?_⟩
  simp [openedCounter, hr]

/-- Two reads with a write between them. -/
def readWriteRead : List (Event Wire.Message) :=
  let turn := [.bridge 0 .pop, .bridge 0 .dispatch, .sent 0, .readMsg 0,
    .take 0 (openedCounter.router.ipMMap.map Prod.snd), .hand, .writeMsg 0, .receive 0, .bridge 0 .process]
  .bridge 0 (.read 1 { data := [0], size := 1, address := 0x1000 }) ::
    .bridge 0 (.write 1 { data := [9], size := 1, address := 0x1000 }) ::
    .bridge 0 (.read 1 { data := [0], size := 1, address := 0x1000 }) :: (List.replicate 6 turn).flatten

theorem device_sequential_readWriteRead : ∃ t, run step openedCounter readWriteRead = some t ∧
    (t.endpoints 0).bridge.futures 1 = some ⟨1, "Slave operation failed"⟩ ∧ (t.endpoints 0).bridge.buffers 2 = [1] ∧
      (t.endpoints 0).Fronts Handshake.plainRam.address Handshake.plainRam.size {} := by
  have hrun : ∃ t, run step openedCounter readWriteRead = some t ∧
      (t.endpoints 0).bridge.futures 1 = some ⟨1, "Slave operation failed"⟩ ∧
      (t.endpoints 0).bridge.buffers 2 = [1] := ⟨_, rfl, rfl, rfl⟩
  obtain ⟨t, hr, hfuture, hbuffer⟩ := hrun
  exact ⟨t, hr, hfuture, hbuffer, device_sequential openedCounter_openedBy (by decide) (by decide) hr⟩

end System

end SwAxi
