import SwAxi.Atomic

/-! Masters that share the slave of the only client: where no other master has written, a master finds what a memory
of its own would hold. -/

namespace SwAxi
open Wire (Flatbuffers)
open Transition
open Memory (Access load execute execute_filter)

/-- The ranges of the two requests have no address in common. -/
def Transaction.Apart (x y : Transaction) : Prop :=
  x.address.toNat + x.size.toNat ≤ y.address.toNat ∨ y.address.toNat + y.size.toNat ≤ x.address.toNat

instance (x y : Transaction) : Decidable (x.Apart y) := inferInstanceAs (Decidable (_ ∨ _))

section
variable {base size : UInt64} {mem : Nat → UInt8} {x y : Transaction}

/-- A request that is apart from another touches no cell of it. -/
theorem Transaction.Apart.untouched (h : y.Apart x) (hy : y.Inside base size) (hx : x.Inside base size)
    (hdata : y.type = .writeReq → y.data.length = y.size.toNat) {i : Nat} (hi : i < x.size.toNat) :
    ¬(y.access base).Touches (x.offset base + i) := by
  unfold Transaction.access
  split
  · rename_i hwrite
    have hlen := hdata hwrite
    obtain ⟨hybase, -⟩ := hy
    obtain ⟨hxbase, -⟩ := hx
    simp only [Access.Touches, Transaction.offset, hlen, not_and, not_lt]
    rcases h with hbelow | habove <;> omega
  · exact fun h => h

/-- The bytes of a read depend only on the requests that may write to it. -/
theorem bytes_filter {requests : List Transaction} {keep : Transaction → Bool} (hx : x.Inside base size)
    (hdata : ∀ y ∈ requests, y.type = .writeReq → y.data.length = y.size.toNat)
    (hapart : ∀ y ∈ requests, keep y = false → y.type = .writeReq → y.Apart x) :
    x.bytes base (contents base size mem requests) = x.bytes base (contents base size mem (requests.filter keep)) := by
  refine List.map_congr_left fun i hi => ?_
  have hi : i < x.size.toNat := List.mem_range.mp hi
  unfold contents
  rw [List.filter_comm]
  refine (execute_filter fun y hy hno => ?_).symm
  obtain ⟨hmem, hin⟩ := List.mem_filter.mp hy
  have hin : y.Inside base size := of_decide_eq_true hin
  by_cases hwrite : y.type = .writeReq
  · exact (hapart y hmem hno hwrite).untouched hin hx (hdata y hmem) hi
  · unfold Transaction.access
    rw [if_neg hwrite]
    exact fun h => h

end

namespace System
variable {S Buf : Type} [Slave S] [Flatbuffers Buf] {s t : System S Buf}

/-- In every run of the only client and its router, a read that is resolved has the bytes that the requests of its own
    master before it leave in the array, if no other master wrote to its range before it. -/
theorem memory_private {slave : S} {config : IpConfig} {Holds : S → (Nat → UInt8) → Prop} {mem : Nat → UInt8}
    (hs : s.OpenedBy slave config) (hbound : config.address.toNat + config.size.toNat < 2 ^ 64)
    (harray : IsByteArray config.address config.size Holds) (hmem : Holds slave mem) {es : List (Event Buf)}
    (hes : ∀ e ∈ es, e.WellFormed) (hr : run step s es = some t) {p : Nat} {x : Transaction} {st : Status}
    (hx : t.issued[p]? = some x) (hp : (t.endpoints 0).bridge.futures p = some st)
    (hin : x.Inside config.address config.size) (hread : x.type = .readReq)
    (hapart : ∀ y ∈ t.issued.take p, y.initiator ≠ x.initiator → y.type = .writeReq → y.Apart x) :
    st.isOk = true ∧ (t.endpoints 0).bridge.buffers p = x.bytes config.address (contents config.address config.size mem
      ((t.issued.take p).filter fun y => y.initiator = x.initiator)) := by
  have hkeeps : EveryStep step (fun s e => s.Keeps (memory harray mem).users e) s es :=
    everyStep_of_forall fun e he _ => (hes e he).keeps (memory_ofBlock harray mem)
  have hpiping : t.Piping (memory harray mem) _ :=
    run_invariant_of_everyStep (fun _ _ _ h he hs => h.step he hs) (hs.piping_memory hbound hmem) hkeeps hr
  obtain ⟨hok, hbytes⟩ := hpiping.executed hx hp hin
  refine ⟨hok, (hbytes hread).trans (bytes_filter hin (fun y hy => ?_) fun y hy hno => ?_)⟩
  · obtain ⟨k, hk⟩ := hpiping.served
    obtain ⟨-, -, bytes, hissues⟩ := hk.tracked.users y (List.mem_of_mem_take hy)
    exact hissues.data
  · exact hapart y hy (by simpa using hno)

end System

/-! ### Two masters -/

namespace Handshake

/-- The client of the second test bench, with another master. -/
def slaveAndMasters : Handshake Ram Wire.Message :=
  { slaveAndMaster with
    parties _ := {
      info := { name := "02-sw-master-lite" }
      uri := "unix:///tmp/sw-axi"
      sock := 3
      regs := [.slave { addr := 0x1000 } plainRam, .master "Soft-Master", .master "Second-Master"] } }

theorem slaveAndMasters_fresh : slaveAndMasters.Fresh where
  router := slaveAndMaster_fresh.router
  bridges _ := rfl
  calling _ := rfl
  logs _ := ⟨rfl, rfl, rfl⟩
  toRouter _ := rfl
  toClient _ := rfl

/-- Its calls one after the other, up to `start`. -/
def untilBothStarted : List Event :=
  (List.replicate 4 [.partyCalls 0, .routerReceives, .partyReads 0]).flatten ++ [.partyCalls 0, .routerReceives] ++
    List.replicate 7 .routerWrites ++ List.replicate 7 (.partyReads 0)

end Handshake

namespace System

/-- The system that they lead to. -/
def openedByTwo : System Ram Wire.Message :=
  ((run Handshake.step Handshake.slaveAndMasters Handshake.untilBothStarted).get (by decide)).system

theorem openedByTwo_openedBy : openedByTwo.OpenedBy { addr := 0x1000 } Handshake.plainRam := by
  have hrun : ∃ h, run Handshake.step Handshake.slaveAndMasters Handshake.untilBothStarted = some h ∧
      (h.parties 0).calling = .started := ⟨_, rfl, rfl⟩
  obtain ⟨h, hr, hstarted⟩ := hrun
  refine ⟨_, _, h, ["Soft-Master", "Second-Master"], Handshake.slaveAndMasters_fresh, rfl, rfl, hr, hstarted, ?_⟩
  simp [openedByTwo, hr]

/-- Each master writes a byte, and the first one reads its byte back. -/
def bothWrite : List (Event Wire.Message) :=
  let turn := [.bridge 0 .pop, .bridge 0 .dispatch, .sent 0, .readMsg 0,
    .take 0 (openedByTwo.router.ipMMap.map Prod.snd), .hand, .writeMsg 0, .receive 0, .bridge 0 .process]
  .bridge 0 (.write 1 { data := [7], size := 1, address := 0x1000 }) ::
    .bridge 0 (.write 2 { data := [8], size := 1, address := 0x1004 }) ::
    .bridge 0 (.read 1 { data := [0], size := 1, address := 0x1000 }) :: (List.replicate 6 turn).flatten

/-- The requests that they issue. -/
def bothIssued : List Transaction :=
  [{ type := .writeReq, initiator := 1, address := 0x1000, size := 1, data := [7], ok := true },
    { type := .writeReq, initiator := 2, address := 0x1004, size := 1, data := [8], ok := true },
    { type := .readReq, initiator := 1, address := 0x1000, size := 1, ok := true }]

theorem memory_private_bothWrite : ∃ t, run step openedByTwo bothWrite = some t ∧ t.issued = bothIssued ∧
    (t.endpoints 0).bridge.buffers 2 = bothIssued[2].bytes 0x1000
      (contents 0x1000 0x2000 (fun _ => 0) ((bothIssued.take 2).filter fun y => y.initiator = 1)) := by
  have hrun : ∃ t, run step openedByTwo bothWrite = some t ∧ (t.endpoints 0).bridge.futures 2 = some {} ∧
      t.issued = bothIssued := ⟨_, rfl, rfl, rfl⟩
  obtain ⟨t, hr, hp, hissued⟩ := hrun
  have hx : t.issued[2]? = some bothIssued[2] := by rw [hissued]; rfl
  have hread := memory_private openedByTwo_openedBy (by decide) (Ram.isByteArray _ _) ⟨rfl, rfl⟩ (by decide) hr hx hp
    (by decide) rfl (by rw [hissued]; decide)
  rw [hissued] at hread
  exact ⟨t, hr, hissued, hread.2⟩

end System

end SwAxi
