import SwAxi.Pipeline
import SwAxi.Requests
import SwAxi.Roster

/-! The slave of the only client, with the masters of that client before it, as an atomic memory: whatever the
interleaving, the requests are executed one after the other in the order of their issue. -/

namespace SwAxi
open Wire (Flatbuffers)
open Transition

/-- Well-formed requests to a slave that implements a byte array: they are answered as those of a memory that executes
    one after the other. -/
def memory {S : Type} [Slave S] {base size : UInt64} {Holds : S → (Nat → UInt8) → Prop}
    (h : IsByteArray base size Holds) (mem : Nat → UInt8) : Contract S where
  issues := WellFormed
  foreign _ := False
  admits x := x.Inside base size
  refuses x := ¬x.Inside base size
  slaves before m := ∃ s, m 0 = some s ∧ Holds s (contents base size mem before)
  answers before y r := r = y.answer base (contents base size mem before)
  target h := h.target
  serve {before m bytes x id s} hslaves hissues hin hs := by
    obtain ⟨s', hs', hholds⟩ := hslaves
    obtain rfl : s' = s := Option.some.inj (hs'.symm.trans hs)
    have hinside : { x with id }.Inside base size := hin
    obtain ⟨hholds, hanswer⟩ := h.serve hholds hinside hissues.data
    refine ⟨⟨_, Function.update_self _ _ _, ?_⟩, hanswer⟩
    rw [contents_inside hin]
    exact hholds
  drop {before m x} hslaves hno := by
    obtain ⟨s, hs, hholds⟩ := hslaves
    rcases hno with hout | hnone
    · exact ⟨s, hs, by rwa [contents_outside hout]⟩
    · rw [hs] at hnone
      cases hnone
  serveForeign _ hforeign := hforeign.elim

/-- The users issue well-formed requests; those inside the block are let through, and the others are refused. -/
structure Contract.OfBlock {S : Type} [Slave S] (C : Contract S) (base size : UInt64) : Prop where
  issues : ∀ bytes x, C.issues bytes x ↔ WellFormed bytes x
  admits : ∀ x, x.Inside base size → C.admits x
  refuses : ∀ x, ¬x.Inside base size → C.refuses x

theorem memory_ofBlock {S : Type} [Slave S] {base size : UInt64} {Holds : S → (Nat → UInt8) → Prop}
    (h : IsByteArray base size Holds) (mem : Nat → UInt8) : (memory h mem).OfBlock base size where
  issues _ _ := Iff.rfl
  admits _ hin := hin
  refuses _ hout := hout

/-! ### Atomicity -/

/-- A total order of the requests that has those of each master in the order of issue. -/
structure Serial (issued : List Transaction) (order : List Nat) : Prop where
  perm : order.Perm (List.range issued.length)
  masters : order.Pairwise fun p q =>
    (issued[p]?).map Transaction.initiator = (issued[q]?).map Transaction.initiator → p < q

theorem serial_range (issued : List Transaction) : Serial issued (List.range issued.length) where
  perm := .refl _
  masters := by
    refine List.pairwise_lt_range.imp ?_
    intro p q hlt _
    exact hlt

/-- Every request inside the block whose future is set went well, and a read of them has the bytes that the array
    holds once the requests before it are executed. -/
def Endpoint.Atomic {S Buf : Type} (base size : UInt64) (mem : Nat → UInt8) (issued : List Transaction)
    (order : List Nat) (c : Endpoint S Buf) : Prop :=
  ∀ before p after x st, order = before ++ p :: after → issued[p]? = some x → c.bridge.futures p = some st →
    x.Inside base size → st.isOk = true ∧
      (x.type = .readReq →
        c.bridge.buffers p = x.bytes base (contents base size mem (before.filterMap fun q => issued[q]?)))

theorem filterMap_getElem?_range {issued : List Transaction} {p : Nat} (hp : p ≤ issued.length) :
    (List.range p).filterMap (fun q => issued[q]?) = issued.take p := by
  induction p with
  | zero => rfl
  | succ p ih =>
    rw [List.range_succ, List.filterMap_append, ih (Nat.le_of_succ_le hp), List.take_add_one]
    simp [List.getElem?_eq_getElem hp]

/-- Before a number in the range come those below it. -/
theorem eq_range_of_split {n p : Nat} {before after : List Nat} (h : List.range n = before ++ p :: after) :
    before = List.range p := by
  have hlen : before.length < n := by
    have hlen := congrArg List.length h
    simp at hlen
    omega
  have hp : p = before.length := by
    have hget := congrArg (fun l => l[before.length]?) h
    simpa [hlen, eq_comm] using hget
  have htake := congrArg (List.take before.length) h
  rw [List.take_range, Nat.min_eq_left (Nat.le_of_lt hlen), List.take_left] at htake
  rw [hp, htake]

/-! ### New requests only come after the others -/

section
variable {S Buf : Type} [Slave S] [Flatbuffers Buf]

theorem Flow.Step.issued {U : Users} {f f' : Flow S Buf} (h : Flow.Step U f f') : f.ledger.issued <+: f'.ledger.issued := by
  cases h with
  | issue bytes txn => exact List.prefix_append _ _
  | _ => exact List.prefix_rfl

namespace System
variable {s t : System S Buf}

def issued (s : System S Buf) : List Transaction := (s.endpoints 0).bridge.history.issued

theorem Move.issued {U : Users} (h : Move U s t) : s.issued <+: t.issued := by
  change (s.flow 0).ledger.issued <+: (t.flow 0).ledger.issued
  cases h with
  | endpoint i hi hstep hothers hrouter hroute hrecord =>
    by_cases hi0 : 0 = i
    · subst hi0
      exact hstep.issued
    · rw [hothers 0 hi0]
  | take i order msgArr rest routed hi hreceiving hup horder hturn hroute hrecord hflow =>
    rw [hflow, Flow.pass_apply]
    by_cases hi0 : 0 = i
    · subst hi0
      rw [Function.update_self]
      exact List.prefix_rfl
    · rw [Function.update_of_ne hi0]
      exact List.prefix_rfl
  | hand k msgArr hsending hroute hrouter hrecord hflow => rw [hflow]
  | handDone k hsending hroute hrouter hrecord hflow =>
    rw [hflow]
    by_cases hk0 : 0 = k
    · subst hk0
      rw [Function.update_self]
      exact List.prefix_rfl
    · rw [Function.update_of_ne hk0]

/-! ### What the client holds -/

variable {base size : UInt64} {Holds : S → (Nat → UInt8) → Prop} {harray : IsByteArray base size Holds}
  {mem : Nat → UInt8} {own : UInt64 → Prop}

/-- A request inside the block that is resolved has got its response. -/
theorem Piping.executed (h : s.Piping (memory harray mem) own) {p : Nat} {x : Transaction} {st : Status}
    (hx : s.issued[p]? = some x) (hp : (s.endpoints 0).bridge.futures p = some st) (hin : x.Inside base size) :
    st.isOk = true ∧ (x.type = .readReq → (s.endpoints 0).bridge.buffers p =
      x.bytes base (contents base size mem (s.issued.take p))) := by
  obtain ⟨k, hk⟩ := h.served
  obtain ⟨y, r, hr⟩ := hk.tracked.settled p st hp
  obtain rfl : x = y := Option.some.inj (hx.symm.trans hr.issued)
  have hanswer : r = (sentAs s.issued p x).answer base (contents base size mem (s.issued.take p)) := by
    rcases hr.bears with hbears | hbears
    · -- Only requests outside the block are refused.
      cases hbears with
      | refused p y err hy hreq hrefused =>
        obtain rfl : x = y := Option.some.inj (hx.symm.trans hy)
        exact absurd hin hrefused
    · cases hbears with
      | response p y r hy hanswers hadmitted hright =>
        obtain rfl : x = y := Option.some.inj (hx.symm.trans hy)
        exact hright
  subst hanswer
  refine ⟨by rw [hr.status]; rfl, fun hread => ?_⟩
  obtain ⟨bytes, hbytes, hbuffer⟩ := hr.buffer hread rfl
  have hdata : ((sentAs s.issued p x).answer base (contents base size mem (s.issued.take p))).data =
      x.bytes base (contents base size mem (s.issued.take p)) := if_neg (by simp [sentAs, hread])
  rw [hdata] at hbuffer
  have hroom : bytes.length = x.size.toNat := hbytes.buffer bytes rfl
  refine hbuffer.trans ?_
  rw [Bridge.overwrite, List.drop_of_length_le (by simp [Transaction.bytes, hroom]), List.append_nil]

theorem Piping.atomic (h : s.Piping (memory harray mem) own) {issued : List Transaction} (hissued : s.issued <+: issued) :
    (s.endpoints 0).Atomic base size mem issued (List.range issued.length) := by
  intro before p after x st horder hx hp hin
  obtain ⟨k, hk⟩ := h.served
  obtain ⟨y, r, hr⟩ := hk.tracked.settled p st hp
  have hlt : p < s.issued.length := (List.getElem?_eq_some_iff.mp hr.issued).1
  obtain ⟨more, rfl⟩ := hissued
  have htake : (s.issued ++ more).take p = s.issued.take p := List.take_append_of_le_length (Nat.le_of_lt hlt)
  rw [List.getElem?_append_left hlt] at hx
  rw [eq_range_of_split horder, filterMap_getElem?_range (by simp; omega), htake]
  exact h.executed hx hp hin

/-! ### The client -/

/-- The handshake of the only client, whose user has the slave registered first and masters after it, has led to this
    system. -/
def OpenedBy (slave : S) (config : IpConfig) (s : System S Buf) : Prop :=
  ∃ (h₀ : Handshake S Buf) (es : List Handshake.Event) (h : Handshake S Buf) (names : List String), h₀.Fresh ∧
    h₀.router.router.clients.length = 1 ∧ (h₀.parties 0).regs = .slave slave config :: names.map .master ∧
    run Handshake.step h₀ es = some h ∧ (h.parties 0).calling = .started ∧ s = h.system

/-- Its users pass buffers of the size that they state, and ask for something below `2^64`. -/
def Event.WellFormed : Event Buf → Prop
  | .bridge _ (.read _ buffer) | .bridge _ (.write _ buffer) =>
    0 < buffer.size.toNat ∧ buffer.address.toNat + buffer.size.toNat < 2 ^ 64 ∧ buffer.data.length = buffer.size.toNat
  | _ => True

instance (e : Event Buf) : Decidable e.WellFormed :=
  match e with
  | .bridge _ (.read _ _) | .bridge _ (.write _ _) => inferInstanceAs (Decidable (_ < _ ∧ _ < _ ∧ _ = _))
  | .bridge _ (.terminate _) | .bridge _ .notify | .bridge _ .spurious | .bridge _ .pop | .bridge _ .resume
  | .bridge _ .dispatch | .bridge _ (.sent _) | .bridge _ (.receive _) | .bridge _ .process
  | .sent _ | .receive _ | .readMsg _ | .take _ _ | .hand | .writeMsg _ => isTrue trivial

omit [Flatbuffers Buf] in
theorem Event.WellFormed.keeps {C : Contract S} (hC : C.OfBlock base size) {e : Event Buf} (h : e.WellFormed) :
    s.Keeps C.users e := by
  cases e with
  | bridge i e =>
    cases e with
    | read m buffer =>
      obtain ⟨hpos, hbound, hlen⟩ := h
      exact (hC.issues _ _).mpr ⟨rfl, hpos, hbound, fun hw => (nomatch hw), fun _ heq => Option.some.inj heq ▸ hlen⟩
    | write m buffer =>
      obtain ⟨hpos, hbound, hlen⟩ := h
      refine (hC.issues _ _).mpr ⟨rfl, hpos, hbound, fun _ => ?_, fun _ heq => (nomatch heq)⟩
      simp only
      rw [List.length_take, hlen, Nat.min_self]
    | _ => trivial
  | _ => trivial

section
variable {slave : S} {config : IpConfig} {C : Contract S}

omit [Slave S] in
theorem OpenedBy.opened (h : s.OpenedBy slave config) : s.Opened := by
  obtain ⟨h₀, es, h, names, hf, hone, hregs, hr, hstarted, rfl⟩ := h
  obtain ⟨-, -, hro⟩ := hf.run_rostered hone hr
  refine ⟨h₀, es, h, hf, hr, fun i hi => ?_, rfl⟩
  obtain rfl := hro.eq_zero hi
  exact hstarted

/-- What `route` finds is in the block of the slave, and what it does not find is not. -/
theorem OpenedBy.routed (h : s.OpenedBy slave config) (hC : C.OfBlock config.address config.size)
    (hbound : config.address.toNat + config.size.toNat < 2 ^ 64) : C.Routed s.router := by
  obtain ⟨h₀, es, h, names, hf, hone, hregs, hr, hstarted, rfl⟩ := h
  obtain ⟨hI, -, hro⟩ := hf.run_rostered hone hr
  rw [hregs] at hro
  obtain ⟨-, hconfigs⟩ := hro.started hI hstarted
  obtain ⟨ip, rest, hips, hip, hrest⟩ := List.map_eq_cons_iff.mp hconfigs
  have haddr : ip.address = config.address := congrArg IpConfig.address hip
  have hsize : ip.size = config.size := congrArg IpConfig.size hip
  have hmasters : ∀ b ∈ rest, b.address = 0 ∧ b.size = 0 := by
    intro b hb
    obtain ⟨name, -, hname⟩ := List.mem_map.mp (hrest ▸ List.mem_map_of_mem hb)
    exact ⟨congrArg IpConfig.address hname.symm, congrArg IpConfig.size hname.symm⟩
  have hw : ip.NoWrap := by
    rw [IpInfo.NoWrap, haddr, hsize]
    exact hbound
  intro order horder bytes x hissues
  have hx := (hC.issues bytes x).mp hissues
  have hfound := Router.findTarget_head hI.sound.kept hro.keyed hips hw hmasters horder hx.size_pos hx.bound
  rw [haddr, hsize] at hfound
  split
  · rename_i found hok
    exact hC.admits x (hfound.mp ⟨found, hok⟩)
  · rename_i err herr
    refine hC.refuses x fun hin => ?_
    obtain ⟨found, hok⟩ := hfound.mpr hin
    rw [herr] at hok
    cases hok

theorem OpenedBy.piping (h : s.OpenedBy slave config) (hC : C.OfBlock config.address config.size)
    (hbound : config.address.toNat + config.size.toNat < 2 ^ 64) (hslaves : ∀ m, m 0 = some slave → C.slaves [] m) :
    s.Piping C fun m => ((s.endpoints 0).bridge.masterMap m).isSome = true := by
  refine h.opened.ready.piping (h.routed hC hbound) ?_ ?_
  · obtain ⟨h₀, es, h, names, hf, hone, hregs, hr, hstarted, rfl⟩ := h
    obtain ⟨-, -, hro⟩ := hf.run_rostered hone hr
    exact fun i hi hi0 => absurd (hro.eq_zero hi) hi0
  · obtain ⟨h₀, es, h, names, hf, hone, hregs, hr, hstarted, rfl⟩ := h
    obtain ⟨hI, -, hro⟩ := hf.run_rostered hone hr
    rw [hregs] at hro
    exact hslaves _ (hro.started hI hstarted).1

theorem OpenedBy.piping_memory {harray : IsByteArray config.address config.size Holds} (h : s.OpenedBy slave config)
    (hbound : config.address.toNat + config.size.toNat < 2 ^ 64) (hmem : Holds slave mem) :
    s.Piping (memory harray mem) fun m => ((s.endpoints 0).bridge.masterMap m).isSome = true :=
  h.piping (memory_ofBlock harray mem) hbound fun _ hm => ⟨slave, hm, hmem⟩

end

/-- In every run of the only client and its router there is one order of all requests, with those of each master in
    the order of issue, such that in every state each request inside the block of the slave that is resolved went
    well, and a read has the bytes that the slave's array holds after the requests before it. -/
theorem memory_atomic {slave : S} {config : IpConfig} (hs : s.OpenedBy slave config)
    (hbound : config.address.toNat + config.size.toNat < 2 ^ 64) (harray : IsByteArray config.address config.size Holds)
    (hmem : Holds slave mem) {es : List (Event Buf)} (hes : ∀ e ∈ es, e.WellFormed) (hr : run step s es = some t) :
    ∃ order, Serial t.issued order ∧
      EveryState step (fun u => (u.endpoints 0).Atomic config.address config.size mem t.issued order) s es := by
  refine ⟨List.range t.issued.length, serial_range t.issued, everyState_iff.mpr fun pre u hpre hu => ?_⟩
  obtain ⟨post, rfl⟩ := hpre
  have hkeeps : EveryStep step (fun s e => s.Keeps (memory harray mem).users e) s pre :=
    everyStep_of_forall fun e he _ => (hes e (List.mem_append_left _ he)).keeps (memory_ofBlock harray mem)
  have hpiping : u.Piping (memory harray mem) _ :=
    run_invariant_of_everyStep (fun _ _ _ h he hs => h.step he hs) (hs.piping_memory hbound hmem) hkeeps hu
  have hissued : u.issued <+: t.issued := by
    obtain ⟨u', hu', ht⟩ := run_append.mp hr
    rw [hu] at hu'
    cases hu'
    have keep : ∀ (v : System S Buf) e w, u.issued <+: v.issued → v.step e = some w → u.issued <+: w.issued :=
      fun v e w h hs => h.trans (step_move (keeps_anyone e) hs).issued
    exact run_invariant keep List.prefix_rfl ht
  exact hpiping.atomic hissued

/-- The second master-lite test bench: two bytes are written, and a read of them is issued before the write is
    resolved. -/
def writeThenRead : List (Event Wire.Message) :=
  let writes := [.bridge 0 .pop, .bridge 0 .dispatch, .sent 0, .readMsg 0]
  let routes := [.take 0 (opened.router.ipMMap.map Prod.snd), .hand, .writeMsg 0]
  let processes := [.receive 0, .bridge 0 .process]
  let turn := writes ++ routes ++ processes
  .bridge 0 (.write 1 { data := [7, 8], size := 2, address := 0x1004 }) ::
    .bridge 0 (.read 1 { data := [0, 0], size := 2, address := 0x1004 }) :: (turn ++ turn ++ turn ++ turn)

theorem opened_openedBy : opened.OpenedBy { addr := 0x1000 } Handshake.plainRam := by
  have hrun : (run Handshake.step Handshake.slaveAndMaster Handshake.untilStarted).map (fun h =>
      (h.parties 0).calling matches .started) = some true := by decide
  obtain ⟨h, hr, hstarted⟩ := Option.map_eq_some_iff.mp hrun
  refine ⟨_, _, h, ["Soft-Master"], Handshake.slaveAndMaster_fresh, rfl, rfl, hr, ?_, ?_⟩
  · split at hstarted
    · assumption
    · cases hstarted
  · simp [opened, hr]

theorem memory_atomic_writeThenRead :
    ∃ t, run step opened writeThenRead = some t ∧ (t.endpoints 0).bridge.buffers 1 = [7, 8] ∧
      (t.endpoints 0).bridge.futures 1 = some {} ∧ ∃ order, Serial t.issued order ∧
      EveryState step (fun u => (u.endpoints 0).Atomic Handshake.plainRam.address Handshake.plainRam.size (fun _ => 0) t.issued order)
        opened writeThenRead := by
  have hrun : (run step opened writeThenRead).map (fun t =>
      ((t.endpoints 0).bridge.buffers 1, (t.endpoints 0).bridge.futures 1)) = some ([7, 8], some {}) := by decide
  obtain ⟨t, hr, heq⟩ := Option.map_eq_some_iff.mp hrun
  obtain ⟨hbuffers, hfutures⟩ := Prod.mk.inj heq
  exact ⟨t, hr, hbuffers, hfutures,
    memory_atomic opened_openedBy (by decide) (Ram.isByteArray _ _) ⟨rfl, rfl⟩ (by decide) hr⟩

end System

end

end SwAxi
