import SwAxi.Lookup
import SwAxi.Owners

/-! Which registrations `registerIp` accepts, and what a refused one leaves behind. The comparisons ask whether the
    start address lies in a registered block, also for a range without addresses, as a master's is; a master is
    counted before they are made. -/

namespace SwAxi
open Wire (Flatbuffers)
open Transition

/-- The start of the range lies in the block `b`, and one of the comparisons sees it: the first does unless the end of
    `b` wraps around. -/
def IpInfo.StartsIn (ip b : IpInfo) : Prop :=
  ip.address.toNat ∈ b.range ∧ (b.NoWrap ∨ b.address < ip.address ∧ ip.address < b.size)

/-- Of the ranges that have no address in common with a block, the comparisons refuse the empty ones in it. -/
theorem overlaps_of_disjoint {ip b : IpInfo} (hip : ip.NoWrap) (hd : Disjoint ip.range b.range) :
    overlaps ip b = true ↔ ip.size = 0 ∧ ip.StartsIn b := by
  have hwrap : ip.address.toNat + ip.size.toNat < 2 ^ 64 := hip
  rw [IpInfo.range_disjoint_iff] at hd
  rw [overlaps, Bool.or_eq_true, Router.hits_iff, Bool.and_eq_true, decide_eq_true_eq, decide_eq_true_eq, IpInfo.StartsIn,
    ← UInt64.toNat_inj, UInt64.lt_iff_toNat_lt, UInt64.lt_iff_toNat_lt, UInt64.lt_iff_toNat_lt, UInt64.toNat_add,
    Nat.mod_eq_of_lt hwrap, UInt64.toNat_zero, IpInfo.NoWrap, IpInfo.range, Set.mem_Ico]
  omega

namespace Router

section
variable {r t : Router} {ip : IpInfo}

def Accepts (r : Router) (ip : IpInfo) : Prop := ∃ t, r.registerIp ip = some (t, .ok r.ipCount)

def Refuses (r : Router) (ip : IpInfo) : Prop := ∃ t err, r.registerIp ip = some (t, .error err)

/-- The block is not refused, and it is accepted if its client is one of the router's and there is room for it. -/
def Admits (r : Router) (ip : IpInfo) : Prop :=
  ¬r.Refuses ip ∧ (ip.clientId.toNat < r.clients.length → r.ips.length < maxSliceLength → r.Accepts ip)

theorem refuses_iff : r.Refuses ip ↔ ∃ b ∈ r.ips, overlaps ip b = true := by
  constructor
  · rintro ⟨t, err, h⟩
    rcases registerIp_inv h with ⟨b, hb, ho, -⟩ | ⟨-, -, -, -, hok⟩
    · exact ⟨b, hb, ho⟩
    · cases hok
  · rintro ⟨b, hb, ho⟩
    cases hfind : r.ips.find? (overlaps ip) with
    | none => exact absurd ho (List.find?_eq_none.mp hfind b hb)
    | some c =>
      exact ⟨r.countMaster ip, "Address space overlaps with already registered " ++ c.name ++ " IP block", by
        simp only [registerIp, countMaster_ips, hfind]⟩

theorem not_refuses_iff : ¬r.Refuses ip ↔ ∀ b ∈ r.ips, overlaps ip b = false := by
  rw [refuses_iff]
  simp

theorem admits_iff_not_refuses : r.Admits ip ↔ ¬r.Refuses ip := by
  refine ⟨And.left, fun h => ⟨h, fun hc hlen => ?_⟩⟩
  exact ⟨_, registerIp_of_free (not_refuses_iff.mp h) hlen hc⟩

end

/-- A block whose range ends below `2^64` and has no address in common with a registered one is accepted, except for
    an empty range in a registered block. -/
theorem admits_iff {r : Router} {ip : IpInfo} (hip : ip.NoWrap) (hfree : ∀ b ∈ r.ips, Disjoint ip.range b.range) :
    r.Admits ip ↔ (ip.size = 0 → ∀ b ∈ r.ips, ¬ip.StartsIn b) := by
  rw [admits_iff_not_refuses, refuses_iff]
  constructor
  · intro h hsize b hb hin
    exact h ⟨b, hb, (overlaps_of_disjoint hip (hfree b hb)).mpr ⟨hsize, hin⟩⟩
  · rintro h ⟨b, hb, ho⟩
    obtain ⟨hsize, hin⟩ := (overlaps_of_disjoint hip (hfree b hb)).mp ho
    exact h hsize b hb hin

/-- A slave at the address 0. -/
def zeroSlave : IpInfo := slaveAt "ram" 0 0x1000

/-- A master as `registerMaster` makes it. -/
def plainMaster : IpInfo := { slaveAt "master" 0 0 with type := .master }

def zeroed : Router := { single with ipCount := 1, ipMMap := [(0, zeroSlave)], ips := [zeroSlave] }

theorem zeroed_free : ∀ b ∈ zeroed.ips, Disjoint plainMaster.range b.range := by
  intro b _
  exact IpInfo.range_disjoint_iff.mpr (Or.inl rfl)

theorem admits_adjacent : zeroed.Admits (slaveAt "next" 0x1000 0x1000) := by
  have hfree : ∀ b ∈ zeroed.ips, Disjoint (slaveAt "next" 0x1000 0x1000).range b.range := by
    intro b hb
    rw [List.mem_singleton.mp hb, IpInfo.range_disjoint_iff]
    decide
  exact (admits_iff (by decide) hfree).mpr fun hsize => absurd hsize (by decide)

/-- A slave at the address 0 keeps every master out that registers after it. -/
theorem master_after_zeroSlave : single.Accepted ∧ run register single [zeroSlave] = some zeroed ∧
    plainMaster.NoWrap ∧ (∀ b ∈ zeroed.ips, Disjoint plainMaster.range b.range) ∧ ¬zeroed.Admits plainMaster := by
  refine ⟨single_accepted, by decide, by decide, zeroed_free, fun h => h.1 ?_⟩
  exact refuses_iff.mpr ⟨zeroSlave, by decide, by decide⟩

/-! ### What a refused registration leaves behind -/

section
variable {r t : Router} {ip : IpInfo}

/-- A registration that is answered with an error leaves the registry as it was. -/
def RefusedIntact (r : Router) (ip : IpInfo) : Prop :=
  ∀ t err, r.registerIp ip = some (t, .error err) →
    t.ipCount = r.ipCount ∧ t.masterCount = r.masterCount ∧ t.ipMMap = r.ipMMap ∧ t.ips = r.ips

/-- `masterCount` counts the registered masters, and `route` waits for as many terminations: of those that come one
    after the other, it leaves its loop at the last one. -/
structure Counted (Buf : Type) [Flatbuffers Buf] (r : Router) : Prop where
  count : r.masterCount.toNat = r.masters.length
  awaited : ∀ k order (id : UInt64), k < r.masters.length → id.toNat < r.ips.length →
    (({ r with masterCount := r.masterCount - UInt64.ofNat k }.route order
      (RouterClient.terminateMessage id : Buf)).2 = .done ↔ k + 1 = r.masters.length)

theorem refusedIntact_iff : r.RefusedIntact ip ↔ r.MasterFits ip := by
  constructor
  · intro h hmaster
    by_contra hno
    obtain ⟨t, err, href⟩ := not_not.mp (mt not_refuses_iff.mp hno)
    obtain ⟨-, hcount, -⟩ := h t err href
    rcases registerIp_inv href with ⟨-, -, -, rfl, -⟩ | ⟨-, -, -, -, hok⟩
    · -- The refused master was counted.
      rw [countMaster_masterCount, if_pos hmaster] at hcount
      simp at hcount
    · cases hok
  · intro h t err href
    rcases registerIp_inv href with ⟨b, hb, ho, rfl, -⟩ | ⟨-, -, -, -, hok⟩
    · have hslave : ip.type.isMaster = false := by
        by_contra hmaster
        rw [h (by simpa using hmaster) b hb] at ho
        cases ho
      simp [countMaster_masterCount, hslave]
    · cases hok

variable {Buf : Type} [Flatbuffers Buf]

theorem Kept.counted (hk : r.Kept) (hcount : r.masterCount.toNat = r.masters.length) : r.Counted Buf := by
  refine ⟨hcount, fun k order id hlt hid => ?_⟩
  let r' : Router := { r with masterCount := r.masterCount - UInt64.ofNat k }
  have hk' : r'.Kept := ⟨hk.count, hk.bound, hk.ids, hk.mapped, hk.keys, hk.owners⟩
  have hbound := r.masterCount.toNat_lt
  have hofNat : (UInt64.ofNat k).toNat = k := UInt64.toNat_ofNat_of_lt' (by unfold UInt64.size; omega)
  have hrest : r'.masterCount.toNat = r.masters.length - k := by
    rw [← hcount, UInt64.toNat_sub_of_le _ _ (UInt64.le_iff_toNat_le.mpr (by omega)), hofNat]
  have hlast : r'.masterCount - 1 = 0 ↔ k + 1 = r.masters.length := by
    rw [← UInt64.toNat_inj, UInt64.toNat_sub_of_le _ _ (UInt64.le_iff_toNat_le.mpr (by rw [UInt64.toNat_one]; omega)),
      UInt64.toNat_one, UInt64.toNat_zero]
    omega
  have hroute : r'.route order (RouterClient.terminateMessage id : Buf) = _ := hk'.route_terminate hid
  rw [← hlast]
  change (r'.route order _).2 = _ ↔ _
  rw [hroute]
  by_cases h0 : r'.masterCount - 1 = 0 <;> simp [h0]

end

/-- Along any registrations, refused ones leave the registry as it was and `masterCount` right, exactly when no master
    is refused. -/
theorem refused_intact_iff (Buf : Type) [Flatbuffers Buf] {r : Router} (hr : r.Accepted) (ips : List IpInfo) :
    EveryStep register RefusedIntact r ips ∧ EveryState register (Counted Buf) r ips ↔
      EveryStep register MasterFits r ips := by
  have hsame : EveryStep register RefusedIntact r ips ↔ EveryStep register MasterFits r ips :=
    everyStep_congr (I := fun _ => True) (fun _ _ _ _ _ => trivial) (fun _ _ _ _ _ => refusedIntact_iff) trivial
  rw [hsame]
  refine ⟨And.left, fun h => ⟨h, ?_⟩⟩
  have keep : ∀ (s : Router) ip t, s.Kept ∧ s.masterCount.toNat = s.masters.length → s.MasterFits ip →
      s.register ip = some t → t.Kept ∧ t.masterCount.toNat = t.masters.length := by
    rintro s ip t ⟨hk, hcount⟩ hfits ht
    obtain ⟨⟨t, res⟩, hres, rfl⟩ := Option.map_eq_some_iff.mp ht
    exact ⟨hk.register ht, registerIp_masters hcount hfits hres⟩
  have hzero : r.masterCount.toNat = r.masters.length := by
    obtain ⟨uri, n, r₀, h0, rfl⟩ := hr
    obtain ⟨-, rfl⟩ := newRouter_inv h0
    rfl
  exact everyState_of_everyStep keep (fun _ hI => hI.1.counted hI.2) ⟨hr.kept, hzero⟩ h

theorem refused_intact_slaves :
    EveryStep register RefusedIntact single [plainMaster, slaveAt "low" 0x1000 0x1000, slaveAt "high" 0x1800 0x1000] ∧
      EveryState register (Counted Wire.Message) single
        [plainMaster, slaveAt "low" 0x1000 0x1000, slaveAt "high" 0x1800 0x1000] :=
  (refused_intact_iff Wire.Message single_accepted _).mpr (by unfold MasterFits; decide)

/-- The refused master is counted; then `route` would wait for the termination of a master that is not there. -/
theorem refused_master_counted : single.Accepted ∧
    ¬EveryStep register RefusedIntact single [zeroSlave, plainMaster] ∧
    ¬EveryState register (Counted Wire.Message) single [zeroSlave, plainMaster] := by
  refine ⟨single_accepted, fun h => ?_, fun h => ?_⟩
  · have hzero : run register single [zeroSlave] = some zeroed := by decide
    have hmaster : zeroed.register plainMaster = some { zeroed with masterCount := 1 } := by decide
    have hafter : EveryStep register RefusedIntact single ([zeroSlave] ++ [plainMaster]) := h
    have hintact : zeroed.RefusedIntact plainMaster := hafter.after hzero hmaster
    exact absurd (refusedIntact_iff.mp hintact) (by unfold MasterFits; decide)
  · have hcounted := everyState_iff.mp h _ { zeroed with masterCount := 1 } List.prefix_rfl (by decide)
    exact absurd hcounted.count (by decide)

end Router

end SwAxi
