import SwAxi.Routing
import Mathlib.Data.List.Pairwise

/-! What `findTarget` answers. The map `ipMMap` is keyed by the start address, and a block registered at the
    address of an earlier one takes its place; only blocks without addresses are lost so, and at most one of
    the others can hold an address, so the order in which the map is iterated does not matter. -/

namespace SwAxi
open Transition

/-- The addresses of a request as integers. -/
def requested (address size : UInt64) : Set ℕ := Set.Ico address.toNat (address.toNat + size.toNat)

namespace Router

section
variable {r t : Router} {ip b : IpInfo} {order : List IpInfo} {address size : UInt64}

/-! ### No sized block is lost from the map -/

/-- Every registered block that has addresses is in the map, under its own. -/
def Keyed (r : Router) : Prop := ∀ b ∈ r.ips, 0 < b.size.toNat → (b.address, b) ∈ r.ipMMap

/-- The comparisons of the search on integers; they hit no block that reaches `2^64`, whose end wraps around. -/
theorem hits_iff : (decide (b.address ≤ address) && decide (address < b.address + b.size)) = true ↔
    b.NoWrap ∧ address.toNat ∈ b.range := by
  rw [Bool.and_eq_true, decide_eq_true_eq, decide_eq_true_eq, UInt64.le_iff_toNat_le, UInt64.lt_iff_toNat_lt,
    UInt64.toNat_add]
  have haddress := b.address.toNat_lt
  have hsize := b.size.toNat_lt
  unfold IpInfo.NoWrap IpInfo.range
  rw [Set.mem_Ico]
  omega

/-- A block at the address of one that has addresses, all of them found, is refused. -/
theorem overlaps_of_address_eq (hb : b.NoWrap) (hsize : 0 < b.size.toNat) (h : ip.address = b.address) :
    overlaps ip b = true := by
  have hhit := hits_iff.mpr ⟨hb, show ip.address.toNat ∈ b.range by
    rw [h]
    exact ⟨Nat.le_refl _, by omega⟩⟩
  unfold overlaps
  rw [hhit, Bool.true_or]

/-- Every registered block with addresses that the search can hit is in the map, under its own. -/
def Listed (r : Router) : Prop := ∀ b ∈ r.ips, b.NoWrap → 0 < b.size.toNat → (b.address, b) ∈ r.ipMMap

theorem Listed.register (h : r.Listed) (hr : r.register ip = some t) : t.Listed := by
  rcases register_inv hr with ⟨rfl, -⟩ | ⟨rfl, hfree, -⟩
  · simpa [Listed] using h
  · intro b hb hw hsize
    rw [store_ips, countMaster_ips] at hb
    rw [store_ipMMap, countMaster_ipMMap, mapInsert]
    rcases List.mem_append.mp hb with hb | hb
    · have hne : b.address ≠ ip.address := by
        intro heq
        have hover := overlaps_of_address_eq hw hsize heq.symm
        rw [hfree b hb] at hover
        cases hover
      exact List.mem_cons_of_mem _ (List.mem_filter.mpr ⟨h b hb hw hsize, by simpa using hne⟩)
    · rw [List.mem_singleton.mp hb]
      exact List.mem_cons_self

theorem Listed.keyed (h : r.Listed) (hw : r.NoWraps) : r.Keyed := fun b hb hsize => h b hb (hw b hb) hsize

theorem NoWraps.of_register (hr : r.register ip = some t) (ht : t.NoWraps) : r.NoWraps := by
  rcases register_inv hr with ⟨rfl, -⟩ | ⟨rfl, -⟩
  · simpa [NoWraps] using ht
  · intro b hb
    exact ht b (by simpa using Or.inl hb)

theorem Keyed.register (h : r.Keyed) (hr : r.register ip = some t) (ht : t.NoWraps) : t.Keyed := by
  have hlisted : r.Listed := fun b hb _ hsize => h b hb hsize
  exact (hlisted.register hr).keyed ht

/-- Along any registrations. -/
theorem Listed.of_run (hr : r.Accepted) {ips : List IpInfo} (ht : run Router.register r ips = some t) : t.Listed :=
  run_invariant (fun _ _ _ hl hs => hl.register hs) (by simp [Listed, hr.ips]) ht

/-! ### The first hit is the only one -/

theorem hit_iff (hb : b.NoWrap) : (decide (b.address ≤ address) && decide (address < b.address + b.size)) = true ↔
    address.toNat ∈ b.range :=
  hits_iff.trans (and_iff_right hb)

theorem Disjoints.eq_of_mem (h : r.Disjoints) {c : IpInfo} (hb : b ∈ r.ips) (hc : c ∈ r.ips) {a : ℕ}
    (hab : a ∈ b.range) (hac : a ∈ c.range) : b = c := by
  by_contra hne
  have hsymm : Std.Symm fun a b : IpInfo => Disjoint a.range b.range := ⟨fun _ _ hd => hd.symm⟩
  have hdisjoint : Disjoint b.range c.range := List.Pairwise.forall h hb hc hne
  exact Set.disjoint_left.mp hdisjoint hab hac

/-- The search finds the block that holds the address. -/
theorem find_of_mem (hk : r.Kept) (hkeyed : r.Keyed) (hd : r.Disjoints) (hw : r.NoWraps) (ho : r.IterationOrder order)
    (hb : b ∈ r.ips) (ha : address.toNat ∈ b.range) :
    (order.find? fun rIp => decide (rIp.address ≤ address) && decide (address < rIp.address + rIp.size)) = some b := by
  have hsize : 0 < b.size.toNat := by
    obtain ⟨hlow, hhigh⟩ := ha
    omega
  have hmem : b ∈ order := ho.mem_iff.mpr (List.mem_map.mpr ⟨_, hkeyed b hb hsize, rfl⟩)
  cases hfind : order.find? fun rIp => decide (rIp.address ≤ address) && decide (address < rIp.address + rIp.size) with
  | none => exact absurd ((hit_iff (hw b hb)).mpr ha) (List.find?_eq_none.mp hfind b hmem)
  | some c =>
    have hc : c ∈ r.ips := ho.mem hk (List.mem_of_find?_eq_some hfind)
    have hhit := List.find?_some hfind
    have hac : address.toNat ∈ c.range := (hit_iff (hw c hc)).mp hhit
    rw [hd.eq_of_mem hb hc ha hac]

theorem findTarget_of_mem (hk : r.Kept) (hkeyed : r.Keyed) (hd : r.Disjoints) (hw : r.NoWraps)
    (ho : r.IterationOrder order) (hbound : address.toNat + size.toNat < 2 ^ 64) (hb : b ∈ r.ips)
    (ha : address.toNat ∈ b.range) : findTarget order address size =
      if b.address.toNat + b.size.toNat < address.toNat + size.toNat then
        .error ("Transaction spans blocks bondary: " ++ b.name)
      else .ok (b.id, b.clientId) := by
  have hspan : b.address + b.size < address + size ↔
      b.address.toNat + b.size.toNat < address.toNat + size.toNat := by
    rw [UInt64.lt_iff_toNat_lt, UInt64.toNat_add, UInt64.toNat_add, Nat.mod_eq_of_lt (hw b hb), Nat.mod_eq_of_lt hbound]
  simp only [findTarget, find_of_mem hk hkeyed hd hw ho hb ha, hspan]

theorem findTarget_of_not_mem (hk : r.Kept) (hw : r.NoWraps) (ho : r.IterationOrder order)
    (ha : ∀ b ∈ r.ips, address.toNat ∉ b.range) :
    findTarget order address size = .error ("No IP block found at address: 0x" ++ hex16 address) := by
  have hnone : (order.find? fun rIp => decide (rIp.address ≤ address) && decide (address < rIp.address + rIp.size)) =
      none := by
    refine List.find?_eq_none.mpr fun c hmem hhit => ?_
    have hc : c ∈ r.ips := ho.mem hk hmem
    exact ha c hc ((hit_iff (hw c hc)).mp hhit)
  simp only [findTarget, hnone]

theorem requested_subset_iff (hsize : 1 ≤ size) : requested address size ⊆ b.range ↔
    b.address.toNat ≤ address.toNat ∧ address.toNat + size.toNat ≤ b.address.toNat + b.size.toNat := by
  have hpos : 1 ≤ size.toNat := UInt64.le_iff_toNat_le.mp hsize
  exact Set.Ico_subset_Ico_iff (by omega)

end

/-! ### What the search answers -/

/-- `findTarget` names the block that holds the whole request, tells a request that leaves the block it starts in
    from one that starts in none, and sees no difference between the orders of iteration. -/
theorem findTarget_exact {r t : Router} (hr : r.Accepted) {ips : List IpInfo} (ht : run register r ips = some t)
    (hd : t.Disjoints) (hw : t.NoWraps) {order : List IpInfo} (ho : t.IterationOrder order) {address size : UInt64}
    (hsize : 1 ≤ size) (hbound : address.toNat + size.toNat < 2 ^ 64) :
    (∀ b ∈ t.ips, requested address size ⊆ b.range → findTarget order address size = .ok (b.id, b.clientId)) ∧
    (∀ b ∈ t.ips, address.toNat ∈ b.range → ¬ requested address size ⊆ b.range →
      findTarget order address size = .error ("Transaction spans blocks bondary: " ++ b.name)) ∧
    ((∀ b ∈ t.ips, address.toNat ∉ b.range) →
      findTarget order address size = .error ("No IP block found at address: 0x" ++ hex16 address)) ∧
    ∀ order', t.IterationOrder order' → findTarget order' address size = findTarget order address size := by
  have hk : t.Kept := run_invariant (fun _ _ _ hk hs => hk.register hs) hr.kept ht
  have hkeyed : t.Keyed := (Listed.of_run hr ht).keyed hw
  have hpos : 1 ≤ size.toNat := UInt64.le_iff_toNat_le.mp hsize
  have hin : ∀ b ∈ t.ips, address.toNat ∈ b.range → ∀ order', t.IterationOrder order' → findTarget order' address size =
      if b.address.toNat + b.size.toNat < address.toNat + size.toNat then
        .error ("Transaction spans blocks bondary: " ++ b.name)
      else .ok (b.id, b.clientId) :=
    fun b hb ha order' ho' => findTarget_of_mem hk hkeyed hd hw ho' hbound hb ha
  have hout : (∀ b ∈ t.ips, address.toNat ∉ b.range) → ∀ order', t.IterationOrder order' →
      findTarget order' address size = .error ("No IP block found at address: 0x" ++ hex16 address) :=
    fun ha order' ho' => findTarget_of_not_mem hk hw ho' ha
  refine ⟨?_, ?_, fun ha => hout ha order ho, ?_⟩
  · intro b hb hfits
    obtain ⟨hlow, hhigh⟩ := (requested_subset_iff hsize).mp hfits
    rw [hin b hb ⟨hlow, by omega⟩ order ho, if_neg (by omega)]
  · intro b hb ha hspans
    have hlow : b.address.toNat ≤ address.toNat := ha.1
    rw [requested_subset_iff hsize] at hspans
    rw [hin b hb ha order ho, if_pos (by omega)]
  · intro order' ho'
    by_cases ha : ∃ b ∈ t.ips, address.toNat ∈ b.range
    · obtain ⟨b, hb, ha⟩ := ha
      rw [hin b hb ha order' ho', hin b hb ha order ho]
    · have ha : ∀ b ∈ t.ips, address.toNat ∉ b.range := fun b hb hab => ha ⟨b, hb, hab⟩
      rw [hout ha order' ho', hout ha order ho]

/-- Two masters and then a slave at the same address, and another slave behind it. -/
def crowd : List IpInfo :=
  [{ slaveAt "first" 0 0 with type := .master }, { slaveAt "second" 0 0 with type := .master },
    slaveAt "low" 0 0x1000, slaveAt "high" 0x1000 0x1000]

def lowSlave : IpInfo := { slaveAt "low" 0 0x1000 with id := 2 }

def highSlave : IpInfo := { slaveAt "high" 0x1000 0x1000 with id := 3 }

def crowded : Router :=
  { single with
    ipCount := 4
    masterCount := 2
    ipMMap := [(0x1000, highSlave), (0, lowSlave)]
    ips := [{ slaveAt "first" 0 0 with type := .master }, { slaveAt "second" 0 0 with type := .master, id := 1 },
      lowSlave, highSlave] }

theorem run_crowd : run register single crowd = some crowded := by decide

theorem crowded_noWraps : crowded.NoWraps := by
  intro ip hip
  revert ip
  decide

theorem crowded_disjoints : crowded.Disjoints := by
  simp only [Disjoints, IpInfo.range_disjoint_iff]
  decide

theorem findTarget_exact_crowded :
    findTarget [highSlave, lowSlave] 0x800 0x100 = .ok (2, 0) ∧ findTarget [lowSlave, highSlave] 0x800 0x100 = .ok (2, 0) := by
  have horder : crowded.IterationOrder [highSlave, lowSlave] := by decide
  have hsize : (1 : UInt64) ≤ 0x100 := by decide
  have hbound : (0x800 : UInt64).toNat + (0x100 : UInt64).toNat < 2 ^ 64 := by decide
  have hexact := findTarget_exact single_accepted run_crowd crowded_disjoints crowded_noWraps horder hsize hbound
  have hfits : requested 0x800 0x100 ⊆ lowSlave.range := (requested_subset_iff (by decide)).mpr (by decide)
  have hfound := hexact.1 lowSlave (by decide) hfits
  exact ⟨hfound, (hexact.2.2.2 [lowSlave, highSlave] (by decide)).trans hfound⟩

end Router

end SwAxi
