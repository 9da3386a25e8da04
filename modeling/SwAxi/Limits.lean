import SwAxi.Lookup

/-! `findTarget` at the limit of the address space. Its sums are taken modulo `2^64`: a request whose end wraps
    around passes the check for the end of the block, and a block that ends at `2^64` is never hit. -/

namespace SwAxi
namespace Router
open Transition

section
variable {r : Router} {b : IpInfo} {order : List IpInfo} {address size : UInt64}

/-! ### What is found -/

/-- A request that is resolved lies in the block found, as integers. -/
def FoundFits (r : Router) (order : List IpInfo) (address size : UInt64) : Prop :=
  ∀ id client, findTarget order address size = .ok (id, client) →
    ∃ b, r.ips[id.toNat]? = some b ∧ client = b.clientId ∧ b.address.toNat ≤ address.toNat ∧
      address.toNat + size.toNat ≤ b.address.toNat + b.size.toNat

/-- Each address of each block that does not reach beyond `2^64` is found. -/
def FindsBlocks (r : Router) (order : List IpInfo) : Prop :=
  ∀ b ∈ r.ips, 1 ≤ b.size → b.address.toNat + b.size.toNat ≤ 2 ^ 64 → ∀ a : UInt64, a.toNat ∈ b.range →
    ∃ found, findTarget order a 1 = .ok found

/-- The search hits a block that holds the address and ends below `2^64`; then only the end is checked, modulo
    `2^64`. -/
theorem findTarget_cases (hk : r.Kept) (ho : r.IterationOrder order) (address size : UInt64) :
    (∃ b ∈ r.ips, b.NoWrap ∧ address.toNat ∈ b.range ∧
      findTarget order address size = if (address.toNat + size.toNat) % 2 ^ 64 ≤ b.address.toNat + b.size.toNat then
        .ok (b.id, b.clientId) else .error ("Transaction spans blocks bondary: " ++ b.name)) ∨
    ((∀ b ∈ order, b.NoWrap → address.toNat ∉ b.range) ∧
      findTarget order address size = .error ("No IP block found at address: 0x" ++ hex16 address)) := by
  cases hfind : order.find? fun rIp => decide (rIp.address ≤ address) && decide (address < rIp.address + rIp.size) with
  | none =>
    refine Or.inr ⟨fun b hb hw ha => ?_, by simp only [findTarget, hfind]⟩
    exact List.find?_eq_none.mp hfind b hb (hits_iff.mpr ⟨hw, ha⟩)
  | some b =>
    have hb : b ∈ r.ips := ho.mem hk (List.mem_of_find?_eq_some hfind)
    have hhit := List.find?_some hfind
    obtain ⟨hw, ha⟩ := hits_iff.mp hhit
    refine Or.inl ⟨b, hb, hw, ha, ?_⟩
    have hend : b.address + b.size < address + size ↔
        ¬(address.toNat + size.toNat) % 2 ^ 64 ≤ b.address.toNat + b.size.toNat := by
      rw [UInt64.lt_iff_toNat_lt, UInt64.toNat_add, UInt64.toNat_add, Nat.mod_eq_of_lt hw, Nat.not_le]
    simp only [findTarget, hfind, hend, ite_not]

theorem foundFits_iff (hk : r.Kept) (hl : r.Listed) (ho : r.IterationOrder order) : r.FoundFits order address size ↔
    (address.toNat + size.toNat < 2 ^ 64 ∨ ∀ b ∈ r.ips, b.NoWrap → address.toNat ∉ b.range) := by
  have haddress := address.toNat_lt
  have hsize := size.toNat_lt
  constructor
  · intro hfits
    by_contra hno
    obtain ⟨hwraps, hheld⟩ := not_or.mp hno
    have hwraps : 2 ^ 64 ≤ address.toNat + size.toNat := Nat.not_lt.mp hwraps
    rcases findTarget_cases hk ho address size with ⟨b, hb, hw, ha, hfound⟩ | ⟨hnone, -⟩
    · -- The end wraps around to an address below the request's own, hence below the end of the block.
      have hw : b.address.toNat + b.size.toNat < 2 ^ 64 := hw
      have ha : b.address.toNat ≤ address.toNat ∧ address.toNat < b.address.toNat + b.size.toNat := ha
      rw [if_pos (by omega)] at hfound
      obtain ⟨c, hc, -, -, hfit⟩ := hfits _ _ hfound
      obtain ⟨k, hget⟩ := List.getElem?_of_mem hb
      rw [hk.ids k b hget, hget] at hc
      cases hc
      omega
    · refine hheld fun b hb hw ha => ?_
      have hpos : 0 < b.size.toNat := by
        obtain ⟨hlow, hhigh⟩ := ha
        omega
      exact hnone b (ho.mem_iff.mpr (List.mem_map.mpr ⟨_, hl b hb hw hpos, rfl⟩)) hw ha
  · intro hcond id client hok
    rcases findTarget_cases hk ho address size with ⟨b, hb, hw, ha, hfound⟩ | ⟨-, hfound⟩
    · rw [hfound] at hok
      split at hok
      · cases hok
        rename_i hend
        obtain ⟨k, hget⟩ := List.getElem?_of_mem hb
        have hbelow : address.toNat + size.toNat < 2 ^ 64 := hcond.resolve_right fun hno => hno b hb hw ha
        rw [Nat.mod_eq_of_lt hbelow] at hend
        exact ⟨b, by rw [hk.ids k b hget, hget], rfl, ha.1, hend⟩
      · cases hok
    · rw [hfound] at hok
      cases hok

/-- The last address there is lies in no block that the search can hit. -/
theorem findsBlocks_iff (hk : r.Kept) (hl : r.Listed) (ho : r.IterationOrder order) : r.FindsBlocks order ↔
    ∀ b ∈ r.ips, b.address.toNat + b.size.toNat ≠ 2 ^ 64 := by
  constructor
  · intro hfinds b hb hend
    have haddress := b.address.toNat_lt
    let last : UInt64 := UInt64.ofNat (2 ^ 64 - 1)
    have hlast : last.toNat = 2 ^ 64 - 1 := by decide
    have hpos : 1 ≤ b.size := UInt64.le_iff_toNat_le.mpr (by rw [UInt64.toNat_one]; omega)
    obtain ⟨found, hfound⟩ := hfinds b hb hpos hend.le last ⟨by omega, by omega⟩
    rcases findTarget_cases hk ho last 1 with ⟨c, -, hw, ha, -⟩ | ⟨-, herr⟩
    · have hw : c.address.toNat + c.size.toNat < 2 ^ 64 := hw
      have ha : last.toNat < c.address.toNat + c.size.toNat := ha.2
      omega
    · rw [hfound] at herr
      cases herr
  · intro hends b hb hpos hle a ha
    have hw : b.NoWrap := lt_of_le_of_ne hle (hends b hb)
    have hpos : 0 < b.size.toNat := UInt64.le_iff_toNat_le.mp hpos
    rcases findTarget_cases hk ho a 1 with ⟨c, -, -, hac, hfound⟩ | ⟨hnone, -⟩
    · have hac : a.toNat < c.address.toNat + c.size.toNat := hac.2
      rw [UInt64.toNat_one, if_pos ((Nat.mod_le _ _).trans hac)] at hfound
      exact ⟨_, hfound⟩
    · exact absurd ha (hnone b (ho.mem_iff.mpr (List.mem_map.mpr ⟨_, hl b hb hw hpos, rfl⟩)) hw)

end

/-- `findTarget` is right about requests and blocks at the limit exactly where no end wraps around: neither that of a
    request that starts in a block, nor that of a block that ends at `2^64`. -/
theorem found_at_limit_iff {r t : Router} (hr : r.Accepted) {ips : List IpInfo} (ht : run register r ips = some t)
    {order : List IpInfo} (ho : t.IterationOrder order) (address size : UInt64) :
    t.FoundFits order address size ∧ t.FindsBlocks order ↔
      (address.toNat + size.toNat < 2 ^ 64 ∨ ∀ b ∈ t.ips, b.NoWrap → address.toNat ∉ b.range) ∧
        ∀ b ∈ t.ips, b.address.toNat + b.size.toNat ≠ 2 ^ 64 := by
  have hk : t.Kept := run_invariant (fun _ _ _ hk hs => hk.register hs) hr.kept ht
  have hl : t.Listed := Listed.of_run hr ht
  rw [foundFits_iff hk hl ho, findsBlocks_iff hk hl ho]

/-- A block at the top of the address space. -/
def topBlock : IpInfo := slaveAt "top" 0xfffffffffffff000 0x1000

def topped : Router :=
  { single with ipCount := 1, ipMMap := [(0xfffffffffffff000, topBlock)], ips := [topBlock] }

def lowBlock : IpInfo := slaveAt "low" 0x1000 0x1000

def lowered : Router :=
  { single with ipCount := 1, ipMMap := [(0x1000, lowBlock)], ips := [lowBlock] }

/-- A request of nearly `2^64` bytes from the middle of a small block is accepted, and a byte in the middle of the
    block at the top is not found. -/
theorem wrapping_request_accepted : single.Accepted ∧
    (run register single [lowBlock] = some lowered ∧ lowered.IterationOrder [lowBlock] ∧
      ¬lowered.FoundFits [lowBlock] 0x1800 0xfffffffffffff000) ∧
    run register single [topBlock] = some topped ∧ topped.IterationOrder [topBlock] ∧ ¬topped.FindsBlocks [topBlock] := by
  refine ⟨single_accepted, ⟨by decide, by decide, fun hfits => ?_⟩, by decide, by decide, fun hfinds => ?_⟩
  · obtain ⟨b, hget, -, -, hfit⟩ := hfits 0 0 (by decide)
    obtain rfl : lowBlock = b := Option.some.inj hget
    revert hfit
    decide
  · obtain ⟨found, hfound⟩ := hfinds topBlock (by decide) (by decide) (by decide) 0xfffffffffffff800
      ⟨by decide, by decide⟩
    cases hfound

theorem found_at_limit_lowered :
    lowered.FoundFits [lowBlock] 0x1800 0x100 ∧ lowered.FindsBlocks [lowBlock] := by
  have hrun : run register single [lowBlock] = some lowered := by decide
  have horder : lowered.IterationOrder [lowBlock] := by decide
  exact (found_at_limit_iff single_accepted hrun horder 0x1800 0x100).mpr ⟨Or.inl (by decide), by decide⟩

end Router

end SwAxi
