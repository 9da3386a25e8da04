import SwAxi.Lib.Transition
import SwAxi.Router
import Mathlib.Order.CompletePartialOrder
import Mathlib.Order.Interval.Set.Basic
import Mathlib.Order.Interval.Set.Disjoint
import Mathlib.Tactic.Common

/-! The registry of IP blocks over any sequence of registrations: ids are indices, and the address ranges
are disjoint as long as no accepted block reaches from below into an earlier one. -/

namespace SwAxi

/-- The addresses `[Address, Address + Size)` as integers. -/
def IpInfo.range (ip : IpInfo) : Set ℕ := Set.Ico ip.address.toNat (ip.address.toNat + ip.size.toNat)

/-- The range ends below `2^64`. -/
def IpInfo.NoWrap (ip : IpInfo) : Prop := ip.address.toNat + ip.size.toNat < 2 ^ 64

instance (ip : IpInfo) : Decidable ip.NoWrap := inferInstanceAs (Decidable (_ < _))

theorem IpInfo.range_disjoint_iff {a b : IpInfo} : Disjoint a.range b.range ↔
    a.size.toNat = 0 ∨ b.size.toNat = 0 ∨ a.address.toNat + a.size.toNat ≤ b.address.toNat ∨
      b.address.toNat + b.size.toNat ≤ a.address.toNat := by
  unfold IpInfo.range
  rw [Set.Ico_disjoint_Ico]
  omega

/-- The comparisons of `registerIp` on integers, when neither range wraps. -/
theorem overlaps_iff {ip b : IpInfo} (hip : ip.NoWrap) (hb : b.NoWrap) : overlaps ip b = true ↔
    (b.address.toNat ≤ ip.address.toNat ∧ ip.address.toNat < b.address.toNat + b.size.toNat) ∨
      (ip.address.toNat < b.size.toNat ∧ b.address.toNat < ip.address.toNat + ip.size.toNat) := by
  unfold IpInfo.NoWrap at hip hb
  simp only [overlaps, Bool.or_eq_true, Bool.and_eq_true, decide_eq_true_eq, UInt64.le_iff_toNat_le,
    UInt64.lt_iff_toNat_lt, UInt64.toNat_add, Nat.mod_eq_of_lt hip, Nat.mod_eq_of_lt hb]

namespace Router
open Transition

/-! ### One registration -/

section
variable {r t : Router} {ip : IpInfo} {res : Except String UInt64}

@[simp] theorem countMaster_ips : (r.countMaster ip).ips = r.ips := by unfold countMaster; split <;> rfl
@[simp] theorem countMaster_ipMMap : (r.countMaster ip).ipMMap = r.ipMMap := by unfold countMaster; split <;> rfl
@[simp] theorem countMaster_ipCount : (r.countMaster ip).ipCount = r.ipCount := by unfold countMaster; split <;> rfl
@[simp] theorem countMaster_clients : (r.countMaster ip).clients = r.clients := by unfold countMaster; split <;> rfl

theorem countMaster_masterCount :
    (r.countMaster ip).masterCount = if ip.type.isMaster then r.masterCount + 1 else r.masterCount := by
  unfold countMaster
  split <;> rfl

/-- A registration is refused, with only the master counted, or stores the block under the next id. -/
theorem registerIp_inv (h : r.registerIp ip = some (t, res)) :
    (∃ rIp ∈ r.ips, overlaps ip rIp = true ∧ t = r.countMaster ip ∧
      res = .error ("Address space overlaps with already registered " ++ rIp.name ++ " IP block")) ∨
    ((∀ rIp ∈ r.ips, overlaps ip rIp = false) ∧ r.ips.length < maxSliceLength ∧
      ip.clientId.toNat < r.clients.length ∧ t = (r.countMaster ip).store ip ∧ res = .ok r.ipCount) := by
  simp only [registerIp, countMaster_ips, countMaster_clients, countMaster_ipCount] at h
  cases hf : r.ips.find? (overlaps ip) with
  | some rIp =>
    simp only [hf, Option.some.injEq, Prod.mk.injEq] at h
    obtain ⟨rfl, rfl⟩ := h
    exact Or.inl ⟨rIp, List.mem_of_find?_eq_some hf, List.find?_some hf, rfl, rfl⟩
  | none =>
    simp only [hf] at h
    split at h
    · rename_i hlen
      obtain ⟨rfl, rfl⟩ := Prod.mk.inj (Option.some.inj h)
      exact Or.inr ⟨by simpa using hf, hlen.1, hlen.2, rfl, rfl⟩
    · cases h

theorem registerIp_of_free (hfree : ∀ rIp ∈ r.ips, overlaps ip rIp = false) (hlen : r.ips.length < maxSliceLength)
    (hc : ip.clientId.toNat < r.clients.length) :
    r.registerIp ip = some ((r.countMaster ip).store ip, .ok r.ipCount) := by
  have hnone : r.ips.find? (overlaps ip) = none := List.find?_eq_none.mpr fun b hb => by simp [hfree b hb]
  simp [registerIp, hnone, hlen, hc]

/-- `registerIp` as a step, its answer left out. -/
def register (r : Router) (ip : IpInfo) : Option Router := (r.registerIp ip).map Prod.fst

theorem register_inv (h : r.register ip = some t) :
    (t = r.countMaster ip ∧ ∃ rIp ∈ r.ips, overlaps ip rIp = true) ∨
    (t = (r.countMaster ip).store ip ∧ (∀ rIp ∈ r.ips, overlaps ip rIp = false) ∧
      r.ips.length < maxSliceLength ∧ ip.clientId.toNat < r.clients.length) := by
  obtain ⟨⟨t', res⟩, hr, rfl⟩ := Option.map_eq_some_iff.mp h
  rcases registerIp_inv hr with ⟨rIp, hm, ho, rfl, -⟩ | ⟨hno, hl, hc, rfl, -⟩
  · exact Or.inl ⟨rfl, rIp, hm, ho⟩
  · exact Or.inr ⟨rfl, hno, hl, hc⟩

@[simp] theorem store_ips : (r.store ip).ips = r.ips ++ [{ ip with id := r.ipCount }] := rfl
@[simp] theorem store_ipMMap :
    (r.store ip).ipMMap = mapInsert r.ipMMap ip.address { ip with id := r.ipCount } := rfl
@[simp] theorem store_ipCount : (r.store ip).ipCount = r.ipCount + 1 := rfl
@[simp] theorem store_clients : (r.store ip).clients = r.clients := rfl
@[simp] theorem store_masterCount : (r.store ip).masterCount = r.masterCount := rfl

end

/-! ### Ids are indices -/

/-- What the router's bookkeeping keeps: the next id is the number of blocks, a block's id is its index,
    and the map holds registered blocks under their addresses. -/
structure Kept (r : Router) : Prop where
  count : r.ipCount.toNat = r.ips.length
  bound : r.ips.length ≤ maxSliceLength
  ids : ∀ k (ip : IpInfo), r.ips[k]? = some ip → ip.id.toNat = k
  mapped : ∀ e ∈ r.ipMMap, e.2 ∈ r.ips ∧ e.1 = e.2.address
  keys : (r.ipMMap.map Prod.fst).Nodup
  owners : ∀ ip ∈ r.ips, ip.clientId.toNat < r.clients.length

theorem mem_mapInsert {m : List (UInt64 × IpInfo)} {key : UInt64} {value : IpInfo} {e : UInt64 × IpInfo}
    (h : e ∈ mapInsert m key value) : e = (key, value) ∨ e ∈ m ∧ e.1 ≠ key := by
  rcases List.mem_cons.mp h with rfl | h
  · exact Or.inl rfl
  · obtain ⟨hm, hne⟩ := List.mem_filter.mp h
    exact Or.inr ⟨hm, by simpa using hne⟩

theorem mapInsert_keys_nodup {m : List (UInt64 × IpInfo)} (hm : (m.map Prod.fst).Nodup) (key : UInt64)
    (value : IpInfo) : ((mapInsert m key value).map Prod.fst).Nodup := by
  simp only [mapInsert, List.map_cons, List.nodup_cons, List.mem_map, List.mem_filter]
  refine ⟨?_, (hm.sublist (List.filter_sublist.map _))⟩
  rintro ⟨e, ⟨-, hne⟩, heq⟩
  simp [heq] at hne

section
variable {r t : Router} {ip : IpInfo}

theorem Kept.countMaster (h : r.Kept) : (r.countMaster ip).Kept where
  count := by simpa using h.count
  bound := by simpa using h.bound
  ids := by simpa using h.ids
  mapped := by simpa using h.mapped
  keys := by simpa using h.keys
  owners := by simpa using h.owners

theorem Kept.store (h : r.Kept) (hlen : r.ips.length < maxSliceLength) (hc : ip.clientId.toNat < r.clients.length) :
    (r.store ip).Kept where
  count := by
    have hcount := h.count
    have hsmall : maxSliceLength + 1 < 2 ^ 64 := by decide
    rw [store_ipCount, store_ips, UInt64.toNat_add, List.length_append, List.length_singleton, hcount,
      UInt64.toNat_one, Nat.mod_eq_of_lt (by omega)]
  bound := by
    rw [store_ips, List.length_append, List.length_singleton]
    omega
  ids k b hb := by
    rw [store_ips] at hb
    rcases Nat.lt_trichotomy k r.ips.length with hk | rfl | hk
    · rw [List.getElem?_append_left hk] at hb
      exact h.ids k b hb
    · simp only [List.getElem?_append_right (Nat.le_refl _), Nat.sub_self, List.getElem?_cons_zero,
        Option.some.injEq] at hb
      subst hb
      exact h.count
    · rw [List.getElem?_eq_none (by simpa using Nat.succ_le_of_lt hk)] at hb
      cases hb
  mapped e he := by
    rcases mem_mapInsert he with rfl | ⟨he, -⟩
    · exact ⟨by simp, rfl⟩
    · exact ⟨List.mem_append_left _ (h.mapped e he).1, (h.mapped e he).2⟩
  keys := mapInsert_keys_nodup h.keys _ _
  owners b hb := by
    rcases List.mem_append.mp hb with hb | hb
    · exact h.owners b hb
    · rw [List.mem_singleton.mp hb]
      exact hc

theorem Kept.register (h : r.Kept) (hr : r.register ip = some t) : t.Kept := by
  rcases register_inv hr with ⟨rfl, -⟩ | ⟨rfl, -, hlen, hc⟩
  · exact h.countMaster
  · exact h.countMaster.store (by simpa using hlen) (by simpa using hc)

theorem newRouter_inv {uri : String} {n : Int} (h : newRouter uri n = .ok r) :
    0 < n ∧ r = { uri, numClients := n.toNat } := by
  unfold newRouter at h
  split at h
  · cases h
  · split at h
    · cases h
    · obtain rfl := Except.ok.inj h
      exact ⟨by omega, rfl⟩

theorem Accepted.kept (h : r.Accepted) : r.Kept := by
  obtain ⟨uri, n, r₀, h0, rfl⟩ := h
  obtain ⟨-, rfl⟩ := newRouter_inv h0
  exact ⟨rfl, Nat.zero_le _, by simp [acceptClients], by simp [acceptClients], by simp [acceptClients],
    by simp [acceptClients]⟩

theorem Accepted.ips (h : r.Accepted) : r.ips = [] := by
  obtain ⟨uri, n, r₀, h0, rfl⟩ := h
  obtain ⟨-, rfl⟩ := newRouter_inv h0
  rfl

end

/-! ### Masters -/

/-- The registered masters. -/
def masters (r : Router) : List IpInfo := r.ips.filter fun ip => ip.type.isMaster

/-- A master is not refused. -/
def MasterFits (r : Router) (ip : IpInfo) : Prop := ip.type.isMaster = true → ∀ b ∈ r.ips, overlaps ip b = false

/-- `masterCount` stays the number of masters where no master is refused. -/
theorem registerIp_masters {r t : Router} {ip : IpInfo} {res : Except String UInt64}
    (hcount : r.masterCount.toNat = r.masters.length) (hfits : r.MasterFits ip) (h : r.registerIp ip = some (t, res)) :
    t.masterCount.toNat = t.masters.length := by
  rcases registerIp_inv h with ⟨b, hb, ho, rfl, -⟩ | ⟨-, hlen, -, rfl, -⟩
  · have hslave : ip.type.isMaster = false := by
      by_contra hm
      rw [hfits (by simpa using hm) b hb] at ho
      cases ho
    rw [masters, countMaster_ips, countMaster_masterCount, hslave]
    exact hcount
  · have hle : r.masters.length ≤ r.ips.length := List.length_filter_le _ _
    have hsmall : maxSliceLength + 1 < 2 ^ 64 := by decide
    rw [masters, store_ips, store_masterCount, countMaster_ips, countMaster_masterCount, List.filter_append,
      List.length_append]
    cases hm : ip.type.isMaster with
    | false => simpa [hm, masters] using hcount
    | true =>
      simp only [hm, if_true, List.filter_cons_of_pos, List.filter_nil, List.length_singleton]
      rw [UInt64.toNat_add, hcount, UInt64.toNat_one, Nat.mod_eq_of_lt (by omega)]
      rfl

/-! ### Disjoint ranges -/

/-- The ranges of any two of the router's blocks are disjoint. -/
def Disjoints (r : Router) : Prop := r.ips.Pairwise fun a b => Disjoint a.range b.range

/-- The block starts below the earlier block `b`, at an address that is no less than the size of `b`, and
    reaches into it: the relative position that the comparisons of `registerIp` miss. -/
def Straddles (ip b : IpInfo) : Prop :=
  b.size ≤ ip.address ∧ ip.address < b.address ∧ b.address.toNat < ip.address.toNat + ip.size.toNat ∧ 0 < b.size

/-- Every registered block that the new one straddles is accompanied by one that refuses it. -/
def Caught (r : Router) (ip : IpInfo) : Prop :=
  ∀ b ∈ r.ips, Straddles ip b → ∃ c ∈ r.ips, overlaps ip c = true

/-- Of the relative positions of two ranges that meet, the comparisons miss the straddling one only. -/
theorem disjoint_iff_not_straddles {ip b : IpInfo} (hip : ip.NoWrap) (hb : b.NoWrap)
    (ho : overlaps ip b = false) : Disjoint b.range ip.range ↔ ¬Straddles ip b := by
  have hno : ¬overlaps ip b = true := by simp [ho]
  rw [overlaps_iff hip hb] at hno
  rw [IpInfo.range_disjoint_iff, Straddles, UInt64.le_iff_toNat_le, UInt64.lt_iff_toNat_lt,
    UInt64.lt_iff_toNat_lt, UInt64.toNat_zero]
  omega

/-- All registered blocks lie below `2^64`. -/
def NoWraps (r : Router) : Prop := ∀ ip ∈ r.ips, ip.NoWrap

section
variable {r t : Router} {ip : IpInfo}

theorem NoWraps.register (h : r.NoWraps) (hip : ip.NoWrap) (hr : r.register ip = some t) : t.NoWraps := by
  rcases register_inv hr with ⟨rfl, -⟩ | ⟨rfl, -⟩
  · simpa [NoWraps] using h
  · intro b hb
    rw [store_ips, countMaster_ips] at hb
    rcases List.mem_append.mp hb with hb | hb
    · exact h b hb
    · rw [List.mem_singleton.mp hb]
      exact hip

/-- A registration keeps the ranges disjoint exactly when it is caught. -/
theorem register_disjoints_iff (hw : r.NoWraps) (hip : ip.NoWrap) (hd : r.Disjoints)
    (hr : r.register ip = some t) : t.Disjoints ↔ r.Caught ip := by
  rcases register_inv hr with ⟨rfl, c, hc, ho⟩ | ⟨rfl, hno, -⟩
  · exact ⟨fun _ _ _ _ => ⟨c, hc, ho⟩, fun _ => by simpa [Disjoints] using hd⟩
  · have hcaught : r.Caught ip ↔ ∀ b ∈ r.ips, ¬Straddles ip b := by
      constructor
      · intro h b hb hs
        obtain ⟨c, hc, ho⟩ := h b hb hs
        rw [hno c hc] at ho
        cases ho
      · exact fun h b hb hs => absurd hs (h b hb)
    rw [hcaught, Disjoints, store_ips, countMaster_ips, List.pairwise_append]
    constructor
    · rintro ⟨-, -, h⟩ b hb
      have hd : Disjoint b.range ip.range := h b hb { ip with id := r.ipCount } (by simp)
      exact (disjoint_iff_not_straddles hip (hw b hb) (hno b hb)).mp hd
    · intro h
      refine ⟨hd, List.pairwise_singleton _ _, fun b hb c hc => ?_⟩
      rw [List.mem_singleton.mp hc]
      exact (disjoint_iff_not_straddles hip (hw b hb) (hno b hb)).mpr (h b hb)

end

/-- The ranges of the registered blocks stay disjoint over a sequence of registrations exactly when each
    of them is caught, given that no range wraps. -/
theorem registrations_disjoint_iff {r : Router} (hr : r.Accepted) (ips : List IpInfo) (hw : ∀ ip ∈ ips, ip.NoWrap) :
    EveryState register Disjoints r ips ↔ EveryStep register Caught r ips := by
  have hd : r.Disjoints := by simp [Disjoints, hr.ips]
  have hn : r.NoWraps := by simp [NoWraps, hr.ips]
  have keep : ∀ (r : Router) ip t, r.NoWraps → ip.NoWrap → r.register ip = some t → t.NoWraps :=
    fun _ _ _ hn hip ht => hn.register hip ht
  exact everyState_iff_everyStep keep (fun _ _ _ hn hip hd ht => register_disjoints_iff hn hip hd ht) hn hd hw

/-- A router for one client, before any registration. -/
def single : Router := { uri := "unix:///tmp/sw-axi", numClients := 1, clients := [newClient 0] }

theorem single_accepted : single.Accepted := ⟨"unix:///tmp/sw-axi", 1, _, rfl, rfl⟩

/-- A slave of the first client. -/
def slaveAt (name : String) (address size : UInt64) : IpInfo where
  name
  address
  size
  firstInterrupt := 0
  numInterrupts := 0
  type := .slave
  implementation := .software
  id := 0
  clientId := 0

theorem registrations_disjoint_adjacent :
    EveryState register Disjoints single [slaveAt "low" 0x1000 0x1000, slaveAt "high" 0x2000 0x1000] ↔
      EveryStep register Caught single [slaveAt "low" 0x1000 0x1000, slaveAt "high" 0x2000 0x1000] :=
  registrations_disjoint_iff single_accepted _ (by decide)

/-- The block at `0x2000` reaches into the one registered at `0x3000`, and is accepted. -/
theorem straddling_accepted :
    (∀ ip ∈ [slaveAt "high" 0x3000 0x1000, slaveAt "low" 0x2000 0x1800], ip.NoWrap) ∧
    ¬EveryState register Disjoints single [slaveAt "high" 0x3000 0x1000, slaveAt "low" 0x2000 0x1800] := by
  refine ⟨by decide, fun h => ?_⟩
  have hd := everyState_iff.mp h _ _ List.prefix_rfl rfl
  have hlow := (List.pairwise_cons.mp hd).1 _ (List.mem_singleton_self _)
  rw [IpInfo.range_disjoint_iff] at hlow
  revert hlow
  decide

end Router

end SwAxi
