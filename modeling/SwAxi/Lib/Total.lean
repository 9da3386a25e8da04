import Mathlib.Algebra.Order.BigOperators.Group.Finset
import Mathlib.Algebra.BigOperators.Ring.Nat

/-! Totals of a measure over the first members of a family, of which a step changes one. -/

namespace Total

variable {α : Type} (n : Nat) (g : α → Nat) (F : Nat → α)

/-- The total of `g` over the first `n` members of the family. -/
def total : Nat := ∑ i ∈ Finset.range n, g (F i)

variable {n g F} {i : Nat}

theorem le_total (hi : i < n) : g (F i) ≤ total n g F :=
  Finset.single_le_sum (f := fun j => g (F j)) (fun _ _ => Nat.zero_le _) (Finset.mem_range.mpr hi)

theorem add_le_total {j : Nat} (hi : i < n) (hj : j < n) (hne : i ≠ j) : g (F i) + g (F j) ≤ total n g F :=
  Finset.add_le_sum (f := fun j => g (F j)) (fun _ _ => Nat.zero_le _) (Finset.mem_range.mpr hi) (Finset.mem_range.mpr hj)
    hne

theorem total_eq_zero (h : ∀ i < n, g (F i) = 0) : total n g F = 0 :=
  Finset.sum_eq_zero fun i hi => h i (Finset.mem_range.mp hi)

theorem total_le {a : Nat} (h : ∀ i < n, g (F i) ≤ a) : total n g F ≤ n * a := by
  have hle := Finset.sum_le_card_nsmul (Finset.range n) (fun i => g (F i)) a fun i hi => h i (Finset.mem_range.mp hi)
  simpa [total] using hle

/-- Where only one member counts, it is the total. -/
theorem total_eq_single (hi : i < n) (h : ∀ j < n, j ≠ i → g (F j) = 0) : total n g F = g (F i) :=
  Finset.sum_eq_single_of_mem i (Finset.mem_range.mpr hi) fun j hj hne => h j (Finset.mem_range.mp hj) hne

theorem exists_pos_of_total_pos (h : 0 < total n g F) : ∃ i < n, 0 < g (F i) := by
  by_contra hno
  have hzero : ∀ i < n, g (F i) = 0 := fun i hi => Nat.eq_zero_of_not_pos fun hpos => hno ⟨i, hi, hpos⟩
  rw [total_eq_zero hzero] at h
  exact lt_irrefl _ h

/-- One member is replaced. -/
theorem total_update (hi : i < n) (a : α) : total n g (Function.update F i a) + g (F i) = total n g F + g a := by
  have hmem : i ∈ Finset.range n := Finset.mem_range.mpr hi
  have hcomp : (fun j => g (Function.update F i a j)) = Function.update (fun j => g (F j)) i (g a) :=
    Function.comp_update g F i a
  unfold total
  rw [hcomp, Finset.sum_update_of_mem hmem, ← Finset.sum_sdiff (Finset.singleton_subset_iff.mpr hmem),
    Finset.sum_singleton]
  omega

theorem total_of_others {F' : Nat → α} (hi : i < n) (h : ∀ j, j ≠ i → F' j = F j) :
    total n g F' + g (F i) = total n g F + g (F' i) := by
  have heq : Function.update F i (F' i) = F' := by
    funext j
    by_cases hj : j = i
    · subst hj
      simp
    · rw [Function.update_of_ne hj, h j hj]
  have htotal := total_update (g := g) (F := F) hi (F' i)
  rwa [heq] at htotal

theorem total_congr {F' : Nat → α} (h : ∀ i < n, g (F' i) = g (F i)) : total n g F' = total n g F :=
  Finset.sum_congr rfl fun i hi => h i (Finset.mem_range.mp hi)

theorem length_flatMap_range {β : Type} (n : Nat) (f : Nat → List β) :
    ((List.range n).flatMap f).length = total n List.length f := by
  induction n with
  | zero => rfl
  | succ n ih =>
    rw [List.range_succ, List.flatMap_append, List.length_append, ih, List.flatMap_singleton]
    exact (Finset.sum_range_succ (fun i => (f i).length) n).symm

end Total
