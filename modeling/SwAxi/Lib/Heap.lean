import Mathlib.Data.List.Nodup
import Mathlib.Data.List.Perm.Basic
import Mathlib.Logic.Function.Basic

/-! Objects that are allocated, reached through handles and released again. A handle is given out once: with nothing
behind it any more, it shows every use of a released object, whatever an allocator would do with the address.

`Holds` lists what there is. A program is followed by what it does to the list, of which the part that it does not
touch is any. -/

structure Heap (α : Type) where
  cells : Nat → Option α
  next : Nat
  fresh : ∀ n, next ≤ n → cells n = none

namespace Heap
variable {α : Type} (h : Heap α) (n : Nat) (a b : α)

def empty : Heap α where
  cells _ := none
  next := 0
  fresh _ _ := rfl

/-- A new object, which gets the handle `h.next`. -/
def alloc : Heap α where
  cells := Function.update h.cells h.next (some a)
  next := h.next + 1
  fresh m hm := by
    rw [Function.update_of_ne (by omega)]
    exact h.fresh m (by omega)

/-- The object behind the handle is changed, if there is one. -/
def store : Heap α where
  cells := Function.update h.cells n ((h.cells n).map fun _ => a)
  next := h.next
  fresh m hm := by
    by_cases hmn : m = n
    · subst hmn
      simp [h.fresh m hm]
    · rw [Function.update_of_ne hmn]
      exact h.fresh m hm

def release : Heap α where
  cells := Function.update h.cells n none
  next := h.next
  fresh m hm := by
    by_cases hmn : m = n
    · subst hmn
      exact Function.update_self ..
    · rw [Function.update_of_ne hmn]
      exact h.fresh m hm

/-- There are these objects behind these handles, and no others. -/
structure Holds (l : List (Nat × α)) : Prop where
  nodup : (l.map Prod.fst).Nodup
  cells : ∀ n a, h.cells n = some a ↔ (n, a) ∈ l

variable {h n a b} {l l' : List (Nat × α)}

theorem Holds.empty : Holds (empty : Heap α) [] where
  nodup := List.nodup_nil
  cells m c := by simp [Heap.empty]

theorem Holds.perm (hh : h.Holds l) (hl : l.Perm l') : h.Holds l' where
  nodup := (hl.map Prod.fst).nodup_iff.mp hh.nodup
  cells m c := (hh.cells m c).trans hl.mem_iff

theorem Holds.get (hh : h.Holds l) (hn : (n, a) ∈ l) : h.cells n = some a := (hh.cells n a).mpr hn

/-- A handle in use is none that will be given out. -/
theorem Holds.lt_next (hh : h.Holds l) {m : Nat} {c : α} (hm : (m, c) ∈ l) : m < h.next := by
  by_contra hle
  have hnone := h.fresh m (by omega)
  rw [hh.get hm] at hnone
  cases hnone

theorem Holds.alloc (hh : h.Holds l) : (h.alloc a).Holds ((h.next, a) :: l) where
  nodup := by
    refine List.nodup_cons.mpr ⟨fun hmem => ?_, hh.nodup⟩
    obtain ⟨⟨m, c⟩, hm, heq⟩ := List.mem_map.mp hmem
    exact Nat.ne_of_lt (hh.lt_next hm) heq
  cells m c := by
    show Function.update h.cells h.next (some a) m = some c ↔ _
    by_cases hm : m = h.next
    · subst hm
      have hnot : (h.next, c) ∉ l := fun hmem => Nat.ne_of_lt (hh.lt_next hmem) rfl
      simp [hnot, eq_comm]
    · rw [Function.update_of_ne hm, hh.cells]
      simp [hm]

/-- The object at the head of the list is behind its handle, and no other is. -/
theorem Holds.notMem_tail (hh : h.Holds ((n, a) :: l)) (c : α) : (n, c) ∉ l := fun hmem =>
  (List.nodup_cons.mp hh.nodup).1 (List.mem_map.mpr ⟨(n, c), hmem, rfl⟩)

theorem Holds.store (hh : h.Holds ((n, b) :: l)) : (h.store n a).Holds ((n, a) :: l) where
  nodup := hh.nodup
  cells m c := by
    show Function.update h.cells n ((h.cells n).map fun _ => a) m = some c ↔ _
    by_cases hm : m = n
    · subst hm
      simp [hh.get List.mem_cons_self, hh.notMem_tail c, eq_comm]
    · rw [Function.update_of_ne hm, hh.cells]
      simp [hm]

theorem Holds.release (hh : h.Holds ((n, a) :: l)) : (h.release n).Holds l where
  nodup := (List.nodup_cons.mp hh.nodup).2
  cells m c := by
    show Function.update h.cells n none m = some c ↔ _
    by_cases hm : m = n
    · subst hm
      simp [hh.notMem_tail c]
    · rw [Function.update_of_ne hm, hh.cells]
      simp [hm]

end Heap
