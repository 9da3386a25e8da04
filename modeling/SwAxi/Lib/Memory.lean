import Mathlib.Data.List.Basic

/-! Arrays of cells and the accesses to them, executed one after the other. -/

namespace Memory
variable {β : Type}

/-- The cells from an address on. -/
def load (mem : Nat → β) (address size : Nat) : List β := (List.range size).map fun i => mem (address + i)

def store (mem : Nat → β) (address : Nat) (cells : List β) : Nat → β :=
  fun k => if address ≤ k then (cells[k - address]?).getD (mem k) else mem k

inductive Access (β : Type) where
  | load (address size : Nat)
  | store (address : Nat) (cells : List β)

/-- What an access leaves behind. -/
def Access.apply : Access β → (Nat → β) → Nat → β
  | .load _ _, mem => mem
  | .store address cells, mem => Memory.store mem address cells

/-- What a sequence of accesses leaves behind. -/
def execute (mem : Nat → β) (accesses : List (Access β)) : Nat → β :=
  accesses.foldl (fun mem a => a.apply mem) mem

@[simp] theorem length_load (mem : Nat → β) (address size : Nat) : (load mem address size).length = size := by
  simp [load]

@[simp] theorem execute_nil (mem : Nat → β) : execute mem [] = mem := rfl

@[simp] theorem execute_snoc (mem : Nat → β) (accesses : List (Access β)) (a : Access β) :
    execute mem (accesses ++ [a]) = a.apply (execute mem accesses) := by
  simp [execute]

/-! ### Cells that accesses leave alone -/

/-- The access stores to the cell. -/
def Access.Touches (k : Nat) : Access β → Prop
  | .load _ _ => False
  | .store address cells => address ≤ k ∧ k < address + cells.length

section
variable {mem mem' : Nat → β} {a : Access β} {k : Nat}

theorem Access.apply_congr (h : mem k = mem' k) : a.apply mem k = a.apply mem' k := by
  cases a with
  | load address size => exact h
  | store address cells => simp only [apply, Memory.store, h]

theorem Access.apply_untouched (h : ¬a.Touches k) : a.apply mem k = mem k := by
  cases a with
  | load address size => rfl
  | store address cells =>
    simp only [Touches, not_and, Nat.not_lt] at h
    simp only [apply, Memory.store]
    split
    · rename_i hle
      have hlen := h hle
      rw [List.getElem?_eq_none (by omega), Option.getD_none]
    · rfl

/-- A cell depends on no other cell. -/
theorem execute_congr {accesses : List (Access β)} (h : mem k = mem' k) : execute mem accesses k = execute mem' accesses k := by
  induction accesses generalizing mem mem' with
  | nil => exact h
  | cons a accesses ih => exact ih (Access.apply_congr h)

/-- What does not touch a cell may be left out. -/
theorem execute_filter {α : Type} {f : α → Access β} {keep : α → Bool} {l : List α}
    (h : ∀ x ∈ l, keep x = false → ¬(f x).Touches k) :
    execute mem ((l.filter keep).map f) k = execute mem (l.map f) k := by
  induction l generalizing mem with
  | nil => rfl
  | cons x l ih =>
    have hrest : ∀ y ∈ l, keep y = false → ¬(f y).Touches k := fun y hy => h y (List.mem_cons_of_mem _ hy)
    cases hx : keep x with
    | true =>
      rw [List.filter_cons_of_pos hx]
      exact ih hrest
    | false =>
      rw [List.filter_cons_of_neg (by simp [hx]), ih hrest]
      exact execute_congr (Access.apply_untouched (h x List.mem_cons_self hx)).symm

end

end Memory
