import SwAxi.Lib.Transition
import Mathlib.Algebra.Order.Group.Nat
import Mathlib.Algebra.BigOperators.Ring.Nat

/-! Potentials of a transition system: a natural number that every step uses up, but for what its event pays in.
They bound the length of a run, and lead a run whose events pay nothing to a state in which none of them is enabled. -/

namespace Transition

variable {σ ε : Type} {next : σ → ε → Option σ} {φ : σ → Nat} {cost : ε → Nat} {s t : σ} {es : List ε}

/-- What the run has not paid for was there at its start. -/
theorem run_potential_of_invariant {I : σ → Prop} (keep : ∀ s e t, I s → next s e = some t → I t)
    (step : ∀ s e t, I s → next s e = some t → φ t + 1 ≤ φ s + cost e) (hs : I s) (hr : run next s es = some t) :
    φ t + es.length ≤ φ s + (es.map cost).sum := by
  induction es generalizing s with
  | nil =>
    cases hr
    simp
  | cons e es ih =>
    obtain ⟨u, hu, hr⟩ := run_cons_inv hr
    have hstep : φ u + 1 ≤ φ s + cost e := step s e u hs hu
    have hrest : φ t + es.length ≤ φ u + (es.map cost).sum := ih (keep s e u hs hu) hr
    simp only [List.length_cons, List.map_cons, List.sum_cons]
    omega

theorem run_potential (step : ∀ s e t, next s e = some t → φ t + 1 ≤ φ s + cost e) (hr : run next s es = some t) :
    φ t + es.length ≤ φ s + (es.map cost).sum :=
  run_potential_of_invariant (I := fun _ => True) (fun _ _ _ _ _ => trivial) (fun s e t _ h => step s e t h) trivial hr

/-- Where no event pays anything, the potential bounds the run. -/
theorem run_length_le {I : σ → Prop} (keep : ∀ s e t, I s → next s e = some t → I t)
    (step : ∀ s e t, I s → next s e = some t → φ t + 1 ≤ φ s) (hs : I s) (hr : run next s es = some t) :
    es.length ≤ φ s := by
  have hrun : φ t + es.length ≤ φ s + (es.map fun _ => 0).sum := run_potential_of_invariant keep step hs hr
  have hzero : (es.map fun _ => 0).sum = 0 := by simp
  omega

/-- Where events of the kind `E` pay nothing, and one that meets `C` is enabled whenever any of them is, steps that
    meet `C` lead to a state in which none is enabled. -/
theorem exists_run_to_rest_of {E : ε → Prop} {C : σ → ε → Prop} {I : σ → Prop}
    (keep : ∀ s e t, I s → E e → next s e = some t → I t)
    (step : ∀ s e t, E e → next s e = some t → φ t + 1 ≤ φ s)
    (goes : ∀ s e t, I s → E e → next s e = some t → ∃ e' t', E e' ∧ C s e' ∧ next s e' = some t') (hs : I s) :
    ∃ es t, (∀ e ∈ es, E e) ∧ EveryStep next C s es ∧ run next s es = some t ∧ ∀ e u, E e → next t e ≠ some u := by
  induction hn : φ s using Nat.strong_induction_on generalizing s with
  | _ n ih =>
    by_cases hrest : ∃ e u, E e ∧ next s e = some u
    · obtain ⟨e₀, u₀, he₀, hu₀⟩ := hrest
      obtain ⟨e, u, he, hc, hu⟩ := goes s e₀ u₀ hs he₀ hu₀
      have hlt : φ u < n := by
        have hle := step s e u he hu
        omega
      obtain ⟨es, t, hes, hcs, hr, ht⟩ := ih (φ u) hlt (keep s e u hs he hu) rfl
      refine ⟨e :: es, t, fun x hx => ?_, fun v hv => ?_, (run_cons hu).mpr hr, ht⟩
      · rcases List.mem_cons.mp hx with rfl | hx
        · exact he
        · exact hes x hx
      · rw [hu] at hv
        cases hv
        exact ⟨hc, hcs⟩
    · exact ⟨[], s, by simp, trivial, rfl, fun e u he hu => hrest ⟨e, u, he, hu⟩⟩

/-- Events of the kind `E` pay nothing: they come to an end. -/
theorem exists_run_to_rest {E : ε → Prop} (step : ∀ s e t, E e → next s e = some t → φ t + 1 ≤ φ s) (s : σ) :
    ∃ es t, (∀ e ∈ es, E e) ∧ run next s es = some t ∧ ∀ e u, E e → next t e ≠ some u := by
  obtain ⟨es, t, hes, -, hr, ht⟩ := exists_run_to_rest_of (C := fun _ _ => True) (I := fun _ => True)
    (fun _ _ _ _ _ _ => trivial) step (fun _ e u _ he hu => ⟨e, u, he, trivial, hu⟩) (trivial : (fun _ => True) s)
  exact ⟨es, t, hes, hr, ht⟩

end Transition
