import SwAxi.Lib.Transition

/-! Forward simulations: where a step of one system is matched by the steps of another over the events that it puts
out, none of them for a step that the other does not see, a run is matched by the run over all that it puts out. -/

namespace Transition

variable {σ ε τ ω : Type} {next : σ → ε → Option σ} {next' : τ → ω → Option τ}

theorem run_simulation {R : σ → τ → Prop} {C : σ → ε → Prop} {out : σ → ε → List ω}
    (match_step : ∀ s e s' t, R s t → C s e → next s e = some s' → ∃ t', run next' t (out s e) = some t' ∧ R s' t')
    {s s' : σ} {t : τ} {es : List ε} (hR : R s t) (hc : EveryStep next C s es) (hr : run next s es = some s') :
    ∃ t', run next' t (outputs next out s es) = some t' ∧ R s' t' := by
  induction es generalizing s t with
  | nil =>
    cases hr
    exact ⟨t, rfl, hR⟩
  | cons e es ih =>
    obtain ⟨u, hu, hr⟩ := run_cons_inv hr
    obtain ⟨he, hc⟩ := hc u hu
    obtain ⟨v, hv, hR⟩ := match_step s e u t hR he hu
    obtain ⟨t', ht', hR⟩ := ih hR hc hr
    refine ⟨t', ?_, hR⟩
    rw [outputs_cons out hu]
    exact run_append.mpr ⟨v, hv, ht'⟩

end Transition
