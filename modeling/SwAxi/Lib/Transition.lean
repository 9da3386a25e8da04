import Mathlib.Data.List.Infix

/-! Transition systems given by a partial step function: runs over a list of events, what holds in
    every state of a run and at every step of it, and the induction rules that carry an invariant along
    a run. -/

namespace Transition

variable {σ ε : Type} (next : σ → ε → Option σ)

/-- The state after the events, if every one of them is enabled in turn. -/
def run : σ → List ε → Option σ
  | s, [] => some s
  | s, e :: es => (next s e).bind fun t => run t es

/-- `P` holds in every state that the run over the events visits. -/
def EveryState (P : σ → Prop) : σ → List ε → Prop
  | s, [] => P s
  | s, e :: es => P s ∧ ∀ t, next s e = some t → EveryState P t es

/-- `C` holds at every step that the run over the events takes. -/
def EveryStep (C : σ → ε → Prop) : σ → List ε → Prop
  | _, [] => True
  | s, e :: es => ∀ t, next s e = some t → C s e ∧ EveryStep C t es

instance decidableAfter {τ : Type} (o : Option τ) (Q : τ → Prop) [DecidablePred Q] :
    Decidable (∀ t, o = some t → Q t) :=
  match o with
  | none => isTrue fun _ h => nomatch h
  | some t => decidable_of_iff (Q t) ⟨fun h _ hu => Option.some.inj hu ▸ h, fun h => h t rfl⟩

instance EveryState.decidable {P : σ → Prop} [DecidablePred P] : (es : List ε) → DecidablePred (EveryState next P · es)
  | [], s => inferInstanceAs (Decidable (P s))
  | e :: es, s =>
    have : ∀ t, Decidable (EveryState next P t es) := EveryState.decidable es
    inferInstanceAs (Decidable (P s ∧ ∀ t, next s e = some t → EveryState next P t es))

instance EveryStep.decidable {C : σ → ε → Prop} [∀ s, DecidablePred (C s)] :
    (es : List ε) → DecidablePred (EveryStep next C · es)
  | [], _ => isTrue trivial
  | e :: es, s =>
    have : ∀ t, Decidable (EveryStep next C t es) := EveryStep.decidable es
    inferInstanceAs (Decidable (∀ t, next s e = some t → C s e ∧ EveryStep next C t es))

variable {next}

@[simp] theorem run_nil (s : σ) : run next s [] = some s := rfl

theorem run_cons {s t u : σ} {e : ε} {es : List ε} (h : next s e = some t) :
    run next s (e :: es) = some u ↔ run next t es = some u := by
  simp [run, h]

theorem run_cons_inv {s u : σ} {e : ε} {es : List ε} (h : run next s (e :: es) = some u) :
    ∃ t, next s e = some t ∧ run next t es = some u := by
  simpa [run, Option.bind_eq_some_iff] using h

theorem run_append {s u : σ} {es fs : List ε} :
    run next s (es ++ fs) = some u ↔ ∃ t, run next s es = some t ∧ run next t fs = some u := by
  induction es generalizing s with
  | nil => simp
  | cons e es ih =>
    simp only [List.cons_append, run, Option.bind_eq_some_iff, ih]
    constructor
    · rintro ⟨t, ht, v, hv, hu⟩
      exact ⟨v, ⟨t, ht, hv⟩, hu⟩
    · rintro ⟨v, ⟨t, ht, hv⟩, hu⟩
      exact ⟨t, ht, v, hv, hu⟩

theorem run_snoc {s u : σ} {e : ε} {es : List ε} :
    run next s (es ++ [e]) = some u ↔ ∃ t, run next s es = some t ∧ next t e = some u := by
  rw [run_append]
  simp [run]

/-! ### Invariants -/

/-- What every step keeps, a run keeps. -/
theorem run_invariant {I : σ → Prop} (keep : ∀ s e t, I s → next s e = some t → I t) {s t : σ} {es : List ε}
    (hs : I s) (hr : run next s es = some t) : I t := by
  induction es generalizing s with
  | nil =>
    cases hr
    exact hs
  | cons e es ih =>
    obtain ⟨u, hu, hr⟩ := run_cons_inv hr
    exact ih (keep s e u hs hu) hr

/-- What every step meeting `C` keeps, a run whose steps all meet `C` keeps. -/
theorem run_invariant_of_everyStep {I : σ → Prop} {C : σ → ε → Prop}
    (keep : ∀ s e t, I s → C s e → next s e = some t → I t) {s t : σ} {es : List ε} (hs : I s)
    (hc : EveryStep next C s es) (hr : run next s es = some t) : I t := by
  induction es generalizing s with
  | nil =>
    cases hr
    exact hs
  | cons e es ih =>
    obtain ⟨u, hu, hr⟩ := run_cons_inv hr
    obtain ⟨he, hc⟩ := hc u hu
    exact ih (keep s e u hs he hu) hc hr

/-- What every step keeps between the events so far and the state, a run keeps. -/
theorem run_events {I : List ε → σ → Prop} (keep : ∀ l s e t, I l s → next s e = some t → I (l ++ [e]) t) {s t : σ}
    {es l : List ε} (hs : I l s) (hr : run next s es = some t) : I (l ++ es) t := by
  induction es generalizing s l with
  | nil =>
    cases hr
    simpa using hs
  | cons e es ih =>
    obtain ⟨u, hu, hr⟩ := run_cons_inv hr
    simpa using ih (keep l s e u hs hu) hr

/-! ### Every state and every step of a run -/

theorem EveryState.head {P : σ → Prop} {s : σ} {es : List ε} (h : EveryState next P s es) : P s := by
  cases es with
  | nil => exact h
  | cons e es => exact h.1

/-- The states a run visits are those its prefixes end in. -/
theorem everyState_iff {P : σ → Prop} {s : σ} {es : List ε} :
    EveryState next P s es ↔ ∀ pre t, pre <+: es → run next s pre = some t → P t := by
  induction es generalizing s with
  | nil =>
    constructor
    · rintro h pre t hpre hr
      obtain rfl := List.prefix_nil.mp hpre
      cases hr
      exact h
    · intro h
      exact h [] s List.prefix_rfl rfl
  | cons e es ih =>
    constructor
    · rintro ⟨h0, hs⟩ pre t hpre hr
      cases pre with
      | nil =>
        cases hr
        exact h0
      | cons e' pre =>
        obtain rfl := (List.cons_prefix_cons.mp hpre).1
        obtain ⟨u, hu, hr⟩ := run_cons_inv hr
        exact ih.mp (hs u hu) pre t (List.cons_prefix_cons.mp hpre).2 hr
    · intro h
      refine ⟨h [] s (List.nil_prefix) rfl, fun t ht => ih.mpr fun pre u hpre hr => ?_⟩
      exact h (e :: pre) u (List.cons_prefix_cons.mpr ⟨rfl, hpre⟩) ((run_cons ht).mpr hr)

theorem everyState_of_invariant {I P : σ → Prop} (keep : ∀ s e t, I s → next s e = some t → I t)
    (hP : ∀ s, I s → P s) {s : σ} (hs : I s) (es : List ε) : EveryState next P s es :=
  everyState_iff.mpr fun _ t _ hr => hP t (run_invariant keep hs hr)

theorem everyState_of_everyStep {I P : σ → Prop} {C : σ → ε → Prop}
    (keep : ∀ s e t, I s → C s e → next s e = some t → I t) (hP : ∀ s, I s → P s) {s : σ} (hs : I s) {es : List ε}
    (hc : EveryStep next C s es) : EveryState next P s es := by
  induction es generalizing s with
  | nil => exact hP s hs
  | cons e es ih =>
    refine ⟨hP s hs, fun t ht => ?_⟩
    obtain ⟨he, hrest⟩ := hc t ht
    exact ih (keep s e t hs he ht) hrest

theorem everyStep_of_forall {C : σ → ε → Prop} {s : σ} {es : List ε} (h : ∀ e ∈ es, ∀ s, C s e) :
    EveryStep next C s es := by
  induction es generalizing s with
  | nil => trivial
  | cons e es ih =>
    exact fun t _ => ⟨h e List.mem_cons_self s, ih fun e he => h e (List.mem_cons_of_mem _ he)⟩

/-- What holds at every step taken from a state with `P` holds at every step of a run with `P` all along. -/
theorem EveryState.everyStep {I P : σ → Prop} {C : σ → ε → Prop} (keep : ∀ s e t, I s → next s e = some t → I t)
    (steps : ∀ s e t, I s → P s → next s e = some t → C s e) {s : σ} {es : List ε} (hI : I s)
    (h : EveryState next P s es) : EveryStep next C s es := by
  induction es generalizing s with
  | nil => trivial
  | cons e es ih =>
    intro t ht
    exact ⟨steps s e t hI h.head ht, ih (keep s e t hI ht) (h.2 t ht)⟩

/-- A condition met at every step of a run is met at the step that follows on one of its prefixes. -/
theorem EveryStep.after {C : σ → ε → Prop} {s t u : σ} {pre post : List ε} {e : ε}
    (h : EveryStep next C s (pre ++ e :: post)) (hr : run next s pre = some t) (hs : next t e = some u) : C t e := by
  induction pre generalizing s with
  | nil =>
    cases hr
    exact (h u hs).1
  | cons e' pre ih =>
    obtain ⟨v, hv, hr⟩ := run_cons_inv hr
    exact ih (h v hv).2 hr

/-- Two conditions that mean the same wherever the invariant holds. -/
theorem everyStep_congr {I : σ → Prop} {C D : σ → ε → Prop} (keep : ∀ s e t, I s → next s e = some t → I t)
    (same : ∀ s e t, I s → next s e = some t → (C s e ↔ D s e)) {s : σ} (hI : I s) {es : List ε} :
    EveryStep next C s es ↔ EveryStep next D s es := by
  induction es generalizing s with
  | nil => exact Iff.rfl
  | cons e es ih =>
    refine forall_congr' fun t => forall_congr' fun ht => ?_
    rw [same s e t hI ht, ih (keep s e t hI ht)]

/-- Where one step on an event of the kind `E` decides whether `P` survives, `P` holds all along a run over
    such events exactly when every step meets the deciding condition. -/
theorem everyState_iff_everyStep {I P : σ → Prop} {E : ε → Prop} {C : σ → ε → Prop}
    (keep : ∀ s e t, I s → E e → next s e = some t → I t)
    (decides : ∀ s e t, I s → E e → P s → next s e = some t → (P t ↔ C s e)) {s : σ} (hI : I s) (hP : P s)
    {es : List ε} (hE : ∀ e ∈ es, E e) : EveryState next P s es ↔ EveryStep next C s es := by
  induction es generalizing s with
  | nil => exact ⟨fun _ => trivial, fun _ => hP⟩
  | cons e es ih =>
    have he : E e := hE e List.mem_cons_self
    have hrest : ∀ e' ∈ es, E e' := fun e' h => hE e' (List.mem_cons_of_mem _ h)
    constructor
    · rintro ⟨-, h⟩ t ht
      have hPt : P t := (h t ht).head
      exact ⟨(decides s e t hI he hP ht).mp hPt, (ih (keep s e t hI he ht) hPt hrest).mp (h t ht)⟩
    · intro h
      refine ⟨hP, fun t ht => ?_⟩
      obtain ⟨hc, hsteps⟩ := h t ht
      exact (ih (keep s e t hI he ht) ((decides s e t hI he hP ht).mpr hc) hrest).mpr hsteps

/-- Where one step from a state with `P` decides whether `P` survives and `C` is met, both hold all along a run
    exactly when every step meets the deciding condition. -/
theorem everyState_and_everyStep_iff {P : σ → Prop} {C D : σ → ε → Prop}
    (decides : ∀ s e t, P s → next s e = some t → (P t ∧ C s e ↔ D s e)) {s : σ} (hP : P s) {es : List ε} :
    EveryState next P s es ∧ EveryStep next C s es ↔ EveryStep next D s es := by
  induction es generalizing s with
  | nil => exact ⟨fun _ => trivial, fun _ => ⟨hP, trivial⟩⟩
  | cons e es ih =>
    constructor
    · rintro ⟨⟨-, hstates⟩, hsteps⟩ t ht
      obtain ⟨he, hsteps⟩ := hsteps t ht
      have hPt : P t := (hstates t ht).head
      exact ⟨(decides s e t hP ht).mp ⟨hPt, he⟩, (ih hPt).mp ⟨hstates t ht, hsteps⟩⟩
    · intro h
      refine ⟨⟨hP, fun t ht => ?_⟩, fun t ht => ?_⟩ <;>
        · obtain ⟨he, hrest⟩ := h t ht
          obtain ⟨hPt, hc⟩ := (decides s e t hP ht).mpr he
          obtain ⟨hstates, hsteps⟩ := (ih hPt).mpr hrest
          first
            | exact hstates
            | exact ⟨hc, hsteps⟩

/-! ### Outputs -/

/-- What the steps of the run put out, in order. -/
def outputs {ω : Type} (next : σ → ε → Option σ) (out : σ → ε → List ω) : σ → List ε → List ω
  | _, [] => []
  | s, e :: es =>
    match next s e with
    | none => []
    | some t => out s e ++ outputs next out t es

section
variable {ω ω' : Type} (out : σ → ε → List ω) (out' : σ → ε → List ω')

theorem outputs_cons {s t : σ} {e : ε} {es : List ε} (h : next s e = some t) :
    outputs next out s (e :: es) = out s e ++ outputs next out t es := by
  simp [outputs, h]

theorem outputs_append {s t : σ} {es fs : List ε} (h : run next s es = some t) :
    outputs next out s (es ++ fs) = outputs next out s es ++ outputs next out t fs := by
  induction es generalizing s with
  | nil =>
    cases h
    rfl
  | cons e es ih =>
    obtain ⟨u, hu, hr⟩ := run_cons_inv h
    rw [List.cons_append, outputs_cons out hu, outputs_cons out hu, ih hr, List.append_assoc]

/-- What each step puts out of another output, a run does. -/
theorem outputs_sublist {out out' : σ → ε → List ω} (h : ∀ s e, (out s e).Sublist (out' s e)) (s : σ) (es : List ε) :
    (outputs next out s es).Sublist (outputs next out' s es) := by
  induction es generalizing s with
  | nil => exact List.Sublist.refl _
  | cons e es ih =>
    cases hs : next s e with
    | none => simp [outputs, hs]
    | some t =>
      rw [outputs_cons out hs, outputs_cons out' hs]
      exact (h s e).append (ih t)

/-- What every step keeps between the output so far and the state, a run keeps. -/
theorem run_output {I : List ω → σ → Prop} (keep : ∀ l s e t, I l s → next s e = some t → I (l ++ out s e) t)
    {s t : σ} {es : List ε} {l : List ω} (hs : I l s) (hr : run next s es = some t) :
    I (l ++ outputs next out s es) t := by
  induction es generalizing s l with
  | nil =>
    cases hr
    simpa [outputs] using hs
  | cons e es ih =>
    obtain ⟨u, hu, hr⟩ := run_cons_inv hr
    rw [outputs_cons out hu, ← List.append_assoc]
    exact ih (keep l s e u hs hu) hr

/-- What every step keeps between two outputs so far and the state, a run keeps. -/
theorem run_outputs {I : List ω → List ω' → σ → Prop}
    (keep : ∀ l l' s e t, I l l' s → next s e = some t → I (l ++ out s e) (l' ++ out' s e) t) {s t : σ} {es : List ε}
    {l : List ω} {l' : List ω'} (hs : I l l' s) (hr : run next s es = some t) :
    I (l ++ outputs next out s es) (l' ++ outputs next out' s es) t := by
  induction es generalizing s l l' with
  | nil =>
    cases hr
    simpa [outputs] using hs
  | cons e es ih =>
    obtain ⟨u, hu, hr⟩ := run_cons_inv hr
    rw [outputs_cons out hu, outputs_cons out' hu, ← List.append_assoc, ← List.append_assoc]
    exact ih (keep l l' s e u hs hu) hr

end

end Transition
