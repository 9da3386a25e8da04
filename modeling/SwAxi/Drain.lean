import SwAxi.Queue

/-! What the queue's consumer gets, and what of it is lost when `finish` comes while the consumer waits: after
a wait, `pop` looks at `done` and not at the queue. -/

namespace SwAxi
open Transition

variable {α : Type}

/-- The item a call of `pop` returned. -/
def Popped.returned : Popped α → List α
  | .item a => [a]
  | .blocked | .finished => []

theorem Popped.before_eq (r : Popped α) (items : List α) : r.before items = r.returned ++ items := by
  cases r <;> rfl

namespace Queue

/-- The item that a call of `pop` returns in this step. -/
def returns (q : Queue α) : Event α → List α
  | .pop => (q.pop.map fun p => p.2.returned).getD []
  | .resume => (q.resume.map fun p => p.2.returned).getD []
  | .push _ | .finish | .notify | .spurious => []

/-- The items that the calls of `pop` returned, in order. -/
def returned (q : Queue α) (es : List (Event α)) : List α := outputs step returns q es

def Event.pushed : Event α → List α
  | .push item => [item]
  | .finish | .notify | .spurious | .pop | .resume => []

/-- The items pushed, in the order of the critical sections. -/
def pushed (es : List (Event α)) : List α := es.flatMap Event.pushed

/-- What the consumer may expect of a run that begins with `early`, the part up to the last `push` that is over
    before `finish` is called. -/
structure Delivers (early es : List (Event α)) : Prop where
  inOrder : ∀ pre, pre <+: es → returned {} pre <+: pushed pre
  /-- When `pop` returns false, everything of `early` was returned. -/
  complete : ∀ pre q t, pre ++ [.resume] <+: es → run step {} pre = some q → q.resume = some (t, .finished) →
    pushed early <+: returned {} pre

/-- `finish` would come while the consumer is in a wait and more is queued than these items, the last ones. -/
def Cuts (q : Queue α) (last : List α) : Prop := q.condVar.waiter ≠ .outside ∧ last.length < q.items.length

variable {q t : Queue α} {e : Event α} {es : List (Event α)}

/-! ### First in, first out -/

theorem step_fifo (h : q.step e = some t) : q.items ++ e.pushed = q.returns e ++ t.items := by
  cases e with
  | push item =>
    cases h
    rfl
  | finish =>
    cases h
    simp [Event.pushed, returns, finish]
  | notify =>
    obtain ⟨c, -, rfl⟩ := Option.map_eq_some_iff.mp h
    simp [Event.pushed, returns]
  | spurious =>
    obtain ⟨c, -, rfl⟩ := Option.map_eq_some_iff.mp h
    simp [Event.pushed, returns]
  | pop =>
    obtain ⟨⟨t, r⟩, hp, rfl⟩ := Option.map_eq_some_iff.mp h
    simp [Event.pushed, returns, hp, pop_items hp, Popped.before_eq]
  | resume =>
    obtain ⟨⟨t, r⟩, hp, rfl⟩ := Option.map_eq_some_iff.mp h
    simp [Event.pushed, returns, hp, resume_items hp, Popped.before_eq]

theorem run_fifo (h : run step q es = some t) : q.items ++ pushed es = returned q es ++ t.items := by
  induction es generalizing q with
  | nil =>
    cases h
    simp [pushed, returned, outputs]
  | cons e es ih =>
    obtain ⟨u, hu, hr⟩ := run_cons_inv h
    calc q.items ++ pushed (e :: es) = q.items ++ e.pushed ++ pushed es := by simp [pushed]
      _ = q.returns e ++ (u.items ++ pushed es) := by rw [step_fifo hu, List.append_assoc]
      _ = returned q (e :: es) ++ t.items := by
        rw [ih hr, returned, returned, outputs_cons returns hu, List.append_assoc]

theorem step_done (h : q.step e = some t) : t.done = true ↔ q.done = true ∨ e = .finish := by
  cases e with
  | push item =>
    cases h
    simp [push]
  | finish =>
    cases h
    simp [finish]
  | notify =>
    obtain ⟨c, -, rfl⟩ := Option.map_eq_some_iff.mp h
    simp
  | spurious =>
    obtain ⟨c, -, rfl⟩ := Option.map_eq_some_iff.mp h
    simp
  | pop =>
    obtain ⟨⟨t, r⟩, hp, rfl⟩ := Option.map_eq_some_iff.mp h
    obtain ⟨-, hhead⟩ := pop_inv hp
    simp [loopHead_done hhead]
  | resume =>
    obtain ⟨⟨t, r⟩, hp, rfl⟩ := Option.map_eq_some_iff.mp h
    rcases (resume_inv hp).2 with ⟨-, rfl, -⟩ | ⟨-, hhead⟩
    · simp
    · simp [loopHead_done hhead]

theorem run_done (h : run step q es = some t) : t.done = true ↔ q.done = true ∨ .finish ∈ es := by
  induction es generalizing q with
  | nil =>
    cases h
    simp
  | cons e es ih =>
    obtain ⟨u, hu, hr⟩ := run_cons_inv h
    rw [ih hr, step_done hu, List.mem_cons, or_assoc, eq_comm (a := e)]

/-! ### After `finish` -/

/-- `finish` was called, these first items are returned or queued, and the consumer waits only if they are all
    returned. -/
structure Draining (early returned : List α) (q : Queue α) : Prop where
  done : q.done = true
  kept : early <+: returned ++ q.items
  waits : q.condVar.waiter = .outside ∨ early <+: returned

theorem Draining.step {early l : List α} (h : Draining early l q) (hs : q.step e = some t) :
    Draining early (l ++ q.returns e) t := by
  refine ⟨(step_done hs).mpr (Or.inl h.done), ?_, ?_⟩
  · rw [List.append_assoc, ← step_fifo hs, ← List.append_assoc]
    exact h.kept.trans (List.prefix_append _ _)
  · rcases h.waits with hout | hall
    · cases e with
      | push item =>
        cases hs
        exact Or.inl hout
      | finish =>
        cases hs
        exact Or.inl hout
      | notify =>
        obtain ⟨c, hc, rfl⟩ := Option.map_eq_some_iff.mp hs
        exact Or.inl ((CondVar.notify_outside hc).mpr hout)
      | spurious =>
        obtain ⟨c, hc, rfl⟩ := Option.map_eq_some_iff.mp hs
        exact Or.inl ((CondVar.spurious_outside hc).mpr hout)
      | pop =>
        obtain ⟨⟨t, r⟩, hp, rfl⟩ := Option.map_eq_some_iff.mp hs
        obtain ⟨-, hhead⟩ := pop_inv hp
        rcases loopHead_cases (q := q) with ⟨hnil, heq⟩ | ⟨a, rest, -, heq⟩
        · -- The queue is empty, so nothing of the first items is left in it.
          have hkept := h.kept
          rw [hnil, List.append_nil] at hkept
          exact Or.inr (hkept.trans (List.prefix_append _ _))
        · rw [heq] at hhead
          cases hhead
          exact Or.inl rfl
      | resume =>
        obtain ⟨⟨t, r⟩, hp, rfl⟩ := Option.map_eq_some_iff.mp hs
        rw [(resume_inv hp).1] at hout
        cases hout
    · exact Or.inr (hall.trans (List.prefix_append _ _))

theorem Draining.run {early l : List α} (h : Draining early l q) (hr : Transition.run Queue.step q es = some t) :
    Draining early (l ++ returned q es) t :=
  run_output returns (fun _ _ _ _ h hs => h.step hs) h hr

/-- A consumer in a wait when `finish` was called comes out of it with false, and with nothing returned before. -/
theorem returns_false (hin : q.condVar.waiter ≠ .outside) (hdone : q.done = true) (hr : run step q es = some t)
    (hres : .resume ∈ es) : ∃ pre u v, pre ++ [.resume] <+: es ∧ run step q pre = some u ∧
      u.resume = some (v, .finished) ∧ returned q pre = [] := by
  induction es generalizing q with
  | nil => cases hres
  | cons e es ih =>
    obtain ⟨u, hu, hr⟩ := run_cons_inv hr
    have later (hin' : u.condVar.waiter ≠ .outside) (hne : e ≠ .resume) (hnone : q.returns e = []) :
        ∃ pre w v, pre ++ [.resume] <+: e :: es ∧ run step q pre = some w ∧ w.resume = some (v, .finished) ∧
          returned q pre = [] := by
      have hmem : Event.resume ∈ es := (List.mem_cons.mp hres).resolve_left (Ne.symm hne)
      obtain ⟨pre, w, v, hpre, hw, hv, hret⟩ := ih hin' ((step_done hu).mpr (Or.inl hdone)) hr hmem
      refine ⟨e :: pre, w, v, List.cons_prefix_cons.mpr ⟨rfl, hpre⟩, (run_cons hu).mpr hw, hv, ?_⟩
      rw [returned, outputs_cons returns hu, hnone]
      exact hret
    cases e with
    | push item =>
      cases hu
      exact later hin (by simp) rfl
    | finish =>
      cases hu
      exact later hin (by simp) rfl
    | notify =>
      obtain ⟨c, hc, rfl⟩ := Option.map_eq_some_iff.mp hu
      exact later (mt (CondVar.notify_outside hc).mp hin) (by simp) rfl
    | spurious =>
      obtain ⟨c, hc, rfl⟩ := Option.map_eq_some_iff.mp hu
      exact later (mt (CondVar.spurious_outside hc).mp hin) (by simp) rfl
    | pop =>
      obtain ⟨⟨t, r⟩, hp, rfl⟩ := Option.map_eq_some_iff.mp hu
      exact absurd (pop_inv hp).1 hin
    | resume =>
      obtain ⟨⟨v, r⟩, hp, rfl⟩ := Option.map_eq_some_iff.mp hu
      rcases (resume_inv hp).2 with ⟨-, -, rfl⟩ | ⟨hnd, -⟩
      · exact ⟨[], q, v, by simp, rfl, hp, rfl⟩
      · rw [hdone] at hnd
        cases hnd

/-! ### The whole run -/

section
variable {early middle late : List (Event α)}

/-- A `pop` that returns false does so after `finish`. -/
theorem finished_after {pre : List (Event α)} {u v : Queue α} (hone : .finish ∉ early ++ middle)
    (hpre : pre ++ [.resume] <+: early ++ middle ++ .finish :: late) (hu : run step {} pre = some u)
    (hv : u.resume = some (v, .finished)) : ∃ post, pre = early ++ middle ++ .finish :: post := by
  have hdone : u.done = true := by
    rcases (resume_inv hv).2 with ⟨hdone, -, -⟩ | ⟨-, hhead⟩
    · exact hdone
    · rcases loopHead_cases (q := u) with ⟨-, heq⟩ | ⟨a, rest, -, heq⟩ <;> rw [heq] at hhead <;> cases hhead
  have hmem : Event.finish ∈ pre := ((run_done hu).mp hdone).resolve_left (by simp)
  have hpre : pre <+: early ++ middle ++ .finish :: late := (List.prefix_append _ _).trans hpre
  rcases List.prefix_or_prefix_of_prefix hpre (List.prefix_append _ _) with hbefore | ⟨post, rfl⟩
  · exact absurd (hbefore.subset hmem) hone
  · cases post with
    | nil =>
      rw [List.append_nil] at hmem
      exact absurd hmem hone
    | cons e post =>
      obtain ⟨rfl, -⟩ := List.cons_prefix_cons.mp ((List.prefix_append_right_inj _).mp hpre)
      exact ⟨post, rfl⟩

/-- The consumer gets everything pushed before `finish`, unless it is in a wait when `finish` is called with such
    an item in the queue, and comes out of that wait. -/
theorem delivers_iff (hq : run step {} (early ++ middle) = some q) (hone : .finish ∉ early ++ middle)
    (ht : run step q.finish late = some t) :
    Delivers early (early ++ middle ++ .finish :: late) ↔ ¬(q.Cuts (pushed middle) ∧ .resume ∈ late) := by
  have hfifo : pushed early ++ pushed middle = returned {} (early ++ middle) ++ q.items := by
    simpa [pushed] using run_fifo hq
  have hlater (post : List (Event α)) : returned {} (early ++ middle ++ .finish :: post) =
      returned {} (early ++ middle) ++ returned q.finish post := by
    rw [returned, outputs_append returns hq, outputs_cons (t := q.finish) returns rfl]
    rfl
  have hfinish {post : List (Event α)} {u : Queue α} :
      run step {} (early ++ middle ++ .finish :: post) = some u ↔ run step q.finish post = some u := by
    rw [run_append]
    exact ⟨fun ⟨v, hv, hu⟩ => by rw [hq] at hv; cases hv; exact hu, fun hu => ⟨q, hq, hu⟩⟩
  constructor
  · rintro h ⟨⟨hin, hlen⟩, hres⟩
    obtain ⟨pre, u, v, hpre, hu, hv, hret⟩ := returns_false (q := q.finish) hin rfl ht hres
    have hall : pushed early <+: returned {} (early ++ middle ++ .finish :: pre) :=
      h.complete _ u v (by simpa using hpre) (hfinish.mpr hu) hv
    rw [hlater, hret, List.append_nil] at hall
    have hle := hall.length_le
    have heq := congrArg List.length hfifo
    simp only [List.length_append] at heq
    omega
  · intro h
    refine ⟨?_, fun pre u v hpre hu hv => ?_⟩
    · rintro pre ⟨post, hpost⟩
      have hall := hfinish.mpr ht
      rw [← hpost, run_append] at hall
      obtain ⟨u, hu, -⟩ := hall
      exact ⟨u.items, (run_fifo hu).symm⟩
    · obtain ⟨post, rfl⟩ := finished_after hone hpre hu hv
      have hpost : post ++ [.resume] <+: late := by simpa using hpre
      have hwaits : q.condVar.waiter = .outside ∨ pushed early <+: returned {} (early ++ middle) := by
        by_cases hout : q.condVar.waiter = .outside
        · exact Or.inl hout
        · -- Only items of `middle` are queued, so those of `early` are all returned.
          have hle : q.items.length ≤ (pushed middle).length :=
            Nat.le_of_not_lt fun hlt => h ⟨⟨hout, hlt⟩, hpost.subset (by simp)⟩
          have heq := congrArg List.length hfifo
          simp only [List.length_append] at heq
          refine Or.inr (List.prefix_of_prefix_length_le ?_ (List.prefix_append _ q.items) (by omega))
          exact ⟨pushed middle, hfifo⟩
      have hstart : Draining (pushed early) (returned {} (early ++ middle)) q.finish :=
        ⟨rfl, ⟨pushed middle, hfifo⟩, hwaits⟩
      rw [hlater]
      refine (hstart.run (hfinish.mp hu)).waits.resolve_left ?_
      rw [(resume_inv hv).1]
      simp

end

/-- The consumer waits; one item is pushed and its notification made; `finish` comes before the consumer goes on. -/
theorem finish_cuts : ¬Delivers [.pop, .push 7, .notify] [.pop, .push 7, .notify, .finish, .resume] := by
  intro h
  have hall := h.complete [.pop, .push 7, .notify, .finish] _ _ List.prefix_rfl rfl rfl
  exact absurd hall (by decide)

/-- With the consumer outside of `pop`, the same calls lose nothing. -/
theorem delivers_before_pop :
    Delivers [.push 7, .notify] ([.push 7, .notify] ++ [] ++ .finish :: [.pop, .notify, .pop, .spurious, .resume]) :=
  (delivers_iff (q := { items := [7] }) (t := { done := true }) rfl (by simp) rfl).mpr fun h =>
    absurd h.1.1 (by decide)

end Queue

end SwAxi
