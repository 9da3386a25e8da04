import SwAxi.Lib.CondVar
import SwAxi.Lib.Transition

/-! The synchronized queue between the users of a bridge and its writer thread (`src/lib/Queue.hh`), with
one consumer. Each critical section under the mutex is one step. -/

namespace SwAxi

structure Queue (α : Type) where
  items : List α := []
  done : Bool := false
  condVar : CondVar := {}
  deriving DecidableEq, Repr

/-- What became of a call of `pop`. -/
inductive Popped (α : Type) where
  /-- It waits. -/
  | blocked
  /-- It returned true with this item. -/
  | item (a : α)
  /-- It returned false. -/
  | finished
  deriving DecidableEq, Repr

/-- The items before the call, given those after it. -/
def Popped.before {α : Type} (r : Popped α) (items : List α) : List α :=
  match r with
  | .item a => a :: items
  | .blocked | .finished => items

namespace Queue
variable {α : Type} (q : Queue α)

/-- The critical section of `push`. -/
def push (item : α) : Queue α := { q with items := q.items ++ [item], condVar := q.condVar.signal }

/-- The critical section of `finish`. -/
def finish : Queue α := { q with done := true, condVar := q.condVar.signal }

/-- The head of the loop in `pop`: wait while the queue is empty, else take the front. -/
def loopHead : Queue α × Popped α :=
  match q.items with
  | [] => ({ q with condVar := q.condVar.wait }, .blocked)
  | a :: rest => ({ q with items := rest, condVar := q.condVar.leave }, .item a)

/-- A call of `pop`; the flag `done` is not looked at before the first wait. -/
def pop : Option (Queue α × Popped α) := if q.condVar.waiter = .outside then some q.loopHead else none

/-- The part of `pop` that follows a wake-up. -/
def resume : Option (Queue α × Popped α) :=
  if q.condVar.waiter = .woken then
    if q.done then some ({ q with condVar := q.condVar.leave }, .finished) else some q.loopHead
  else none

def notify : Option (Queue α) := q.condVar.notify.map fun condVar => { q with condVar }

def spurious : Option (Queue α) := q.condVar.spurious.map fun condVar => { q with condVar }

/-- A step of a producer, of the consumer, or of the condition variable. -/
inductive Event (α : Type) where
  | push (item : α)
  | finish
  | notify
  | spurious
  | pop
  | resume
  deriving DecidableEq, Repr

def step : Event α → Option (Queue α)
  | .push item => some (q.push item)
  | .finish => some q.finish
  | .notify => q.notify
  | .spurious => q.spurious
  | .pop => q.pop.map Prod.fst
  | .resume => q.resume.map Prod.fst

/-! ### Lost wake-ups -/

/-- The consumer waits although `finish` was called, and no notification is to come. -/
def Lost : Prop := q.done = true ∧ q.condVar.Stuck

instance : Decidable q.Lost := inferInstanceAs (Decidable (_ ∧ _))

/-- The step is a call of `pop` that finds the queue empty after `finish`, when every notification has been
    made: `finish` came too early for this call. -/
def TooLate (e : Event α) : Prop := e = .pop ∧ q.items = [] ∧ q.done = true ∧ q.condVar.signals = 0

variable {q} {t : Queue α}

theorem loopHead_cases : (q.items = [] ∧ q.loopHead = ({ q with condVar := q.condVar.wait }, .blocked)) ∨
    ∃ a rest, q.items = a :: rest ∧
      q.loopHead = ({ q with items := rest, condVar := q.condVar.leave }, .item a) := by
  unfold loopHead
  cases h : q.items with
  | nil => exact Or.inl ⟨rfl, rfl⟩
  | cons a rest => exact Or.inr ⟨a, rest, rfl, rfl⟩

theorem pop_inv {r : Popped α} (h : q.pop = some (t, r)) : q.condVar.waiter = .outside ∧ q.loopHead = (t, r) := by
  unfold pop at h
  split at h
  · exact ⟨‹_›, Option.some.inj h⟩
  · cases h

theorem resume_inv {r : Popped α} (h : q.resume = some (t, r)) : q.condVar.waiter = .woken ∧
    ((q.done = true ∧ t = { q with condVar := q.condVar.leave } ∧ r = .finished) ∨
      (q.done = false ∧ q.loopHead = (t, r))) := by
  unfold resume at h
  split at h
  · refine ⟨‹_›, ?_⟩
    split at h
    · obtain ⟨rfl, rfl⟩ := Prod.mk.inj (Option.some.inj h)
      exact Or.inl ⟨‹_›, rfl, rfl⟩
    · exact Or.inr ⟨by simpa using ‹¬q.done = true›, Option.some.inj h⟩
  · cases h

/-- An item that `pop` returns was the first one; every other outcome leaves the items alone. -/
theorem loopHead_items {r : Popped α} (h : q.loopHead = (t, r)) : q.items = r.before t.items := by
  rcases loopHead_cases (q := q) with ⟨-, heq⟩ | ⟨a, rest, hcons, heq⟩
  · rw [heq] at h
    cases h
    rfl
  · rw [heq] at h
    cases h
    exact hcons

theorem loopHead_done {r : Popped α} (h : q.loopHead = (t, r)) : t.done = q.done := by
  rcases loopHead_cases (q := q) with ⟨-, heq⟩ | ⟨a, rest, -, heq⟩ <;> rw [heq] at h <;> cases h <;> rfl

theorem pop_items {r : Popped α} (h : q.pop = some (t, r)) : q.items = r.before t.items :=
  loopHead_items (pop_inv h).2

theorem resume_items {r : Popped α} (h : q.resume = some (t, r)) : q.items = r.before t.items := by
  rcases (resume_inv h).2 with ⟨-, rfl, rfl⟩ | ⟨-, hhead⟩
  · rfl
  · exact loopHead_items hhead

theorem tooLate_of_lost {e : Event α} (h : q.step e = some t) (hlost : t.Lost) : q.TooLate e := by
  obtain ⟨hdone, hstuck⟩ := hlost
  cases e with
  | push item =>
    cases h
    exact absurd hstuck CondVar.not_stuck_signal
  | finish =>
    cases h
    exact absurd hstuck CondVar.not_stuck_signal
  | notify =>
    obtain ⟨d, hd, rfl⟩ := Option.map_eq_some_iff.mp h
    exact absurd hstuck (CondVar.not_stuck_notify hd)
  | spurious =>
    obtain ⟨d, hd, rfl⟩ := Option.map_eq_some_iff.mp h
    exact absurd hstuck (CondVar.not_stuck_spurious hd)
  | pop =>
    obtain ⟨⟨t, r⟩, hp, rfl⟩ := Option.map_eq_some_iff.mp h
    obtain ⟨-, hhead⟩ := pop_inv hp
    rcases loopHead_cases (q := q) with ⟨hnil, heq⟩ | ⟨a, rest, -, heq⟩
    · rw [heq] at hhead
      cases hhead
      exact ⟨rfl, hnil, hdone, hstuck.2⟩
    · rw [heq] at hhead
      cases hhead
      exact absurd hstuck CondVar.not_stuck_leave
  | resume =>
    obtain ⟨⟨t, r⟩, hp, rfl⟩ := Option.map_eq_some_iff.mp h
    rcases (resume_inv hp).2 with ⟨-, rfl, -⟩ | ⟨hnd, hhead⟩
    · exact absurd hstuck CondVar.not_stuck_leave
    · -- The consumer waits again only while `done` is not set.
      rcases loopHead_cases (q := q) with ⟨-, heq⟩ | ⟨a, rest, -, heq⟩ <;> rw [heq] at hhead <;> cases hhead <;>
        · rw [hnd] at hdone
          cases hdone

theorem lost_of_tooLate {e : Event α} (h : q.step e = some t) (hlate : q.TooLate e) : t.Lost := by
  obtain ⟨rfl, hnil, hdone, hsignals⟩ := hlate
  obtain ⟨⟨t, r⟩, hp, rfl⟩ := Option.map_eq_some_iff.mp h
  obtain ⟨-, hhead⟩ := pop_inv hp
  rcases loopHead_cases (q := q) with ⟨-, heq⟩ | ⟨a, rest, hcons, -⟩
  · rw [heq] at hhead
    cases hhead
    exact ⟨hdone, rfl, hsignals⟩
  · rw [hnil] at hcons
    cases hcons

end Queue

end SwAxi
