import Mathlib.Tactic.Common

/-! A condition variable with one waiting thread.

The waiter blocks and releases the mutex in one step. A thread that leaves its critical section and then
calls `notify_one` does so in two steps; in between, its call is outstanding. A call wakes the waiter if it
is blocked at that moment and is lost otherwise. The waiter may also wake up on its own. -/

inductive CondVar.Waiter where
  /-- Not waiting. -/
  | outside
  /-- Blocked in `wait`. -/
  | blocked
  /-- Woken up, and to go on when it gets the mutex. -/
  | woken
  deriving DecidableEq, Repr

structure CondVar where
  waiter : CondVar.Waiter := .outside
  /-- The `notify_one` calls that are outstanding. -/
  signals : Nat := 0
  deriving DecidableEq, Repr

namespace CondVar

def wait (c : CondVar) : CondVar := { c with waiter := .blocked }

/-- The waiter goes on with its work. -/
def leave (c : CondVar) : CondVar := { c with waiter := .outside }

/-- The end of a critical section that a `notify_one` follows. -/
def signal (c : CondVar) : CondVar := { c with signals := c.signals + 1 }

def wake (c : CondVar) : CondVar := if c.waiter = .blocked then { c with waiter := .woken } else c

/-- An outstanding `notify_one` is made. -/
def notify (c : CondVar) : Option CondVar :=
  if c.signals = 0 then none else some { c with signals := c.signals - 1 }.wake

/-- A wake-up without notification. -/
def spurious (c : CondVar) : Option CondVar := if c.waiter = .blocked then some c.wake else none

/-- Blocked with no notification to come: only a spurious wake-up gets the waiter out. -/
def Stuck (c : CondVar) : Prop := c.waiter = .blocked ∧ c.signals = 0

instance (c : CondVar) : Decidable c.Stuck := inferInstanceAs (Decidable (_ ∧ _))

variable {c d : CondVar}

@[simp] theorem wait_waiter : c.wait.waiter = .blocked := rfl
@[simp] theorem wait_signals : c.wait.signals = c.signals := rfl
@[simp] theorem leave_waiter : c.leave.waiter = .outside := rfl
@[simp] theorem leave_signals : c.leave.signals = c.signals := rfl
@[simp] theorem signal_waiter : c.signal.waiter = c.waiter := rfl
@[simp] theorem signal_signals : c.signal.signals = c.signals + 1 := rfl

@[simp] theorem wake_waiter_ne : c.wake.waiter ≠ .blocked := by
  unfold wake
  split <;> simp [*]

@[simp] theorem wake_signals : c.wake.signals = c.signals := by unfold wake; split <;> rfl

theorem not_stuck_signal : ¬c.signal.Stuck := by simp [Stuck]

theorem not_stuck_leave : ¬c.leave.Stuck := by simp [Stuck]

theorem not_stuck_notify (h : c.notify = some d) : ¬d.Stuck := by
  unfold notify at h
  split at h
  · cases h
  · cases h
    simp [Stuck]

theorem not_stuck_spurious (h : c.spurious = some d) : ¬d.Stuck := by
  unfold spurious at h
  split at h
  · cases h
    simp [Stuck]
  · cases h

@[simp] theorem wake_waiter_outside : c.wake.waiter = .outside ↔ c.waiter = .outside := by
  unfold wake
  split <;> simp [*]

theorem notify_outside (h : c.notify = some d) : d.waiter = .outside ↔ c.waiter = .outside := by
  unfold notify at h
  split at h
  · cases h
  · cases h
    simp

theorem spurious_outside (h : c.spurious = some d) : d.waiter = .outside ↔ c.waiter = .outside := by
  unfold spurious at h
  split at h
  · cases h
    simp
  · cases h

/-- A blocked waiter with an outstanding notification gets woken by it. -/
theorem notify_of_blocked (hb : c.waiter = .blocked) (hs : c.signals ≠ 0) :
    ∃ d, c.notify = some d ∧ d.waiter = .woken := by
  refine ⟨{ c with signals := c.signals - 1 }.wake, by simp [notify, hs], ?_⟩
  simp [wake, hb]

end CondVar
