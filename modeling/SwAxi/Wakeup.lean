import SwAxi.Matching
import SwAxi.Router

/-! Wake-ups of the queue's consumer: `finish` gets it out of `pop` unless it comes before the wait. -/

namespace SwAxi
open Wire (Flatbuffers)
open Transition

namespace Bridge
variable {S Buf : Type} [Slave S] [Flatbuffers Buf]

/-- The writer gets to its logout by the notifications already made or under way and by its own steps. -/
def WriterLogsOut (Buf : Type) [Flatbuffers Buf] (b : Bridge S) : Prop :=
  ∃ (es : List (Event Buf)) (t : Bridge S), (∀ e ∈ es, e = .notify ∨ e = .resume) ∧ run step b es = some t ∧
    t.writerThread = some (.sending .logout)

theorem writerLogsOut_of_woken {b : Bridge S} (hw : b.writerThread = some .popping)
    (hwoken : b.queue.condVar.waiter = .woken) (hdone : b.queue.done = true) : WriterLogsOut Buf b := by
  have hresume : b.queue.resume = some ({ b.queue with condVar := b.queue.condVar.leave }, .finished) := by
    simp [Queue.resume, hwoken, hdone]
  have hstep : b.step (.resume : Event Buf) =
      some (b.popped { b.queue with condVar := b.queue.condVar.leave } .finished) := by
    simp [step, hw, hresume]
  exact ⟨[.resume], _, by simp, (run_cons hstep).mpr rfl, rfl⟩

theorem writerLogsOut_of_not_lost {b : Bridge S} (hw : b.writerThread = some .popping)
    (hin : b.queue.condVar.waiter ≠ .outside) (hdone : b.queue.done = true) (hlost : ¬b.queue.Lost) :
    WriterLogsOut Buf b := by
  cases hwaiter : b.queue.condVar.waiter with
  | outside => exact absurd hwaiter hin
  | woken => exact writerLogsOut_of_woken hw hwaiter hdone
  | blocked =>
    -- A notification is under way, and wakes the writer.
    have hsignals : b.queue.condVar.signals ≠ 0 := fun h0 => hlost ⟨hdone, hwaiter, h0⟩
    obtain ⟨c, hc, hwoken⟩ := CondVar.notify_of_blocked hwaiter hsignals
    let b' : Bridge S := { b with queue := { b.queue with condVar := c } }
    have hstep : b.step (.notify : Event Buf) = some b' := by simp [step, Queue.notify, hc, b']
    have hout : WriterLogsOut Buf b' := writerLogsOut_of_woken hw hwoken hdone
    obtain ⟨es, t, hes, hr, ht⟩ := hout
    refine ⟨.notify :: es, t, fun e he => ?_, (run_cons hstep).mpr hr, ht⟩
    rcases List.mem_cons.mp he with rfl | he
    · exact Or.inl rfl
    · exact hes e he

end Bridge

namespace Queue
variable (S Buf : Type) [Slave S] [Flatbuffers Buf]

/-- After `finish`, the consumer does not wait without a notification to come, and a writer that is in the
    queue's `pop` gets out of it and to its logout. -/
def Finishes (q : Queue Master.Txn) : Prop :=
  ¬q.Lost ∧ (q.done = true → q.condVar.waiter ≠ .outside →
    ∀ b : Bridge S, b.queue = q → b.writerThread = some .popping → b.WriterLogsOut Buf)

variable {S Buf}

theorem finishes_iff {q : Queue Master.Txn} : q.Finishes S Buf ↔ ¬q.Lost := by
  refine ⟨And.left, fun h => ⟨h, ?_⟩⟩
  rintro hdone hin b rfl hw
  exact Bridge.writerLogsOut_of_not_lost hw hin hdone h

variable (S Buf)

/-- Over any interleaving, wake-ups are kept exactly when no call of `pop` comes too late for `finish`. -/
theorem finishes_iff_not_tooLate (es : List (Event Master.Txn)) :
    EveryState step (Finishes S Buf) {} es ↔ EveryStep step (fun q e => ¬q.TooLate e) {} es := by
  have decides : ∀ (q : Queue Master.Txn) e t, True → True → q.Finishes S Buf → q.step e = some t →
      (t.Finishes S Buf ↔ ¬q.TooLate e) := by
    intro q e t _ _ _ hs
    rw [finishes_iff]
    exact not_congr ⟨tooLate_of_lost hs, lost_of_tooLate hs⟩
  exact everyState_iff_everyStep (I := fun _ => True) (E := fun _ => True) (fun _ _ _ _ _ _ => trivial) decides
    trivial (finishes_iff.mpr (by decide)) fun _ _ => trivial

end Queue

/-- The master terminates; its router answers with `DONE` while the writer is still in its send operation.
    The reader finishes the queue, and its notification finds nobody waiting. -/
def Bridge.doneWhileSending : List (Bridge.Event Wire.Message) :=
  [.terminate 1, .notify, .pop, .dispatch, .receive (.ok Router.doneMessage), .notify, .sent (.ok ()), .pop]

theorem Queue.finish_lost :
    ¬EveryState Queue.step (fun q : Queue Master.Txn => ¬q.Lost) {} [.finish, .notify, .pop] ∧
    ∃ b, run Bridge.step Bridge.session Bridge.doneWhileSending = some b ∧ b.writerThread = some .popping ∧
      b.queue.Lost := by
  refine ⟨fun h => ?_, _, rfl, rfl, by decide⟩
  exact everyState_iff.mp h _ _ List.prefix_rfl rfl (by decide)

end SwAxi
