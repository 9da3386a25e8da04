import SwAxi.Lifecycle

/-! The thread objects of a bridge over its whole life (`src/lib/SwAxi.cc`): no call looks at whether they are
joinable, so it is the order of the calls that decides whether one of them throws or terminates the program. -/

namespace SwAxi
open Wire (Flatbuffers)
open Transition
open RouterClient (Consistent)

namespace Lifecycle

/-- What a call has to do with the threads. -/
inductive Mark where
  | started
  | waited
  deriving DecidableEq, Repr

/-- The marks take turns, from a start to a wait. -/
def Alternates (marks : List Mark) : Prop := ∃ n, marks = (List.replicate n [Mark.started, .waited]).flatten

section
variable {M : List Mark}

theorem Alternates.nil : Alternates [] := ⟨0, rfl⟩

theorem Alternates.pair (h : Alternates M) : Alternates (M ++ [.started, .waited]) := by
  obtain ⟨n, rfl⟩ := h
  exact ⟨n + 1, by simp [List.replicate_succ']⟩

theorem Alternates.even (h : Alternates M) : M.length % 2 = 0 := by
  obtain ⟨n, rfl⟩ := h
  simp

theorem not_alternates_snoc (h : Alternates M) (m : Mark) : ¬Alternates (M ++ [m]) := by
  intro hsnoc
  have heven := h.even
  have hodd := hsnoc.even
  rw [List.length_append, List.length_singleton] at hodd
  omega

/-- Nothing alternates that ends in a start. -/
theorem not_alternates_started : ¬Alternates (M ++ [.started]) := by
  rintro ⟨n, hn⟩
  cases n with
  | zero => simp at hn
  | succ n =>
    have hlast := congrArg List.getLast? hn
    simp [List.replicate_succ'] at hlast

end

section
variable {S Buf : Type} [Slave S] [Flatbuffers Buf]

/-- The mark of a call: a `start` of a committed bridge to which both lists come, and every `waitForCompletion`. -/
def marks (l : Lifecycle S) : Event S Buf → List Mark
  | .start reads =>
    if l.bridge.client.state = .committed ∧ Bridge.StartLoop.peers.lists reads = true then [.started] else []
  | .waitForCompletion => [.waited]
  | _ => []

/-- The threads are joinable between a start and the wait that follows; out of turn, a call aborts. -/
inductive Joining (M : List Mark) (l : Lifecycle S) : Prop where
  | free (running : l.aborted = false) (reader : l.readerJoinable = false) (writer : l.writerJoinable = false)
      (marks : Alternates M)
  | held (running : l.aborted = false) (reader : l.readerJoinable = true) (writer : l.writerJoinable = true)
      (started : List Mark) (marks : Alternates started) (last : M = started ++ [.started])
  | gone (aborted : l.aborted = true) (marks : ¬Alternates M)

variable {l t : Lifecycle S} {e : Event S Buf} {M : List Mark}

omit [Slave S] in
theorem Joining.congr (h : Joining M l) (hreader : t.readerJoinable = l.readerJoinable)
    (hwriter : t.writerJoinable = l.writerJoinable) (haborted : t.aborted = l.aborted) : Joining M t := by
  cases h with
  | free running reader writer marks =>
    exact .free (haborted.trans running) (hreader.trans reader) (hwriter.trans writer) marks
  | held running reader writer started marks last =>
    exact .held (haborted.trans running) (hreader.trans reader) (hwriter.trans writer) started marks last
  | gone aborted marks => exact .gone (haborted.trans aborted) marks

omit [Slave S] in
/-- A call without a mark leaves the threads alone. -/
theorem Joining.unmarked (h : Joining M l) (hmarks : marks l e = []) (hreader : t.readerJoinable = l.readerJoinable)
    (hwriter : t.writerJoinable = l.writerJoinable) (haborted : t.aborted = l.aborted) :
    Joining (M ++ marks l e) t := by
  rw [hmarks, List.append_nil]
  exact h.congr hreader hwriter haborted

theorem Joining.step (h : Joining M l) (hc : Consistent l.bridge.client) (hs : l.step e = some t) :
    Joining (M ++ marks l e) t := by
  obtain ⟨hrun, st, hcall⟩ := step_inv hs
  cases called_of_call hc hcall with
  | unconnected => exact h.unmarked rfl rfl rfl rfl
  | connected => exact h.unmarked rfl rfl rfl rfl
  | refused e he => exact h.unmarked (by cases he <;> rfl) rfl rfl rfl
  | slave => exact h.unmarked rfl rfl rfl rfl
  | master => exact h.unmarked rfl rfl rfl rfl
  | committed => exact h.unmarked rfl rfl rfl rfl
  | failed reads st hst hno => exact h.unmarked (if_neg hno) rfl rfl rfl
  | restarted reads st hst hyes hjoinable =>
    rw [show marks l (.start reads) = [.started] from if_pos hyes]
    exact .gone rfl not_alternates_started
  | started reads st hst hyes hreader hwriter =>
    rw [show marks l (.start reads) = [.started] from if_pos hyes]
    cases h with
    | free running reader writer marks => exact .held running rfl rfl M marks rfl
    | held running reader => exact absurd reader (by simp [hreader])
    | gone aborted => exact absurd aborted (by simp [hrun])
  | unjoinable st hjoinable =>
    cases h with
    | free running reader writer marks => exact .gone rfl (not_alternates_snoc marks .waited)
    | held running reader writer => simp [reader, writer] at hjoinable
    | gone aborted => exact absurd aborted (by simp [hrun])
  | completed st hreader hwriter =>
    cases h with
    | free running reader => exact absurd reader (by simp [hreader])
    | held running reader writer started marks last =>
      refine .free running rfl rfl ?_
      rw [last, List.append_assoc]
      exact marks.pair
    | gone aborted => exact absurd aborted (by simp [hrun])
  | disconnected => exact h.unmarked rfl rfl rfl rfl
  | thread => exact h.unmarked rfl rfl rfl rfl

/-- No call and no destructor after it aborts, exactly when the calls of `start` that make the threads and those of
    `waitForCompletion` take turns and the last of them, if any, is a wait. -/
theorem survives_iff_alternates {es : List (Event S Buf)} (hr : run step ({} : Lifecycle S) es = some t) :
    (t.aborted = false ∧ t.destroy.aborted = false) ↔ Alternates (outputs step marks {} es) := by
  have hinv : Consistent t.bridge.client ∧ Joining ([] ++ outputs step marks {} es) t :=
    run_output marks (I := fun M l => Consistent l.bridge.client ∧ Joining M l)
      (fun _ _ _ _ h hs => ⟨consistent_step h.1 hs, h.2.step h.1 hs⟩)
      ⟨RouterClient.Consistent.new, .free rfl rfl rfl .nil⟩ hr
  rw [List.nil_append] at hinv
  cases hinv.2 with
  | free running reader writer marks =>
    exact iff_of_true ⟨running, by simp [destroy, reader, writer, running]⟩ marks
  | held running reader writer started marks last =>
    refine iff_of_false (fun h => ?_) ?_
    · simp [destroy, reader, abort] at h
    · rw [last]
      exact not_alternates_started
  | gone aborted marks => exact iff_of_false (fun h => by simp [aborted] at h) marks

theorem survives_session : ∃ t, run step {} (opening ++ closing ++ [.disconnect]) = some t ∧ t.aborted = false ∧
    t.destroy.aborted = false := by
  have halternates : Alternates (outputs step marks {} (opening ++ closing ++ [.disconnect])) := ⟨1, rfl⟩
  have hrun : ∃ t, run step {} (opening ++ closing ++ [.disconnect]) = some t := ⟨_, rfl⟩
  obtain ⟨t, ht⟩ := hrun
  exact ⟨t, ht, (survives_iff_alternates ht).mpr halternates⟩

/-- A bridge is waited for that was not started; one is started again after it disconnects; and one is started,
    disconnects and is destroyed. -/
theorem threads_abort :
    (∃ t, run step {} ([.waitForCompletion] : List (Event Ram Wire.Message)) = some t ∧ t.aborted = true) ∧
    (∃ t, run step {} (opening ++ [.disconnect] ++ opening) = some t ∧ t.aborted = true) ∧
    ∃ t, run step {} (opening ++ [.disconnect]) = some t ∧ t.aborted = false ∧ t.destroy.aborted = true :=
  ⟨⟨_, rfl, rfl⟩, ⟨_, rfl, rfl⟩, _, rfl, rfl, rfl⟩

end

end Lifecycle

end SwAxi
