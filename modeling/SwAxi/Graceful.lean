import SwAxi.Closedown

/-! The orderly end of a session: the last `TERMINATE` comes behind the answers to all requests, and no writer misses
the last notification of its queue. -/

namespace SwAxi
open Wire (Flatbuffers)
open Wire.Flatbuffers (getRoot)
open Transition

/-! ### Writers that hear of the end -/

namespace Bridge
variable {S Buf : Type} {b t : Bridge S}

/-- The writer is out of its loop. -/
def OutOfLoop (b : Bridge S) : Prop :=
  b.writerThread = some (.sending .logout) ∨ b.writerThread = some .returned

/-- The last notification, with the queue finished, would find the writer in its loop, but not in `wait`. -/
def Misses (b : Bridge S) : Prop :=
  b.queue.done = true ∧ b.queue.condVar.signals = 1 ∧ b.queue.condVar.waiter = .outside ∧ ¬b.OutOfLoop

instance (b : Bridge S) : Decidable b.OutOfLoop := inferInstanceAs (Decidable (_ ∨ _))

instance (b : Bridge S) : Decidable b.Misses := inferInstanceAs (Decidable (_ ∧ _))

/-- A writer whose queue is finished has been woken up, or is to be, or is out of its loop. -/
def Heard (b : Bridge S) : Prop :=
  b.queue.done = true → b.queue.condVar.waiter = .woken ∨ b.queue.condVar.signals ≠ 0 ∨ b.OutOfLoop

/-- The queue gets a notification more. -/
theorem heard_of_signal (h : t.queue.condVar.signals ≠ 0) : t.Heard := fun _ => Or.inr (Or.inl h)

theorem Heard.congr (h : b.Heard) (hqueue : t.queue = b.queue) (hthread : t.writerThread = b.writerThread) : t.Heard := by
  unfold Heard OutOfLoop at *
  rwa [hqueue, hthread]

theorem Heard.notify {q : Queue Master.Txn} (h : b.Heard) (hmiss : ¬b.Misses) (hq : b.queue.notify = some q) :
    ({ b with queue := q } : Bridge S).Heard := by
  obtain ⟨c, hc, rfl⟩ := Option.map_eq_some_iff.mp hq
  unfold CondVar.notify at hc
  split at hc
  · cases hc
  · rename_i hsignals
    cases hc
    intro hdone
    rcases h hdone with hwoken | - | hout
    · exact Or.inl (by simp [CondVar.wake, hwoken])
    · cases hwaiter : b.queue.condVar.waiter with
      | outside =>
        by_cases hout : b.OutOfLoop
        · exact Or.inr (Or.inr hout)
        · have hmore : b.queue.condVar.signals ≠ 1 := fun hone => hmiss ⟨hdone, hone, hwaiter, hout⟩
          refine Or.inr (Or.inl ?_)
          simp only [CondVar.wake_signals]
          omega
      | blocked => exact Or.inl (by simp [CondVar.wake])
      | woken => exact Or.inl (by simp [CondVar.wake])
    · exact Or.inr (Or.inr hout)

theorem heard_of_spurious {q : Queue Master.Txn} (hq : b.queue.spurious = some q) :
    ({ b with queue := q } : Bridge S).Heard := by
  obtain ⟨c, hc, rfl⟩ := Option.map_eq_some_iff.mp hq
  unfold CondVar.spurious at hc
  split at hc
  · rename_i hblocked
    cases hc
    exact fun _ => Or.inl (by simp [CondVar.wake, hblocked])
  · cases hc

/-- A writer in `pop` that is to be notified still is when it waits, or when it takes an item. -/
theorem heard_loopHead {q : Queue Master.Txn} {r : Popped Master.Txn}
    (hsignals : b.queue.done = true → b.queue.condVar.signals ≠ 0) (hhead : b.queue.loopHead = (q, r)) :
    (b.popped q r).Heard := by
  rcases Queue.loopHead_cases (q := b.queue) with ⟨-, heq⟩ | ⟨tx, rest, -, heq⟩
  · rw [heq] at hhead
    cases hhead
    exact fun hdone => Or.inr (Or.inl (hsignals hdone))
  · rw [heq] at hhead
    cases hhead
    exact fun hdone => Or.inr (Or.inl (hsignals hdone))

theorem queue_receive [Flatbuffers Buf] (read : RouterClient.Received Buf) :
    (b.readerReceive read).queue = b.queue ∨ (b.readerReceive read).queue = b.queue.finish := by
  unfold readerReceive readerReturn
  split
  · exact Or.inl rfl
  · simp only
    split
    · exact Or.inr rfl
    · split <;> exact Or.inl rfl

theorem queue_process [Slave S] (txn : Transaction) :
    (b.readerProcess txn).queue = b.queue ∨ (b.readerProcess txn).queue = b.queue.finish ∨
      ∃ item, (b.readerProcess txn).queue = b.queue.push item := by
  unfold readerProcess
  split
  · unfold readerRequest
    split
    · exact Or.inr (Or.inl rfl)
    · exact Or.inr (Or.inr ⟨_, rfl⟩)
  · unfold readerResponse
    cases b.masterMap txn.initiator with
    | none => exact Or.inr (Or.inl rfl)
    | some md =>
      simp only
      cases md.txns txn.id with
      | none => exact Or.inr (Or.inl rfl)
      | some mTxn =>
        rcases b.resolve_cases md mTxn txn with ⟨-, buffers, heq⟩ | ⟨p, -, -, heq⟩
        · simp only [heq]
          exact Or.inl rfl
        · simp only [heq]
          exact Or.inl rfl

theorem Heard.receive [Flatbuffers Buf] (h : b.Heard) (read : RouterClient.Received Buf) : (b.readerReceive read).Heard := by
  rcases queue_receive (b := b) read with heq | heq
  · exact h.congr heq (byReader_receive read).thread
  · exact heard_of_signal (by rw [heq]; exact Nat.succ_ne_zero _)

theorem Heard.writerReturn (h : b.Heard) {out : Outgoing} (hw : b.writerThread = some (.sending out))
    (reply : RouterClient × Status) : (b.writerReturn out reply).Heard := by
  obtain ⟨client, st⟩ := reply
  unfold Bridge.writerReturn
  simp only
  split
  · exact fun _ => Or.inr (Or.inr (Or.inr rfl))
  · rename_i hne
    split
    · exact fun _ => Or.inr (Or.inr (Or.inr rfl))
    · have hin : ¬b.OutOfLoop := by simp [OutOfLoop, hw, hne]
      exact fun hdone => (h hdone).imp_right (Or.imp_right fun hout => absurd hout hin)

theorem Heard.step [Slave S] [Flatbuffers Buf] {e : Event Buf} (h : b.Heard) (hmiss : e = .notify → ¬b.Misses)
    (hs : b.step e = some t) : t.Heard := by
  cases moves_of_step hs with
  | read m buffer => exact heard_of_signal (Nat.succ_ne_zero _)
  | write m buffer => exact heard_of_signal (Nat.succ_ne_zero _)
  | terminate m => exact heard_of_signal (Nat.succ_ne_zero _)
  | notify q hq => exact h.notify (hmiss rfl) hq
  | spurious q hq => exact heard_of_spurious hq
  | pop q r hw hq =>
    obtain ⟨houtside, hhead⟩ := Queue.pop_inv hq
    refine heard_loopHead (fun hdone => ?_) hhead
    rcases h hdone with hwoken | hsignals | hout | hout
    · rw [houtside] at hwoken
      cases hwoken
    · exact hsignals
    · rw [hw] at hout
      cases hout
    · rw [hw] at hout
      cases hout
  | resume q r hw hq =>
    rcases (Queue.resume_inv hq).2 with ⟨-, rfl, rfl⟩ | ⟨hdone, hhead⟩
    · exact fun _ => Or.inr (Or.inr (Or.inl rfl))
    · refine heard_loopHead (fun hdone' => ?_) hhead
      rw [hdone] at hdone'
      cases hdone'
  | dispatch tx hw =>
    have hin : ¬b.OutOfLoop := by simp [OutOfLoop, hw]
    have hqueue : (b.writerDispatch tx).queue = b.queue := by
      rcases writerDispatch_cases (b := b) tx with ⟨-, heq⟩ | ⟨-, heq⟩ | ⟨-, -, heq⟩ <;> simp [heq, assign, setMasterMd]
    intro hdone
    rw [hqueue] at hdone ⊢
    rcases h hdone with hwoken | hsignals | hout
    · exact Or.inl hwoken
    · exact Or.inr (Or.inl hsignals)
    · exact absurd hout hin
  | sent out write hw => exact h.writerReturn hw _
  | receive read hr => exact h.receive read
  | process txn hr =>
    rcases queue_process (b := b) txn with heq | heq | ⟨item, heq⟩
    · exact h.congr heq (byReader_process txn).thread
    · exact heard_of_signal (by rw [heq]; exact Nat.succ_ne_zero _)
    · exact heard_of_signal (by rw [heq]; exact Nat.succ_ne_zero _)

end Bridge

namespace System
variable {S Buf : Type}

instance (s : System S Buf) : Decidable s.LastCall := by
  unfold LastCall
  split <;> infer_instance

/-! ### What a graceful shutdown is -/

section
variable [Slave S] [Flatbuffers Buf] (s : System S Buf)

instance (e : Event Buf) : Decidable (s.Timely e) :=
  match e with
  | .bridge i (.terminate _) => inferInstanceAs (Decidable (s.LastCall → (s.flow i).Behind s.router s.record i))
  | .bridge _ (.read _ _) | .bridge _ (.write _ _) | .bridge _ .notify | .bridge _ .spurious | .bridge _ .pop
  | .bridge _ .resume | .bridge _ .dispatch | .bridge _ (.sent _) | .bridge _ (.receive _) | .bridge _ .process
  | .sent _ | .receive _ | .readMsg _ | .take _ _ | .hand | .writeMsg _ => isTrue trivial

/-- No notification is made that is the last one and misses the writer. -/
def Punctual : Event Buf → Prop
  | .bridge i .notify => ¬(s.endpoints i).bridge.Misses
  | _ => True

instance (e : Event Buf) : Decidable (s.Punctual e) :=
  match e with
  | .bridge i .notify => inferInstanceAs (Decidable ¬(s.endpoints i).bridge.Misses)
  | .bridge _ (.read _ _) | .bridge _ (.write _ _) | .bridge _ (.terminate _) | .bridge _ .spurious | .bridge _ .pop
  | .bridge _ .resume | .bridge _ .dispatch | .bridge _ (.sent _) | .bridge _ (.receive _) | .bridge _ .process
  | .sent _ | .receive _ | .readMsg _ | .take _ _ | .hand | .writeMsg _ => isTrue trivial

/-- The `TERMINATE` that ends the loop is called for behind the answers to all requests, and every writer gets the
    last notification of its queue. -/
def Orderly (e : Event Buf) : Prop := s.Timely e ∧ s.Punctual e

instance (e : Event Buf) : Decidable (s.Orderly e) := inferInstanceAs (Decidable (_ ∧ _))

/-- The threads and the goroutines come to an end, however they go on, and `r.wg` is zero at the end. -/
structure Finishes : Prop where
  bounded : ∃ n, ∀ es t, (∀ e ∈ es, Event.OfThread e) → run step s es = some t → es.length ≤ n
  goes : ∃ es t, (∀ e ∈ es, Event.OfThread e) ∧ EveryStep step Orderly s es ∧ run step s es = some t ∧ t.AtRest
  ends : ∀ es t, (∀ e ∈ es, Event.OfThread e) → EveryStep step Orderly s es → run step s es = some t →
    t.AtRest → t.waitGroup = 0

/-- When `route` leaves its loop, nothing is left behind, and all goroutines of the router can end. -/
def Graceful : Prop := s.Left → s.Drained ∧ s.Finishes

end

/-! ### Writers -/

section
variable [Flatbuffers Buf] [Slave S] {s t : System S Buf}

def Heard (s : System S Buf) : Prop := ∀ i < s.clients, (s.endpoints i).bridge.Heard

omit [Flatbuffers Buf] [Slave S] in
theorem Ready.heard (h : s.Ready) : s.Heard := fun i hi hdone => by
  rw [h.queues i hi] at hdone
  cases hdone

theorem Heard.step (h : s.Heard) {e : Event Buf} (he : s.Punctual e) (hs : s.step e = some t) : t.Heard := by
  obtain ⟨hclients, hsame | ⟨i, hi, e', hdrives, he', hothers⟩⟩ := bridge_of_step hs
  · intro j hj
    rw [hsame j]
    exact h j (hclients ▸ hj)
  · intro j hj
    by_cases hji : j = i
    · subst hji
      refine (h j hi).step (fun heq => ?_) he'
      subst heq
      cases hdrives
      exact he
    · rw [hothers j hji]
      exact h j (hclients ▸ hj)

omit [Slave S] in
/-- A writer that hears of the end does not sleep for good. -/
theorem Heard.not_lost (h : s.Heard) (hending : s.Ending) {i : Nat} (hi : i < s.clients) :
    ¬(s.endpoints i).bridge.queue.Lost := by
  rintro ⟨hdone, hblocked, hsignals⟩
  have hpopping := (hending i hi).asleep hblocked
  rcases h i hi hdone with hwoken | hmore | hout | hout
  · rw [hblocked] at hwoken
    cases hwoken
  · exact hmore hsignals
  · rw [hpopping] at hout
    cases hout
  · rw [hpopping] at hout
    cases hout

/-- Where a notification would miss the writer, the writer has something to do itself. -/
theorem exists_writer_step {i : Nat} (hi : i < s.clients) (hw : (s.endpoints i).bridge.writerThread ≠ none)
    (hmiss : (s.endpoints i).bridge.Misses) : ∃ e t, e.OfThread ∧ s.Orderly e ∧ s.step e = some t := by
  obtain ⟨-, -, houtside, hin⟩ := hmiss
  have hlocal : ∀ (e : Bridge.Event Buf), (Event.bridge i e).OfThread → (s.endpoints i).Possible e → e ≠ .notify →
      (s.endpoints i).bridge.step e ≠ none → ∃ e t, e.OfThread ∧ s.Orderly e ∧ s.step e = some t := by
    intro e hthread hpossible hne hstep
    obtain ⟨b, hb⟩ := Option.ne_none_iff_exists'.mp hstep
    refine ⟨.bridge i e, _, hthread, ⟨hthread.timely, ?_⟩, by
      simp only [System.step, endpointStep, hi, if_true, Endpoint.local?, hpossible, hb]
      rfl⟩
    cases e with
    | notify => exact absurd rfl hne
    | _ => trivial
  cases hthread : (s.endpoints i).bridge.writerThread with
  | none => exact absurd hthread hw
  | some thread =>
    cases thread with
    | popping => exact hlocal .pop trivial trivial (by simp) (by simp [Bridge.step, hthread, Queue.pop, houtside])
    | holding tx => exact hlocal .dispatch trivial trivial (by simp) (by simp [Bridge.step, hthread])
    | sending out =>
      refine ⟨.sent i, _, trivial, ⟨trivial, trivial⟩, by
        simp only [System.step, endpointStep, hi, if_true, Endpoint.sent, hthread]
        rfl⟩
    | returned => exact absurd (Or.inr hthread) hin

/-! ### The end -/

/-- The threads and the goroutines of a system at which something is left to do can go on in order. -/
theorem Closing.exists_orderly (h : s.Closing) {e : Event Buf} (he : e.OfThread) (hs : s.step e = some t) :
    ∃ e' t', e'.OfThread ∧ s.Orderly e' ∧ s.step e' = some t' := by
  by_cases hpunctual : s.Punctual e
  · exact ⟨e, t, he, ⟨he.timely, hpunctual⟩, hs⟩
  · cases e with
    | bridge i e =>
      cases e with
      | notify =>
        simp only [System.step] at hs
        obtain ⟨hi, -⟩ := endpointStep_inv hs
        exact exists_writer_step hi (h.ending i hi).writer (not_not.mp hpunctual)
      | _ => exact absurd trivial hpunctual
    | _ => exact absurd trivial hpunctual

theorem run_length_le_effort {es : List (Event Buf)} (hes : ∀ e ∈ es, Event.OfThread e) (hr : run step s es = some t) :
    es.length ≤ s.effort := by
  have hpotential : t.effort + es.length ≤ s.effort + (es.map Event.cost).sum :=
    run_potential (fun _ _ _ hs => effort_step hs) hr
  have hfree : (es.map Event.cost).sum = 0 := Event.cost_of_threads hes
  omega

theorem Closing.finishes (h : s.Closing) (hheard : s.Heard) (hleft : s.Left) : s.Finishes where
  bounded := ⟨s.effort, fun _ _ hes hr => run_length_le_effort hes hr⟩
  goes := by
    have keep : ∀ (s : System S Buf) e t, s.Closing → Event.OfThread e → s.step e = some t → t.Closing :=
      fun s e t hs he ht => hs.step he.timely ht
    obtain ⟨es, t, hes, horderly, hr, hrest⟩ := exists_run_to_rest_of (C := Orderly) keep
      (fun _ _ _ he hs => Event.OfThread.effort he hs) (fun s e t hs he ht => hs.exists_orderly he ht) h
    exact ⟨es, t, hes, horderly, hr, fun e he => Option.eq_none_iff_forall_ne_some.mpr fun v => hrest e v he⟩
  ends es t hes horderly hr hrest := by
    have keep : ∀ (s : System S Buf) e t, s.Heard → s.Orderly e → s.step e = some t → t.Heard :=
      fun s e t hs he ht => hs.step he.2 ht
    have hheard : t.Heard := run_invariant_of_everyStep keep hheard horderly hr
    obtain ⟨hclosing, hleft⟩ := closing_of_run h hleft hes hr
    rw [(hrest.closedDown hclosing.ending hclosing.paced (hclosing.drained hleft) hleft).waitGroup]
    exact List.countP_eq_zero.mpr fun i hi => by simpa using hheard.not_lost hclosing.ending (List.mem_range.mp hi)

/-- In every run from a completed handshake in which the last `TERMINATE` comes behind the answers to all requests of
    its client and no writer misses the last notification of its queue, the system shuts down gracefully: whenever
    `route` has left its loop, every forwarded request is answered, nothing but a `DONE` comes from a client, and
    `r.wg` gets to zero. -/
theorem shutdown_graceful (hs : s.Opened) {es : List (Event Buf)} (hes : EveryStep step Orderly s es) :
    EveryState step Graceful s es := by
  refine everyState_of_everyStep (I := fun s => s.Closing ∧ s.Heard) (fun s e t hs he ht => ?_)
    (fun s hs hleft => ⟨hs.1.drained hleft, hs.1.finishes hs.2 hleft⟩) ⟨hs.closing, hs.ready.heard⟩ hes
  exact ⟨hs.1.step he.1 ht, hs.2.step he.2 ht⟩

end

/-! ### A client with a slave and a master -/

/-- The writer of the bridge deals with an item, and `route` takes what comes of it. -/
def deals : List (Event Wire.Message) :=
  [.bridge 0 .pop, .bridge 0 .dispatch, .sent 0, .readMsg 0, .take 0 (opened.router.ipMMap.map Prod.snd)]

/-- `route` hands a transaction on, and the reader of the bridge deals with it. -/
def handsOn : List (Event Wire.Message) := [.hand, .writeMsg 0, .receive 0, .bridge 0 .process]

def readTwo : Event Wire.Message := .bridge 0 (.read 1 { data := [0, 0], size := 2, address := 0x1000 })

/-- The master terminates when the response to its read waits in the queue of the slave's bridge, which is its own. -/
def terminatedBehind : List (Event Wire.Message) :=
  readTwo :: deals ++ handsOn ++ .bridge 0 (.terminate 1) :: deals ++ handsOn ++ deals ++
    [.hand, .writeMsg 0, .bridge 0 .notify, .bridge 0 .notify, .bridge 0 .notify, .bridge 0 .pop, .receive 0,
      .bridge 0 .notify, .bridge 0 .resume, .sent 0, .readMsg 0]

theorem shutdown_graceful_terminatedBehind :
    ((run step opened terminatedBehind).map fun s => (s.route, s.record, s.waitGroup)) =
        some (.exited, { forwarded := [(1, 0)], answered := [(0, 1, 0)], terminations := [1] }, 0) ∧
      EveryState step Graceful opened terminatedBehind :=
  ⟨by decide, shutdown_graceful opened_opened (by decide)⟩

/-- The master terminates right after its read. -/
def terminatedEarly : List (Event Wire.Message) :=
  readTwo :: .bridge 0 (.terminate 1) :: deals ++ [.hand, .writeMsg 0, .receive 0] ++ deals ++
    [.hand, .bridge 0 .process, .bridge 0 .pop, .bridge 0 .dispatch, .sent 0, .readMsg 0]

/-- `route` leaves its loop with a forwarded request unanswered, and the response is offered to no one. -/
theorem terminated_early :
    opened.Opened ∧
      ((run step opened terminatedEarly).map fun s => (s.route, (s.endpoints 0).offered.map isResponse)) =
        some (.exited, [true]) ∧
      ¬EveryState step Graceful opened terminatedEarly := by
  have hrun : (run step opened terminatedEarly).map (fun s => (s.route, s.record)) =
      some (.exited, { forwarded := [(1, 0)], terminations := [1] }) := by decide
  refine ⟨opened_opened, by decide, fun h => ?_⟩
  obtain ⟨s, hs, heq⟩ := Option.map_eq_some_iff.mp hrun
  obtain ⟨hroute, hrecord⟩ := Prod.mk.inj heq
  have hleft : s.Left := by
    unfold Left
    rw [hroute]
    trivial
  obtain ⟨hdrained, -⟩ := everyState_iff.mp h _ s List.prefix_rfl hs hleft
  obtain ⟨i, -, -, hle⟩ := hdrained.answered (1, 0) (by simp [hrecord])
  simp [hrecord] at hle

end System

end SwAxi
