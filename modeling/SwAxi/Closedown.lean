import SwAxi.Shutdown
import SwAxi.Settlement
import SwAxi.Outcome

/-! The end of a session: what the threads and the goroutines come to when `route` has left its loop and none of them
can make another step. -/

namespace SwAxi
open Wire (Flatbuffers)
open Wire.Flatbuffers (getRoot)
open RouterClient (decode transactionMessage terminateMessage doneMessage)
open Transition
open Total

/-! ### The ends of the threads -/

namespace Bridge
variable {S Buf : Type} {b t : Bridge S}

/-- Only a writer in `pop` sleeps. -/
def Asleep (b : Bridge S) : Prop := b.queue.condVar.waiter = .blocked → b.writerThread = some .popping

/-- A step that is none of the reader's, and that does not have the writer return. -/
structure Goes (b t : Bridge S) : Prop where
  reader : t.readerThread = b.readerThread
  done : t.queue.done = b.queue.done
  writer : t.writerThread ≠ none
  returned : t.writerThread = some .returned ↔ b.writerThread = some .returned
  asleep : b.Asleep → t.Asleep

theorem goes_wake {c : CondVar} (hw : b.writerThread ≠ none) :
    b.Goes { b with queue := { b.queue with condVar := c.wake } } where
  reader := rfl
  done := rfl
  writer := hw
  returned := Iff.rfl
  asleep _ hblocked := absurd hblocked CondVar.wake_waiter_ne

theorem goes_notify {q : Queue Master.Txn} (hw : b.writerThread ≠ none) (hq : b.queue.notify = some q) :
    b.Goes { b with queue := q } := by
  obtain ⟨c, hc, rfl⟩ := Option.map_eq_some_iff.mp hq
  unfold CondVar.notify at hc
  split at hc
  · cases hc
  · cases hc
    exact goes_wake hw

theorem goes_spurious {q : Queue Master.Txn} (hw : b.writerThread ≠ none) (hq : b.queue.spurious = some q) :
    b.Goes { b with queue := q } := by
  obtain ⟨c, hc, rfl⟩ := Option.map_eq_some_iff.mp hq
  unfold CondVar.spurious at hc
  split at hc
  · cases hc
    exact goes_wake hw
  · cases hc

/-- The head of the loop in `pop`. -/
theorem goes_loopHead {q : Queue Master.Txn} {r : Popped Master.Txn} (hw : b.writerThread = some .popping)
    (hhead : b.queue.loopHead = (q, r)) : b.Goes (b.popped q r) := by
  have hdone : q.done = b.queue.done := Queue.loopHead_done hhead
  rcases Queue.loopHead_cases (q := b.queue) with ⟨-, heq⟩ | ⟨tx, rest, -, heq⟩ <;> rw [heq] at hhead <;> cases hhead
  · exact ⟨rfl, hdone, by simp [popped, hw], by simp [popped, hw], fun _ _ => hw⟩
  · exact ⟨rfl, hdone, by simp [popped], by simp [popped, hw], fun _ hblocked => by cases hblocked⟩

theorem goes_resume {q : Queue Master.Txn} {r : Popped Master.Txn} (hw : b.writerThread = some .popping)
    (hq : b.queue.resume = some (q, r)) : b.Goes (b.popped q r) := by
  rcases (Queue.resume_inv hq).2 with ⟨-, rfl, rfl⟩ | ⟨-, hhead⟩
  · exact ⟨rfl, rfl, by simp [popped], by simp [popped, hw], fun _ hblocked => by cases hblocked⟩
  · exact goes_loopHead hw hhead

theorem goes_dispatch {tx : Master.Txn} (hw : b.writerThread = some (.holding tx)) : b.Goes (b.writerDispatch tx) := by
  have hawake : ∀ {t : Bridge S}, t.queue = b.queue → b.Asleep → t.Asleep := fun hqueue hasleep hblocked => by
    rw [hqueue] at hblocked
    have hpopping := hasleep hblocked
    rw [hw] at hpopping
    cases hpopping
  rcases writerDispatch_cases (b := b) tx with ⟨-, heq⟩ | ⟨-, heq⟩ | ⟨-, -, heq⟩ <;> rw [heq]
  · exact ⟨rfl, rfl, by simp, by simp [hw], hawake rfl⟩
  · exact ⟨rfl, rfl, by simp [assign], by simp [assign, hw], hawake rfl⟩
  · exact ⟨rfl, rfl, by simp, by simp [hw], hawake rfl⟩

/-- The reader's turn ends with the next call of `receiveTransaction`, or with its return. -/
theorem process_ends [Slave S] {txn : Transaction} (hsafe : b.Safe) (hr : b.readerThread = some (.holding txn)) :
    (b.readerProcess txn).writerThread = b.writerThread ∧
      (b.readerProcess txn).queue.condVar.waiter = b.queue.condVar.waiter ∧
      (((b.readerProcess txn).readerThread = some .receiving ∧ (b.readerProcess txn).queue.done = b.queue.done) ∨
        ((b.readerProcess txn).readerThread = some .returned ∧ (b.readerProcess txn).queue.done = true)) := by
  refine ⟨(byReader_process txn).thread, ?_⟩
  unfold readerProcess
  split
  · unfold readerRequest
    split
    · exact ⟨rfl, Or.inr ⟨rfl, rfl⟩⟩
    · exact ⟨rfl, Or.inl ⟨rfl, rfl⟩⟩
  · rename_i hreq
    unfold readerResponse
    split
    · exact ⟨rfl, Or.inr ⟨rfl, rfl⟩⟩
    · rename_i md hm
      split
      · exact ⟨rfl, Or.inr ⟨rfl, rfl⟩⟩
      · rename_i tx htx
        have hentry : (b.ledger.masters txn.initiator).txns txn.id = some tx := by
          rw [masters_txns, hm, Option.bind_some, htx]
        obtain ⟨⟨p, hp, hf⟩, hbuffer⟩ := hsafe txn tx hr (by simpa using hreq) hentry
        rcases b.resolve_cases md tx txn with ⟨hset | ⟨hnone, hread, -⟩, -⟩ | ⟨q, -, -, heq⟩
        · exact absurd hf (hset p hp)
        · exact absurd hnone (hbuffer hread)
        · rw [heq]
          exact ⟨rfl, Or.inl ⟨rfl, rfl⟩⟩

end Bridge

namespace Endpoint
variable {S Buf : Type} [Flatbuffers Buf]

/-- How far the threads of the bridge and the goroutines of its client have got with the end of the session. -/
structure Ending (c : Endpoint S Buf) : Prop where
  reader : c.bridge.readerThread ≠ none ∧ c.bridge.readerThread ≠ some .crashed
  writer : c.bridge.writerThread ≠ none
  asleep : c.bridge.Asleep
  /-- The reader finishes the queue when it returns. -/
  finished : c.bridge.queue.done = true ↔ c.bridge.readerThread = some .returned
  /-- The writer sends its `DONE` when it returns. -/
  logout : c.bridge.writerThread = some .returned ↔
    c.reader.finished = true ∨ ∃ msgArr ∈ c.toRouter, (getRoot msgArr).getType = .done
  /-- The goroutine that has written a `DONE` ends the reader of the bridge. -/
  told : c.writer.finished = true →
    c.bridge.readerThread = some .returned ∨ ∃ msgArr ∈ c.toClient, (getRoot msgArr).getType = .done

variable {c c' : Endpoint S Buf}

theorem Ending.bridge (h : c.Ending) {b : Bridge S} (hreader : b.readerThread ≠ none ∧ b.readerThread ≠ some .crashed)
    (hwriter : b.writerThread ≠ none) (hasleep : b.Asleep)
    (hfinished : b.queue.done = true ↔ b.readerThread = some .returned)
    (hlogout : b.writerThread = some .returned ↔ c.bridge.writerThread = some .returned)
    (hstays : c.bridge.readerThread = some .returned → b.readerThread = some .returned) :
    ({ c with bridge := b } : Endpoint S Buf).Ending where
  reader := hreader
  writer := hwriter
  asleep := hasleep
  finished := hfinished
  logout := hlogout.trans h.logout
  told hw := (h.told hw).imp_left hstays

theorem Ending.goes (h : c.Ending) {b : Bridge S} (hg : c.bridge.Goes b) : ({ c with bridge := b } : Endpoint S Buf).Ending :=
  h.bridge (by rw [hg.reader]; exact h.reader) hg.writer (hg.asleep h.asleep)
    (by rw [hg.done, hg.reader]; exact h.finished) hg.returned (by rw [hg.reader]; exact id)

theorem Ending.local? [Slave S] (h : c.Ending) (hsafe : c.bridge.Safe) {e : Bridge.Event Buf} (hs : c.local? e = some c') :
    c'.Ending := by
  obtain ⟨hpossible, b, hb, rfl⟩ := local?_inv hs
  cases Bridge.moves_of_step hb with
  | read m buffer => exact h.goes ⟨rfl, rfl, h.writer, Iff.rfl, id⟩
  | write m buffer => exact h.goes ⟨rfl, rfl, h.writer, Iff.rfl, id⟩
  | terminate m => exact h.goes ⟨rfl, rfl, h.writer, Iff.rfl, id⟩
  | notify q hq => exact h.goes (Bridge.goes_notify h.writer hq)
  | spurious q hq => exact h.goes (Bridge.goes_spurious h.writer hq)
  | pop q r hw hq => exact h.goes (Bridge.goes_loopHead hw (Queue.pop_inv hq).2)
  | resume q r hw hq => exact h.goes (Bridge.goes_resume hw hq)
  | dispatch tx hw => exact h.goes (Bridge.goes_dispatch hw)
  | sent out write hw => exact hpossible.elim
  | receive read hr => exact hpossible.elim
  | process txn hr =>
    obtain ⟨hthread, hwaiter, hends⟩ := Bridge.process_ends hsafe hr
    have hrunning : c.bridge.queue.done ≠ true := fun hdone => by
      have hreturned := h.finished.mp hdone
      rw [hr] at hreturned
      cases hreturned
    have hasleep : (c.bridge.readerProcess txn).Asleep := by
      unfold Bridge.Asleep
      rw [hwaiter, hthread]
      exact h.asleep
    refine h.bridge ?_ (by rw [hthread]; exact h.writer) hasleep ?_ (by rw [hthread]) fun hreturned => ?_
    · rcases hends with ⟨hreader, -⟩ | ⟨hreader, -⟩ <;> rw [hreader] <;> simp
    · rcases hends with ⟨hreader, hdone⟩ | ⟨hreader, hdone⟩ <;> rw [hreader, hdone] <;> simp [hrunning]
    · rw [hr] at hreturned
      cases hreturned

/-- The writer logs out over a client that is started. -/
theorem Ending.sent (h : c.Ending) (hstate : c.bridge.writerThread ≠ some .returned → c.bridge.client.state = .started)
    (hs : c.sent = some c') : c'.Ending := by
  unfold Endpoint.sent at hs
  split at hs
  · rename_i out hw
    cases hs
    have hstarted : c.bridge.client.state = .started := hstate (by simp [hw])
    have hlogout := h.logout
    have hawake : c.bridge.queue.condVar.waiter ≠ .blocked := fun hblocked => by
      have hpopping := h.asleep hblocked
      rw [hw] at hpopping
      cases hpopping
    rw [if_pos hstarted]
    rcases Bridge.writerSent_started hstarted out with ⟨rfl, hsent⟩ | ⟨hne, hsent⟩ <;> rw [hsent]
    · exact
        { reader := h.reader
          writer := by simp
          asleep := fun hblocked => absurd hblocked hawake
          finished := h.finished
          logout := by simp [Outgoing.message]
          told := h.told }
    · have htype : (getRoot (out.message : Buf)).getType ≠ .done := by
        cases out with
        | transaction txn => simp [Outgoing.message]
        | termination id => simp [Outgoing.message]
        | logout => exact absurd rfl hne
      refine
        { reader := h.reader
          writer := by simp
          asleep := fun hblocked => absurd hblocked hawake
          finished := h.finished
          logout := ?_
          told := h.told }
      rw [hw] at hlogout
      simpa [or_imp, forall_and, htype] using hlogout
  · cases hs

theorem Ending.receive [Slave S] {n : Nat} (h : c.Ending) (hdown : ∀ msgArr ∈ c.toClient, Deliverable n msgArr)
    (hs : c.receive = some c') : c'.Ending := by
  unfold Endpoint.receive at hs
  split at hs
  · rename_i hr
    have hrunning : c.bridge.queue.done ≠ true := fun hdone => by
      have hreturned := h.finished.mp hdone
      rw [hr] at hreturned
      cases hreturned
    have hexit : ∀ {client : RouterClient} {st toClient}, ({ c with
        bridge := ({ c.bridge with client } : Bridge S).readerExit st, toClient } : Endpoint S Buf).Ending :=
      { reader := by simp [Bridge.readerExit]
        writer := h.writer
        asleep := h.asleep
        finished := by simp [Bridge.readerExit, Queue.finish]
        logout := h.logout
        told := fun _ => Or.inl rfl }
    split at hs
    · rename_i hstate
      split at hs
      · cases hs
      · rename_i msgArr rest hd
        cases hs
        rcases readerReceive_cases hstate msgArr with
          ⟨txn, hdec, heq⟩ | ⟨-, -, st, heq⟩ | ⟨hdec, htype, -⟩
        · rw [heq]
          refine
            { reader := by simp
              writer := h.writer
              asleep := h.asleep
              finished := by simp [hrunning]
              logout := h.logout
              told := fun hw => ?_ }
          rcases h.told hw with hreturned | ⟨out, hmem, hout⟩
          · rw [hr] at hreturned
            cases hreturned
          · rw [hd] at hmem
            rcases List.mem_cons.mp hmem with rfl | hmem
            · rw [decode_eq_none (by simp [hout])] at hdec
              cases hdec
            · exact Or.inr ⟨out, hmem, hout⟩
        · rw [heq]
          exact hexit
        · rcases hdown msgArr (by rw [hd]; exact List.mem_cons_self) with hdone | ⟨txn, htxn, -⟩
          · exact absurd hdone htype
          · rw [hdec] at htxn
            cases htxn
    · rename_i hstate
      cases hs
      have heq : ∃ st, c.bridge.readerReceive (.error "" : RouterClient.Received Buf) = c.bridge.readerExit st :=
        ⟨_, by simp [Bridge.readerReceive, RouterClient.receiveTransaction, hstate]; rfl⟩
      obtain ⟨st, heq⟩ := heq
      rw [heq]
      exact hexit
  · cases hs

theorem Ending.readMsg (h : c.Ending) (hs : c.readMsg = some c') : c'.Ending := by
  unfold Endpoint.readMsg at hs
  split at hs
  · rename_i msgArr rest hr hup
    cases hs
    have hlogout := h.logout
    rw [hr, hup] at hlogout
    refine
      { reader := h.reader
        writer := h.writer
        asleep := h.asleep
        finished := h.finished
        logout := hlogout.trans ?_
        told := h.told }
    by_cases htype : (getRoot msgArr).getType = .done
    · simp [ClientReader.finished, htype]
    · simp [ClientReader.finished, htype]
  · cases hs

theorem Ending.writeMsg (h : c.Ending) (hs : c.writeMsg = some c') : c'.Ending := by
  unfold Endpoint.writeMsg at hs
  split at hs
  · rename_i msgArr hw
    cases hs
    refine
      { reader := h.reader
        writer := h.writer
        asleep := h.asleep
        finished := h.finished
        logout := h.logout
        told := fun hfinished => ?_ }
    by_cases htype : (getRoot msgArr).getType = .done
    · exact Or.inr ⟨msgArr, by simp, htype⟩
    · simp [htype, ClientWriter.finished] at hfinished
  · cases hs

end Endpoint

namespace System
variable {S Buf : Type} [Flatbuffers Buf] {s t : System S Buf}

def Ending (s : System S Buf) : Prop := ∀ i < s.clients, (s.endpoints i).Ending

theorem Ready.ending (h : s.Ready) : s.Ending := fun i hi => by
  have hb := h.bridges i hi
  obtain ⟨hup, hdown⟩ := h.sockets i hi
  obtain ⟨hreader, hwriter⟩ := h.goroutines i
  exact
    { reader := by simp [hb.reader]
      writer := by simp [hb.writer]
      asleep := fun _ => hb.writer
      finished := by simp [h.queues i hi, hb.reader]
      logout := by simp [hb.writer, hreader, hup, ClientReader.finished]
      told := by simp [hwriter, ClientWriter.finished] }

theorem Ending.endpointStep (h : s.Ending) {i : Nat} {next : Endpoint S Buf → Option (Endpoint S Buf)}
    (hs : s.endpointStep i next = some t)
    (hnext : i < s.clients → ∀ c, next (s.endpoints i) = some c → c.Ending) : t.Ending := by
  obtain ⟨hi, c, hc, rfl⟩ := endpointStep_inv hs
  exact setEndpoint_forall h (hnext hi c hc)

theorem Ending.take (h : s.Ending) {i : Nat} {order : List IpInfo} (hi : i < s.clients)
    (hs : s.take i order = some t) : t.Ending := by
  unfold System.take at hs
  split at hs
  · rename_i msgArr hreceiving hoffering
    split at hs
    · generalize hturn : s.router.route order msgArr = turn at hs
      obtain ⟨router, routed⟩ := turn
      cases hs
      have hclients : router.clients = s.router.clients := by
        obtain ⟨n, hn⟩ := s.router.route_router order msgArr
        rw [hturn] at hn
        rw [show router = _ from hn]
      have hc := h i hi
      have hlogout := hc.logout
      rw [hoffering] at hlogout
      have hreading : ({ s.endpoints i with reader := .reading } : Endpoint S Buf).Ending :=
        { hc with logout := hlogout }
      intro j hj
      exact setEndpoint_forall h hreading j (by simpa [clients, hclients] using hj)
    · cases hs
  · cases hs

theorem Ending.hand (h : s.Ending) (hs : s.hand = some t) : t.Ending := by
  have hwriting : ∀ (k : Nat) (msgArr : Buf), k < s.clients →
      ({ s.endpoints k with writer := .writing msgArr } : Endpoint S Buf).Ending := fun k msgArr hk =>
    { h k hk with told := by simp [ClientWriter.finished] }
  have hset : ∀ (k : Nat) (msgArr : Buf),
      ∀ i < s.clients, ((s.setEndpoint k { s.endpoints k with writer := .writing msgArr }).endpoints i).Ending := by
    intro k msgArr i hi
    by_cases hik : i = k
    · subst hik
      rw [setEndpoint_self]
      exact hwriting i msgArr hi
    · rw [setEndpoint_ne hik]
      exact h i hi
  unfold System.hand at hs
  split at hs
  · split at hs
    · cases hs
      exact hset _ _
    · cases hs
  · split at hs
    · cases hs
      exact hset _ _
    · cases hs
  · cases hs

theorem Ending.step [Slave S] {C : Contract S} {own : UInt64 → Prop} (h : s.Ending) (hp : s.Piping C own)
    {e : Event Buf} (hs : s.step e = some t) : t.Ending := by
  cases e with
  | bridge i e =>
    simp only [System.step] at hs
    exact h.endpointStep hs fun hi c hc => (h i hi).local? (hp.safe i hi) hc
  | sent i =>
    simp only [System.step] at hs
    refine h.endpointStep hs fun hi c hc => (h i hi).sent (fun hne => ?_) hc
    have hintact : decide ((s.endpoints i).bridge.client.state = .started ∨
        (s.endpoints i).bridge.writerThread = some .returned) = true := (hp.within.flows i hi).intact
    exact (of_decide_eq_true hintact).resolve_right hne
  | receive i =>
    simp only [System.step] at hs
    refine h.endpointStep hs fun hi c hc => (h i hi).receive (n := s.router.ips.length) (fun msgArr hmem => ?_) hc
    exact (hp.within.flows i hi).down msgArr (List.mem_append_left _ (List.mem_append_left _ hmem))
  | readMsg i =>
    simp only [System.step] at hs
    split at hs
    · exact h.endpointStep hs fun hi c hc => (h i hi).readMsg hc
    · cases hs
  | take i order =>
    simp only [System.step] at hs
    split at hs
    · exact h.take ‹_› hs
    · cases hs
  | hand => exact h.hand hs
  | writeMsg i =>
    simp only [System.step] at hs
    split at hs
    · exact h.endpointStep hs fun hi c hc => (h i hi).writeMsg hc
    · cases hs

/-! ### At rest -/

/-- Neither a thread of a bridge nor a goroutine can make a step. -/
def AtRest [Slave S] (s : System S Buf) : Prop := ∀ e, e.OfThread → s.step e = none

/-- The session is over, but for the writers that sleep for good. -/
structure ClosedDown (s : System S Buf) : Prop where
  route : s.route = .exited
  readers : ∀ i < s.clients, (s.endpoints i).bridge.readerThread = some .returned
  goroutines : ∀ i < s.clients, (s.endpoints i).writer = .done
  writers : ∀ i < s.clients,
    ((s.endpoints i).bridge.queue.Lost ∧ (s.endpoints i).bridge.writerThread = some .popping ∧
      (s.endpoints i).reader.finished = false) ∨
    (¬(s.endpoints i).bridge.queue.Lost ∧ (s.endpoints i).bridge.writerThread = some .returned ∧
      (s.endpoints i).reader = .done)
  waitGroup : s.waitGroup = (List.range s.clients).countP fun i => (s.endpoints i).bridge.queue.Lost

section
variable [Slave S]

omit [Flatbuffers Buf] [Slave S] in
theorem endpointStep_none {i : Nat} {next : Endpoint S Buf → Option (Endpoint S Buf)} (hi : i < s.clients)
    (h : s.endpointStep i next = none) : next (s.endpoints i) = none := by
  unfold endpointStep at h
  rw [if_pos hi] at h
  simpa using h

/-- No step of the bridge is left that no socket takes part in. -/
theorem AtRest.bridge (h : s.AtRest) {i : Nat} (hi : i < s.clients) {e : Bridge.Event Buf}
    (hthread : (Event.bridge i e).OfThread) (hpossible : (s.endpoints i).Possible e) :
    (s.endpoints i).bridge.step e = none := by
  have hnone : s.endpointStep i (fun c => c.local? e) = none := h (.bridge i e) hthread
  simpa [Endpoint.local?, hpossible] using endpointStep_none hi hnone

theorem AtRest.receive (h : s.AtRest) {i : Nat} (hi : i < s.clients) : (s.endpoints i).receive = none := by
  have hnone : s.endpointStep i (fun c => c.receive) = none := h (.receive i) trivial
  exact endpointStep_none hi hnone

theorem AtRest.sent (h : s.AtRest) {i : Nat} (hi : i < s.clients) : (s.endpoints i).sent = none := by
  have hnone : s.endpointStep i (fun c => c.sent) = none := h (.sent i) trivial
  exact endpointStep_none hi hnone

theorem AtRest.writer (h : s.AtRest) (hrunning : s.running = true) {i : Nat} (hi : i < s.clients) (msgArr : Buf) :
    (s.endpoints i).writer ≠ .writing msgArr := by
  intro hw
  have hnone := h (.writeMsg i) trivial
  simp only [System.step, hrunning, if_true] at hnone
  have hstep := endpointStep_none hi hnone
  simp [Endpoint.writeMsg, hw] at hstep

/-- `sendDone` has got to its end. -/
theorem AtRest.exited (h : s.AtRest) (hp : s.Paced) (hleft : s.Left) : s.route = .exited := by
  unfold Left at hleft
  split at hleft
  · rename_i k hroute
    have hstep := hp.inStep
    unfold InStep at hstep
    rw [hroute] at hstep
    obtain ⟨hk, -, hopen⟩ := hstep
    obtain ⟨hgoes, -⟩ := hopen k hk le_rfl
    have hrunning : s.running = true := by simp [running, hroute]
    have hnone := h .hand trivial
    cases hw : (s.endpoints k).writer with
    | waiting => simp [System.step, hand, hroute, Endpoint.listening, hw] at hnone
    | writing msgArr => exact absurd hw (h.writer hrunning hk msgArr)
    | done => simp [hw, ClientWriter.finished] at hgoes
  · assumption
  · exact hleft.elim

theorem AtRest.goroutine (h : s.AtRest) (hp : s.Paced) (hroute : s.route = .exited) {i : Nat} (hi : i < s.clients) :
    (s.endpoints i).writer = .done := by
  have hstep := hp.inStep
  unfold InStep at hstep
  rw [hroute] at hstep
  obtain ⟨hlistening, -⟩ := hstep i hi
  cases hw : (s.endpoints i).writer with
  | waiting => simp [Endpoint.listening, hw] at hlistening
  | writing msgArr => exact absurd hw (h.writer (by simp [running, hroute]) hi msgArr)
  | done => rfl

/-- The `DONE` of a client has got its reader to return. -/
theorem AtRest.reader (h : s.AtRest) (hd : s.Drained) {i : Nat} (hi : i < s.clients) (hc : (s.endpoints i).Ending)
    (hw : (s.endpoints i).writer = .done) : (s.endpoints i).bridge.readerThread = some .returned := by
  cases hr : (s.endpoints i).bridge.readerThread with
  | none => exact absurd hr hc.reader.1
  | some thread =>
    cases thread with
    | receiving =>
      have hnone := h.receive hi
      rcases hc.told (by rw [hw]; rfl) with hreturned | ⟨msgArr, hmem, -⟩
      · rw [hr] at hreturned
        cases hreturned
      · obtain ⟨out, rest, hdown⟩ := List.exists_cons_of_ne_nil (List.ne_nil_of_mem hmem)
        by_cases hstate : (s.endpoints i).bridge.client.state = .started
        · simp [Endpoint.receive, hr, hstate, hdown] at hnone
        · simp [Endpoint.receive, hr, hstate] at hnone
    | holding txn =>
      have hnone := h.bridge hi (e := .process) trivial trivial
      have hreq := hd.idle i hi txn hr
      have hsafe : ¬(s.endpoints i).bridge.Throws txn := fun hthrows => by
        rw [hthrows.1] at hreq
        cases hreq
      simp [Bridge.step, hr, hsafe] at hnone
    | returned => rfl
    | crashed => exact absurd hr hc.reader.2

/-- A writer that has not returned sleeps, and nobody will wake it up. -/
theorem AtRest.lost (h : s.AtRest) {i : Nat} (hi : i < s.clients) (hc : (s.endpoints i).Ending)
    (hr : (s.endpoints i).bridge.readerThread = some .returned)
    (hw : (s.endpoints i).bridge.writerThread ≠ some .returned) :
    (s.endpoints i).bridge.writerThread = some .popping ∧ (s.endpoints i).bridge.queue.Lost := by
  cases hthread : (s.endpoints i).bridge.writerThread with
  | none => exact absurd hthread hc.writer
  | some thread =>
    cases thread with
    | popping =>
      have hpop := h.bridge hi (e := .pop) trivial trivial
      have hresume := h.bridge hi (e := .resume) trivial trivial
      have hnotify := h.bridge hi (e := .notify) trivial trivial
      have hdone := hc.finished.mpr hr
      refine ⟨rfl, hdone, ?_⟩
      cases hwaiter : (s.endpoints i).bridge.queue.condVar.waiter with
      | outside => simp [Bridge.step, hthread, Queue.pop, hwaiter] at hpop
      | woken => simp [Bridge.step, hthread, Queue.resume, hwaiter, hdone] at hresume
      | blocked =>
        refine ⟨hwaiter, ?_⟩
        by_contra hsignals
        simp [Bridge.step, Queue.notify, CondVar.notify, hsignals] at hnotify
    | holding tx =>
      have hnone := h.bridge hi (e := .dispatch) trivial trivial
      simp [Bridge.step, hthread] at hnone
    | sending out =>
      have hnone := h.sent hi
      simp [Endpoint.sent, hthread] at hnone
    | returned => exact absurd hthread hw

/-- The reader of a client at the router has ended with its `DONE`, if there was one. -/
theorem AtRest.finished (h : s.AtRest) (hd : s.Drained) (hroute : s.route = .exited) {i : Nat} (hi : i < s.clients)
    (hc : (s.endpoints i).Ending) (hw : (s.endpoints i).bridge.writerThread = some .returned) :
    (s.endpoints i).reader = .done := by
  have hoffered := (hd.offers i hi).1
  cases hr : (s.endpoints i).reader with
  | reading =>
    rcases hc.logout.mp hw with hfinished | ⟨msgArr, hmem, -⟩
    · simp [hr, ClientReader.finished] at hfinished
    · obtain ⟨out, rest, hup⟩ := List.exists_cons_of_ne_nil (List.ne_nil_of_mem hmem)
      have hnone := h (.readMsg i) trivial
      simp only [System.step, running, hroute, if_true] at hnone
      have hstep := endpointStep_none hi hnone
      simp [Endpoint.readMsg, hr, hup] at hstep
  | offering msgArr => simp [Endpoint.offered, hr] at hoffered
  | done => rfl

theorem AtRest.closedDown (h : s.AtRest) (hending : s.Ending) (hp : s.Paced) (hd : s.Drained) (hleft : s.Left) :
    s.ClosedDown := by
  have hroute := h.exited hp hleft
  have hgoroutines : ∀ i < s.clients, (s.endpoints i).writer = .done := fun i hi => h.goroutine hp hroute hi
  have hreaders : ∀ i < s.clients, (s.endpoints i).bridge.readerThread = some .returned := fun i hi =>
    h.reader hd hi (hending i hi) (hgoroutines i hi)
  have hwriters : ∀ i < s.clients,
      ((s.endpoints i).bridge.queue.Lost ∧ (s.endpoints i).bridge.writerThread = some .popping ∧
        (s.endpoints i).reader.finished = false) ∨
      (¬(s.endpoints i).bridge.queue.Lost ∧ (s.endpoints i).bridge.writerThread = some .returned ∧
        (s.endpoints i).reader = .done) := by
    intro i hi
    have hc := hending i hi
    by_cases hw : (s.endpoints i).bridge.writerThread = some .returned
    · refine Or.inr ⟨fun hlost => ?_, hw, h.finished hd hroute hi hc hw⟩
      have hpopping := hc.asleep hlost.2.1
      rw [hw] at hpopping
      cases hpopping
    · obtain ⟨hpopping, hlost⟩ := h.lost hi hc (hreaders i hi) hw
      refine Or.inl ⟨hlost, hpopping, ?_⟩
      have hno : ¬(s.endpoints i).reader.finished = true := fun hfinished => hw (hc.logout.mpr (Or.inl hfinished))
      simpa using hno
  refine ⟨hroute, hreaders, hgoroutines, hwriters, ?_⟩
  have hzero : (List.range s.clients).countP (fun i => !(s.endpoints i).writer.finished) = 0 :=
    List.countP_eq_zero.mpr fun i hi => by simp [hgoroutines i (List.mem_range.mp hi), ClientWriter.finished]
  have hlost : (List.range s.clients).countP (fun i => !(s.endpoints i).reader.finished) =
      (List.range s.clients).countP fun i => (s.endpoints i).bridge.queue.Lost := by
    refine List.countP_congr fun i hi => ?_
    rcases hwriters i (List.mem_range.mp hi) with ⟨hlost, -, hfinished⟩ | ⟨hlost, -, hdone⟩
    · simp [hlost, hfinished]
    · simp [hlost, hdone, ClientReader.finished]
  simp [waitGroup, hzero, hlost, hroute, RouteLoop.finished]

/-! ### From the handshake to the end -/

omit [Flatbuffers Buf] [Slave S] in
theorem Left.endpointStep (h : s.Left) {i : Nat} {next : Endpoint S Buf → Option (Endpoint S Buf)}
    (hs : s.endpointStep i next = some t) : t.Left := by
  obtain ⟨-, c, -, rfl⟩ := endpointStep_inv hs
  exact h

/-- `route` does not come back into its loop. -/
theorem Left.step (h : s.Left) {e : Event Buf} (hs : s.step e = some t) : t.Left := by
  cases e with
  | bridge i e =>
    simp only [System.step] at hs
    exact h.endpointStep hs
  | sent i =>
    simp only [System.step] at hs
    exact h.endpointStep hs
  | receive i =>
    simp only [System.step] at hs
    exact h.endpointStep hs
  | readMsg i =>
    simp only [System.step] at hs
    split at hs
    · exact h.endpointStep hs
    · cases hs
  | take i order =>
    simp only [System.step] at hs
    split at hs
    · unfold System.take at hs
      split at hs
      · rename_i hroute hreader
        simp [Left, hroute] at h
      · cases hs
    · cases hs
  | hand =>
    simp only [System.step] at hs
    unfold System.hand at hs
    split at hs
    · rename_i hroute
      simp [Left, hroute] at h
    · split at hs
      · cases hs
        simp only [Left]
        split_ifs <;> trivial
      · cases hs
    · cases hs
  | writeMsg i =>
    simp only [System.step] at hs
    split at hs
    · exact h.endpointStep hs
    · cases hs

omit [Slave S] in
/-- The router has counted the masters of the bridges. -/
theorem Opened.counted (h : s.Opened) : ∃ ms : List (Nat × UInt64), ms.length ≤ s.router.masterCount.toNat ∧
    ∀ i < s.clients, ∀ m, ((s.endpoints i).bridge.masterMap m).isSome = true → (i, m) ∈ ms := by
  obtain ⟨h₀, es, h, hf, hr, hstarted, rfl⟩ := h
  obtain ⟨hI, hrolled⟩ := hf.run_rolled hr
  have hcounted : h.router.Counted := hf.run_counted hr hstarted
  refine ⟨h.router.masters.map fun ip => ((h.router.arrived[ip.id.toNat]?).getD 0, ip.id), ?_, fun i hi m hm => ?_⟩
  · rw [List.length_map]
    exact hcounted.ge
  · obtain ⟨md, hmd⟩ := Option.isSome_iff_exists.mp hm
    obtain ⟨-, name, -, hlog⟩ := (hrolled.enrolled i).masters m md hmd
    have hheld := hrolled.holds hI hi hlog
    obtain ⟨ip, hip, hid, hconfig⟩ := hheld.stored
    refine List.mem_map.mpr ⟨ip, List.mem_filter.mpr ⟨List.mem_of_getElem? hip, ?_⟩, ?_⟩
    · have htype : ip.type = .master := congrArg IpConfig.type hconfig
      simp [htype, IpType.isMaster]
    · rw [hid, hheld.arrived]
      rfl

omit [Slave S] in
theorem Opened.accounted (h : s.Opened) : ∃ ms, s.Accounted ms := by
  obtain ⟨ms, hlen, hcounted⟩ := h.counted
  exact ⟨ms, h.ready.accounted hlen hcounted⟩

/-- What holds on the way to the end of a session. -/
structure Closing (s : System S Buf) : Prop where
  ending : s.Ending
  paced : s.Paced
  piping : ∃ own, s.Piping (unrestricted S) own
  accounted : ∃ ms, s.Accounted ms
  tidy : s.Tidy

theorem Opened.closing (h : s.Opened) : s.Closing where
  ending := h.ready.ending
  paced := h.ready.paced
  piping := ⟨_, h.ready.piping (fun order _ bytes x _ => by split <;> trivial) (fun _ _ _ _ _ _ _ => trivial) trivial⟩
  accounted := h.accounted
  tidy := h.ready.tidy

theorem Closing.step (h : s.Closing) {e : Event Buf} (he : s.Timely e) (hs : s.step e = some t) : t.Closing where
  ending := by
    obtain ⟨own, hpiping⟩ := h.piping
    exact h.ending.step hpiping hs
  paced := h.paced.step hs
  piping := by
    obtain ⟨own, hpiping⟩ := h.piping
    exact ⟨own, hpiping.step (keeps_unrestricted e) hs⟩
  accounted := by
    obtain ⟨ms, hms⟩ := h.accounted
    exact ⟨ms, hms.move (step_move (keeps_unrestricted e) hs)⟩
  tidy := by
    obtain ⟨own, hpiping⟩ := h.piping
    obtain ⟨ms, hms⟩ := h.accounted
    exact h.tidy.step hms hpiping he hs

theorem Closing.drained (h : s.Closing) (hleft : s.Left) : s.Drained := by
  obtain ⟨ms, hms⟩ := h.accounted
  exact hms.drained h.tidy h.paced hleft

theorem Closing.timely (h : s.Closing) {e : Event Buf} (he : s.TerminatesResolved e) (hs : s.step e = some t) :
    s.Timely e := by
  obtain ⟨ms, hms⟩ := h.accounted
  exact he.timely hms hs

omit [Slave S] in
theorem Event.OfThread.timely {e : Event Buf} (h : e.OfThread) : s.Timely e := by
  cases e with
  | bridge i e => cases e <;> trivial
  | _ => trivial

/-- The threads and the goroutines come to rest. -/
theorem exists_rest (t : System S Buf) :
    ∃ fs u, (∀ e ∈ fs, Event.OfThread e) ∧ run step t fs = some u ∧ u.AtRest := by
  obtain ⟨fs, u, hfs, hu, hrest⟩ := exists_run_to_rest (fun _ _ _ he hs => Event.OfThread.effort he hs) t
  exact ⟨fs, u, hfs, hu, fun e he => Option.eq_none_iff_forall_ne_some.mpr fun v => hrest e v he⟩

/-- The steps of threads and goroutines keep to what is on its way to the end. -/
theorem closing_of_run (h : s.Closing) (hleft : s.Left) {es : List (Event Buf)} (hes : ∀ e ∈ es, Event.OfThread e)
    (hr : run step s es = some t) : t.Closing ∧ t.Left := by
  have keep : ∀ (s : System S Buf) e t, (s.Closing ∧ s.Left) → Event.OfThread e → s.step e = some t →
      t.Closing ∧ t.Left := fun s e t h he hs => ⟨h.1.step he.timely hs, h.2.step hs⟩
  exact run_invariant_of_everyStep keep ⟨h, hleft⟩ (everyStep_of_forall fun e he _ => hes e he) hr

/-- A session whose masters are terminated once their requests are resolved, and in which `route` has left its loop,
    comes to its end: the threads and the goroutines get to a point at which none of them can make a step, and however
    they got there, the goroutines of the router and the readers of all bridges have returned, and so has every writer
    whose wakeup was not lost. `r.wg` has come down to the number of the others. -/
theorem closes_down (hs : s.Opened) {es : List (Event Buf)} (hes : EveryStep step TerminatesResolved s es)
    (hr : run step s es = some t) (hleft : t.Left) :
    (∃ fs u, (∀ e ∈ fs, Event.OfThread e) ∧ run step t fs = some u ∧ u.AtRest) ∧
      ∀ fs u, (∀ e ∈ fs, Event.OfThread e) → run step t fs = some u → u.AtRest → u.ClosedDown := by
  have hclosing : t.Closing :=
    run_invariant_of_everyStep (fun _ _ _ h he hs => h.step (h.timely he hs) hs) hs.closing hes hr
  refine ⟨exists_rest t, fun fs u hfs hu hrest => ?_⟩
  obtain ⟨hclosing, hleft⟩ := closing_of_run hclosing hleft hfs hu
  exact hrest.closedDown hclosing.ending hclosing.paced (hclosing.drained hleft) hleft

end

/-- The master waits for its read, then terminates; its `TERMINATE` gets `route` out of its loop. -/
def readTerminated : List (Event Wire.Message) :=
  let item := [.bridge 0 .pop, .bridge 0 .dispatch, .sent 0, .readMsg 0, .take 0 (opened.router.ipMMap.map Prod.snd)]
  let back := [.hand, .writeMsg 0, .receive 0, .bridge 0 .process]
  .bridge 0 (.read 1 { data := [0, 0], size := 2, address := 0x1000 }) :: (item ++ back ++ item ++ back) ++
    .bridge 0 (.terminate 1) :: item

theorem closes_down_readTerminated :
    ∃ t fs u, run step opened readTerminated = some t ∧ t.record.terminations = [1] ∧
      run step t fs = some u ∧ u.ClosedDown := by
  have hrun : (run step opened readTerminated).map (fun t => (t.route, t.record.terminations)) =
      some (.sendDone 0, [1]) := by decide
  obtain ⟨t, hr, heq⟩ := Option.map_eq_some_iff.mp hrun
  obtain ⟨hroute, hterminations⟩ := Prod.mk.inj heq
  have hleft : t.Left := by simp [Left, hroute]
  have hresolved : EveryStep step TerminatesResolved opened readTerminated := by decide
  obtain ⟨⟨fs, u, hfs, hu, hrest⟩, hdown⟩ := closes_down opened_opened hresolved hr hleft
  exact ⟨t, fs, u, hr, hterminations, hu, hdown fs u hfs hu hrest⟩

end System

end SwAxi
