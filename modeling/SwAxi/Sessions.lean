import SwAxi.Lifecycle

/-! Sessions run one after another on one bridge: each connects, registers, commits, starts, serves and completes, or
ends on the first error, and is closed by `disconnect`. What a session leaves behind that `disconnect` does not reset
is there in the sessions after it. -/

namespace SwAxi
open Wire (Flatbuffers)
open Transition
open RouterClient (Consistent State)
open Bridge (StartLoop sentPeer sentIp ackedId)

/-- Where a session is. -/
inductive Phase where
  | closed
  | registering
  | committed
  | serving
  /-- It has completed, or a call has failed. -/
  | over
  deriving DecidableEq, Repr

/-- A session so far: its calls and the steps of its threads, and what was registered in it. -/
structure Session (S Buf : Type) where
  calls : List (Lifecycle.Event S Buf) := []
  slaves : List (UInt64 × S) := []
  masters : List UInt64 := []

structure Sessions (S Buf : Type) where
  life : Lifecycle S := {}
  phase : Phase := .closed
  session : Session S Buf := {}

/-- The phase in which a call is made, and the one it leads to if it goes well. -/
@[simp] def Lifecycle.Event.phases {S Buf : Type} : Lifecycle.Event S Buf → Phase × Phase
  | .connect _ _ => (.closed, .registering)
  | .registerSlave _ _ _ | .registerMaster _ _ => (.registering, .registering)
  | .commitIp _ => (.registering, .committed)
  | .start _ => (.committed, .serving)
  | .thread _ => (.serving, .serving)
  | .waitForCompletion => (.serving, .over)
  | .disconnect => (.over, .closed)

section
variable {S Buf : Type} [Flatbuffers Buf]

/-- What a call that has returned adds to its session; `disconnect` makes room for the next one. -/
def Session.record (s : Session S Buf) (e : Lifecycle.Event S Buf) (st : Status) : Session S Buf :=
  let s := { s with calls := s.calls ++ [e] }
  if st.isError then s
  else match e with
  | .registerSlave slave _ x => { s with slaves := s.slaves ++ (ackedId x.read).toList.map fun id => (id, slave) }
  | .registerMaster _ x => { s with masters := s.masters ++ (ackedId x.read).toList }
  | .disconnect => {}
  | _ => s

namespace Sessions

def step [Slave S] (s : Sessions S Buf) (e : Lifecycle.Event S Buf) : Option (Sessions S Buf) :=
  if s.phase = e.phases.1 then
    (s.life.call e).map fun (life, st) =>
      { life, phase := if st.isError then .over else e.phases.2, session := s.session.record e st }
  else none

/-- What a session that has just started finds: what the router sent in it, what was registered in it, a queue to work
    with, and all in all the bridge that the calls of the session make of a new one. -/
structure Isolated [Slave S] (s : Sessions S Buf) (reads : List (RouterClient.Received Buf)) : Prop where
  peers : s.life.bridge.enumeratePeers = .ok (reads.filterMap sentPeer)
  ips : s.life.bridge.enumerateIp = .ok (reads.filterMap sentIp)
  slaves : ∀ id slave, s.life.bridge.slaveMap id = some slave → (id, slave) ∈ s.session.slaves
  masters : ∀ id md, s.life.bridge.masterMap id = some md → id ∈ s.session.masters
  done : s.life.bridge.queue.done = false
  items : s.life.bridge.queue.items = []
  fresh : run Lifecycle.step {} s.session.calls = some s.life

/-- The call leaves nothing behind in the bridge that `disconnect` would not reset: it is no `start` that goes well or
    comes to know a peer. -/
def Traceless : Lifecycle.Event S Buf → Prop
  | .start reads => StartLoop.peers.lists reads = false ∧ StartLoop.peers.leading reads = []
  | _ => True

/-! ### What holds between the calls -/

/-- Before `start`, a bridge has only what was registered in the session. -/
structure Registered (s : Sessions S Buf) : Prop where
  ips : s.life.bridge.ipBlocks = []
  slaves : ∀ id slave, s.life.bridge.slaveMap id = some slave → (id, slave) ∈ s.session.slaves
  masters : ∀ id md, s.life.bridge.masterMap id = some md → id ∈ s.session.masters

/-- What holds in each phase, whatever there was before the session. -/
structure Sound (s : Sessions S Buf) : Prop where
  consistent : Consistent s.life.bridge.client
  running : s.life.aborted = false
  held : s.phase = .serving → s.life.readerJoinable = true ∧ s.life.writerJoinable = true
  free : s.phase ≠ .serving → s.life.readerJoinable = false ∧ s.life.writerJoinable = false
  returned : s.life.bridge.readerThread = some .returned → s.life.bridge.queue.done = true
  committed : s.phase = .committed → s.life.bridge.client.state = .committed
  registered : s.phase ≠ .serving → s.phase ≠ .over → s.Registered

variable [Slave S] {s t : Sessions S Buf} {e : Lifecycle.Event S Buf}

theorem step_inv (h : s.step e = some t) : s.phase = e.phases.1 ∧ ∃ life st, s.life.call e = some (life, st) ∧
    t = { life, phase := if st.isError then .over else e.phases.2, session := s.session.record e st } := by
  unfold step at h
  split at h
  · obtain ⟨⟨life, st⟩, hcall, heq⟩ := Option.map_eq_some_iff.mp h
    exact ⟨‹_›, life, st, hcall, heq.symm⟩
  · cases h

omit [Flatbuffers Buf] [Slave S] in
/-- Outside the service there is no thread for `start` to assign to. -/
theorem Sound.not_joinable (h : s.Sound) (hphase : s.phase ≠ .serving) :
    ¬(s.life.readerJoinable = true ∨ s.life.writerJoinable = true) := by
  obtain ⟨hreader, hwriter⟩ := h.free hphase
  simp [hreader, hwriter]

omit [Flatbuffers Buf] [Slave S] in
/-- In the service both threads are there to be joined. -/
theorem Sound.joinable (h : s.Sound) (hphase : s.phase = .serving) :
    ¬(s.life.readerJoinable = false ∨ s.life.writerJoinable = false) := by
  obtain ⟨hreader, hwriter⟩ := h.held hphase
  simp [hreader, hwriter]

omit [Flatbuffers Buf] [Slave S] in
/-- Outside the service, only the client and what is registered can change. -/
theorem Sound.congr (h : s.Sound) (hs : s.phase ≠ .serving) (ht : t.phase ≠ .serving)
    (hreader : t.life.readerJoinable = s.life.readerJoinable) (hwriter : t.life.writerJoinable = s.life.writerJoinable)
    (haborted : t.life.aborted = s.life.aborted) (hthread : t.life.bridge.readerThread = s.life.bridge.readerThread)
    (hqueue : t.life.bridge.queue = s.life.bridge.queue) (hc : Consistent t.life.bridge.client)
    (hcommitted : t.phase = .committed → t.life.bridge.client.state = .committed)
    (hregistered : t.phase ≠ .over → t.Registered) : t.Sound where
  consistent := hc
  running := haborted.trans h.running
  held hserving := absurd hserving ht
  free _ := by
    rw [hreader, hwriter]
    exact h.free hs
  returned := by
    rw [hthread, hqueue]
    exact h.returned
  committed := hcommitted
  registered _ := hregistered

omit [Flatbuffers Buf] [Slave S] in
theorem update_some_cases {β : Type} {f : UInt64 → Option β} {id id' : UInt64} {v w : β}
    (h : Function.update f id (some v) id' = some w) : (id' = id ∧ w = v) ∨ f id' = some w := by
  by_cases heq : id' = id
  · subst heq
    rw [Function.update_self] at h
    exact Or.inl ⟨rfl, (Option.some.inj h).symm⟩
  · rw [Function.update_of_ne heq] at h
    exact Or.inr h

theorem Sound.step (h : s.Sound) (hs : s.step e = some t) : t.Sound := by
  obtain ⟨hphase, life, st, hcall, rfl⟩ := step_inv hs
  have hc := h.consistent
  cases Lifecycle.called_of_call hc hcall with
  | unconnected uri x st hst =>
    have hphase : s.phase = .closed := hphase
    exact h.congr (by simp [hphase]) (by simp [hst]) rfl rfl rfl rfl rfl hc (by simp [hst]) (by simp [hst])
  | connected uri x st hst client hclient hstate si =>
    have hphase : s.phase = .closed := hphase
    have hreg := h.registered (by simp [hphase]) (by simp [hphase])
    refine h.congr (by simp [hphase]) (by simp [hst]) rfl rfl rfl rfl rfl hclient
      (by simp [hst]) fun _ => ⟨hreg.ips, ?_, ?_⟩
    · simpa [Session.record, hst] using hreg.slaves
    · simpa [Session.record, hst] using hreg.masters
  | refused e he st hst client hclient =>
    have hphase : s.phase = .registering := by cases he <;> exact hphase
    have hconsistent : Consistent client := by
      rcases hclient with rfl | rfl
      · exact hc
      · exact Consistent.new
    exact h.congr (by simp [hphase]) (by simp [hst]) rfl rfl rfl rfl rfl hconsistent (by simp [hst]) (by simp [hst])
  | slave slave config x st hst id hid =>
    have hphase : s.phase = .registering := hphase
    have hreg := h.registered (by simp [hphase]) (by simp [hphase])
    refine h.congr (by simp [hphase]) (by simp [hst]) rfl rfl rfl rfl rfl hc
      (by simp [hst]) fun _ => ⟨hreg.ips, ?_, ?_⟩
    · intro id' slave' hslave
      rcases update_some_cases hslave with ⟨rfl, rfl⟩ | hold
      · simp [Session.record, hst, hid]
      · simp [Session.record, hst, hreg.slaves id' slave' hold]
    · simpa [Session.record, hst] using hreg.masters
  | master name x st hst id md hid =>
    have hphase : s.phase = .registering := hphase
    have hreg := h.registered (by simp [hphase]) (by simp [hphase])
    refine h.congr (by simp [hphase]) (by simp [hst]) rfl rfl rfl rfl rfl hc
      (by simp [hst]) fun _ => ⟨hreg.ips, ?_, ?_⟩
    · simpa [Session.record, hst] using hreg.slaves
    · intro id' md' hmd
      rcases update_some_cases hmd with ⟨rfl, -⟩ | hold
      · simp [Session.record, hst, hid]
      · simp [Session.record, hst, hreg.masters id' md' hold]
  | committed x st hst hstate =>
    have hphase : s.phase = .registering := hphase
    have hreg := h.registered (by simp [hphase]) (by simp [hphase])
    have hcommitted := Bridge.consistent_state hc (by simp [hstate]) (show State.committed ≠ .disconnected by decide)
    refine h.congr (by simp [hphase]) (by simp [hst]) rfl rfl rfl rfl rfl hcommitted
      (fun _ => rfl) fun _ => ⟨hreg.ips, ?_, ?_⟩
    · simpa [Session.record, hst] using hreg.slaves
    · simpa [Session.record, hst] using hreg.masters
  | failed reads st hst =>
    have hphase : s.phase = .committed := hphase
    exact h.congr (by simp [hphase]) (by simp [hst]) rfl rfl rfl rfl rfl hc.after_disconnect (by simp [hst])
      (by simp [hst])
  | restarted reads st hst hyes hjoinable =>
    have hphase : s.phase = .committed := hphase
    exact absurd hjoinable (h.not_joinable (by simp [hphase]))
  | started reads st hst hyes =>
    exact {
      consistent := Bridge.consistent_state hc (by simp [hyes.1]) (by decide)
      running := h.running
      held := fun _ => ⟨rfl, rfl⟩
      free := fun hno => absurd (by simp [hst]) hno
      returned := nofun
      committed := by simp [hst]
      registered := fun hno => absurd (by simp [hst]) hno }
  | unjoinable st hjoinable => exact absurd hjoinable (h.joinable hphase)
  | completed =>
    exact {
      consistent := hc
      running := h.running
      held := by simp
      free := fun _ => ⟨rfl, rfl⟩
      returned := h.returned
      committed := by simp
      registered := by simp }
  | disconnected =>
    have hphase : s.phase = .over := hphase
    exact h.congr (by simp [hphase]) (by simp) rfl rfl rfl rfl rfl hc.after_disconnect
      (by simp) fun _ => ⟨rfl, nofun, nofun⟩
  | thread e bridge hsteps =>
    have hstep : s.life.step (.thread e) = some { s.life with bridge } := by simp [Lifecycle.step, h.running, hcall]
    exact {
      consistent := Lifecycle.consistent_step hc hstep
      running := h.running
      held := fun _ => h.held hphase
      free := fun hno => absurd rfl hno
      returned := fun hret => (hsteps.returned hret).elim (fun hb => hsteps.done (h.returned hb)) id
      committed := nofun
      registered := fun hno => absurd rfl hno }

/-! ### Sessions without a trace -/

/-- Nothing in the bridge but what `disconnect` resets; and a new one would be there by the calls of the session. -/
structure Quiet (s : Sessions S Buf) : Prop where
  life : ∃ client routerInfo slaveMap masterMap, s.life = { bridge := { client, routerInfo, slaveMap, masterMap } }
  calls : run Lifecycle.step {} s.session.calls = some s.life

theorem Quiet.not_serving (hquiet : s.Quiet) (h : s.Sound) : s.phase ≠ .serving := by
  intro hserving
  obtain ⟨client, routerInfo, slaveMap, masterMap, hlife⟩ := hquiet.life
  have hheld := (h.held hserving).1
  rw [hlife] at hheld
  cases hheld

omit [Slave S] in
theorem calls_record (he : e ≠ .disconnect) (st : Status) :
    (s.session.record e st).calls = s.session.calls ++ [e] := by
  unfold Session.record
  simp only
  split
  · rfl
  · split
    · rfl
    · rfl
    · exact absurd rfl he
    · rfl

/-- The calls of the session lead a new bridge where they have led this one. -/
theorem Quiet.calls_step (hquiet : s.Quiet) (h : s.Sound) (he : e ≠ .disconnect) {life : Lifecycle S} {st : Status}
    (hcall : s.life.call e = some (life, st)) :
    run Lifecycle.step {} (s.session.record e st).calls = some life := by
  rw [calls_record he]
  exact run_snoc.mpr ⟨s.life, hquiet.calls, by simp [Lifecycle.step, h.running, hcall]⟩

theorem Quiet.step (hquiet : s.Quiet) (h : s.Sound) (htraceless : Traceless e) (hs : s.step e = some t) : t.Quiet := by
  obtain ⟨hphase, life, st, hcall, rfl⟩ := step_inv hs
  have hc := h.consistent
  have hserving := hquiet.not_serving h
  obtain ⟨client, routerInfo, slaveMap, masterMap, hlife⟩ := hquiet.life
  cases Lifecycle.called_of_call hc hcall with
  | unconnected => exact ⟨hquiet.life, hquiet.calls_step h (by simp) hcall⟩
  | connected =>
    refine ⟨?_, hquiet.calls_step h (by simp) hcall⟩
    rw [hlife]
    exact ⟨_, _, _, _, rfl⟩
  | refused e he =>
    refine ⟨?_, hquiet.calls_step h (by cases he <;> simp) hcall⟩
    rw [hlife]
    exact ⟨_, _, _, _, rfl⟩
  | slave =>
    refine ⟨?_, hquiet.calls_step h (by simp) hcall⟩
    rw [hlife]
    exact ⟨_, _, _, _, rfl⟩
  | master =>
    refine ⟨?_, hquiet.calls_step h (by simp) hcall⟩
    rw [hlife]
    exact ⟨_, _, _, _, rfl⟩
  | committed =>
    refine ⟨?_, hquiet.calls_step h (by simp) hcall⟩
    rw [hlife]
    exact ⟨_, _, _, _, rfl⟩
  | failed reads st hst hno extra hextra =>
    refine ⟨?_, hquiet.calls_step h (by simp) hcall⟩
    rw [hextra (h.committed hphase), htraceless.2, List.append_nil, Bridge.disconnect_eq hc, hlife]
    exact ⟨_, _, _, _, rfl⟩
  | restarted reads st hst hyes => exact absurd hyes.2 (by simp [htraceless.1])
  | started reads st hst hyes => exact absurd hyes.2 (by simp [htraceless.1])
  | unjoinable => exact absurd hphase hserving
  | completed => exact absurd hphase hserving
  | disconnected =>
    have hnew : ({ s.life with bridge := s.life.bridge.disconnect } : Lifecycle S) = {} := by
      rw [Bridge.disconnect_eq hc, hlife]
    rw [hnew]
    exact ⟨⟨_, _, _, _, rfl⟩, rfl⟩
  | thread => exact absurd hphase hserving

/-! ### Traces -/

/-- Something is there that no `disconnect` will reset, or will be once the session completes. -/
def Traced (s : Sessions S Buf) : Prop :=
  s.life.bridge.peers ≠ [] ∨ s.life.bridge.queue.done = true ∨ s.phase = .serving

omit [Flatbuffers Buf] [Slave S] in
/-- A call that is not made in the service leaves a trace as it is. -/
theorem Traced.congr (htraced : s.Traced) (hs : s.phase ≠ .serving)
    (hpeers : s.life.bridge.peers ≠ [] → t.life.bridge.peers ≠ [])
    (hqueue : t.life.bridge.queue = s.life.bridge.queue) : t.Traced := by
  rcases htraced with htold | hdone | hserving
  · exact Or.inl (hpeers htold)
  · exact Or.inr (Or.inl (hqueue.symm ▸ hdone))
  · exact absurd hserving hs

theorem Traced.step (htraced : s.Traced) (h : s.Sound) (hs : s.step e = some t) : t.Traced := by
  obtain ⟨hphase, life, st, hcall, rfl⟩ := step_inv hs
  have hne {p : Phase} (hp : s.phase = p) (hother : p ≠ .serving) : s.phase ≠ .serving := hp ▸ hother
  cases Lifecycle.called_of_call h.consistent hcall with
  | unconnected => exact htraced.congr (hne hphase (by simp)) id rfl
  | connected => exact htraced.congr (hne hphase (by simp)) id rfl
  | refused e he => exact htraced.congr (hne hphase (by cases he <;> simp)) id rfl
  | slave => exact htraced.congr (hne hphase (by simp)) id rfl
  | master => exact htraced.congr (hne hphase (by simp)) id rfl
  | committed => exact htraced.congr (hne hphase (by simp)) id rfl
  | failed reads st hst hno extra =>
    exact htraced.congr (hne hphase (by simp)) (fun htold => List.append_ne_nil_of_left_ne_nil htold extra) rfl
  | restarted reads st hst hyes hjoinable => exact absurd hjoinable (h.not_joinable (hne hphase (by simp)))
  | started reads st hst => exact Or.inr (Or.inr (by simp [hst]))
  | unjoinable st hjoinable => exact absurd hjoinable (h.joinable hphase)
  | completed st hreader hwriter hreturned => exact Or.inr (Or.inl (h.returned hreturned))
  | disconnected => exact htraced.congr (hne hphase (by simp)) id rfl
  | thread => exact Or.inr (Or.inr rfl)

/-- A session that has started leaves a trace, and so does one that has come to know a peer. -/
theorem traced_of_start (h : s.Sound) {reads : List (RouterClient.Received Buf)} (hs : s.step (.start reads) = some t)
    (htrace : ¬Traceless (.start reads : Lifecycle.Event S Buf)) : t.Traced := by
  obtain ⟨hphase, life, st, hcall, rfl⟩ := step_inv hs
  have hstate := h.committed hphase
  cases Lifecycle.called_of_call h.consistent hcall with
  | refused _ he => cases he
  | failed _ _ hst hno extra hextra =>
    have hlists : StartLoop.peers.lists reads = false := by simpa using fun hyes => hno ⟨hstate, hyes⟩
    have hleading : StartLoop.peers.leading reads ≠ [] := fun hnil => htrace ⟨hlists, hnil⟩
    exact Or.inl (List.append_ne_nil_of_right_ne_nil _ (hextra hstate ▸ hleading))
  | restarted _ _ hst hyes hjoinable => exact absurd hjoinable (h.not_joinable (by simp [hphase]))
  | started _ _ hst => exact Or.inr (Or.inr (by simp [hst]))

/-! ### Every session -/

/-- What holds after the calls so far. -/
structure After (calls : List (Lifecycle.Event S Buf)) (s : Sessions S Buf) : Prop where
  sound : s.Sound
  quiet : (∀ e ∈ calls, Traceless e) → s.Quiet
  traced : ¬(∀ e ∈ calls, Traceless e) → s.Traced

theorem After.new : After [] ({} : Sessions S Buf) where
  sound := {
    consistent := RouterClient.Consistent.new
    running := rfl
    held := nofun
    free := fun _ => ⟨rfl, rfl⟩
    returned := nofun
    committed := nofun
    registered := fun _ _ => ⟨rfl, nofun, nofun⟩ }
  quiet _ := ⟨⟨_, _, _, _, rfl⟩, rfl⟩
  traced h := absurd (by simp) h

theorem After.step {calls : List (Lifecycle.Event S Buf)} (h : After calls s) (hs : s.step e = some t) :
    After (calls ++ [e]) t where
  sound := h.sound.step hs
  quiet hall := by
    simp only [List.mem_append, List.mem_singleton, or_imp, forall_and, forall_eq] at hall
    exact (h.quiet hall.1).step h.sound hall.2 hs
  traced hall := by
    simp only [List.mem_append, List.mem_singleton, or_imp, forall_and, forall_eq, not_and_or] at hall
    rcases hall with hold | he
    · exact (h.traced hold).step h.sound hs
    · cases e with
      | start reads => exact traced_of_start h.sound hs he
      | _ => exact absurd trivial he

/-- A session that starts finds the bridge as it should, exactly when no `start` before it went well or came to know a
    peer. -/
theorem isolated_iff {es : List (Lifecycle.Event S Buf)} {reads : List (RouterClient.Received Buf)}
    (hr : run step {} (es ++ [.start reads]) = some t) (hserving : t.phase = .serving) :
    t.Isolated reads ↔ ∀ e ∈ es, Traceless e := by
  obtain ⟨s, hs, hstart⟩ := run_snoc.mp hr
  have hafter : After ([] ++ es) s := run_events (fun _ _ _ _ h hstep => h.step hstep) After.new hs
  rw [List.nil_append] at hafter
  have hsound := hafter.sound
  have hc := hsound.consistent
  obtain ⟨hphase, life, st, hcall, rfl⟩ := step_inv hstart
  have hphase : s.phase = .committed := hphase
  have hok : st.isError = false := by
    cases hst : st.isError with
    | true => simp [hst] at hserving
    | false => rfl
  have hreg := hsound.registered (by simp [hphase]) (by simp [hphase])
  cases Lifecycle.called_of_call hc hcall with
  | refused _ he => cases he
  | failed _ _ herr => simp [hok] at herr
  | restarted _ _ _ _ hjoinable => exact absurd hjoinable (hsound.not_joinable (by simp [hphase]))
  | started =>
    constructor
    · intro hisolated
      by_contra hno
      rcases hafter.traced hno with hpeers | hdone | hserving
      · exact hpeers (by simpa [Bridge.enumeratePeers] using hisolated.peers)
      · exact absurd hisolated.done (by simp [hdone])
      · rw [hphase] at hserving
        cases hserving
    · intro hall
      have hquiet := hafter.quiet hall
      obtain ⟨client, routerInfo, slaveMap, masterMap, hlife⟩ := hquiet.life
      have hfresh := hquiet.calls_step hsound (by simp) hcall
      exact {
        peers := by simp [Bridge.enumeratePeers, hlife]
        ips := by simp [Bridge.enumerateIp, hlife]
        slaves := by simpa [Session.record, hok] using hreg.slaves
        masters := by simpa [Session.record, hok] using hreg.masters
        done := by simp [hlife]
        items := by simp [hlife]
        fresh := hfresh }

open Lifecycle (opening closing)

/-- A session that fails on its commit, and closes. -/
def rejected : List (Lifecycle.Event Ram Wire.Message) :=
  [.connect "unix:///tmp/sw-axi"
      { write := .ok (), read := .ok (RouterClient.systemInfoMessage { name := "router" }), socket := .ok 3,
        connect := fun _ => .ok () },
    .commitIp { write := .ok (), read := .error "Connection reset by peer" }, .disconnect]

/-- Two sessions, of which the first one does not get as far as `start`. -/
theorem isolated_rejected : ∃ t, run step {} (rejected ++ opening) = some t ∧ t.Isolated Lifecycle.told := by
  have hrun : ∃ t, run step {} (rejected ++ opening) = some t ∧ t.phase = .serving := ⟨_, rfl, rfl⟩
  obtain ⟨t, ht, hserving⟩ := hrun
  have hstart : run step {} (rejected ++ opening.dropLast ++ [.start Lifecycle.told]) = some t := ht
  have hall : ∀ e ∈ rejected ++ opening.dropLast, Traceless e := by simp [rejected, opening, Traceless]
  exact ⟨t, ht, (isolated_iff hstart hserving).mpr hall⟩

/-- Two sessions, of which the second one has the peer of the first in its list, and a queue that is done. -/
theorem session_leaks : ∃ t, run step {} (opening ++ closing ++ [.disconnect] ++ opening) = some t ∧
    t.phase = .serving ∧ t.life.bridge.enumeratePeers = .ok [{ name := "uut" }, { name := "uut" }] ∧
    t.life.bridge.queue.done = true ∧ ¬t.Isolated Lifecycle.told := by
  refine ⟨_, rfl, rfl, rfl, rfl, fun h => ?_⟩
  cases h.done

end Sessions

end

end SwAxi
