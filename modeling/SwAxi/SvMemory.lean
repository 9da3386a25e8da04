import SwAxi.Client
import SwAxi.SvBridge

/-! The objects that the simulator's bridge has the library allocate (`src/sim/bridge.cc`, `src/sim/bridge.sv`). Over
all calls of a test bench, whatever the socket calls under them give, no object is used that is not there, and every
one is deleted but for the client, the clients of bridges that connect again, and the blocks of unknown type. -/

namespace SwAxi
open Wire (Flatbuffers)
open Transition

namespace Sv

variable {S Buf : Type}

/-- The call goes to the client of the bridge. -/
def Event.NeedsClient : Event S Buf → Prop
  | .connect _ _ | .start => False
  | .registerSlave _ _ _ | .commitIp _ | .turn _ | .disconnect => True

namespace Session

/-- The test bench with a new bridge. -/
def new (name : SvString) : Session S where
  bridge := { name }

/-- The client of the bridge, with its handle. -/
def client? (s : Session S) : Option (Nat × RouterClient) :=
  s.bridge.client.bind fun n => ((s.heap.cells n).bind Object.client?).map fun c => (n, c)

/-- The objects that no variable leads to any more once the call has returned: the client that another one takes the
    place of, and the block of unknown type. -/
def abandoned [Flatbuffers Buf] (s : Session S) : Event S Buf → List (Nat × Object)
  | .connect _ _ => s.client?.toList.map fun r => (r.1, .client r.2)
  | .turn read =>
    if s.starting = some .ips then
      (s.client?.bind fun r => Dpi.strayIpConfig r.2 read).toList.map fun ipc => (s.heap.next, .ipConfig ipc)
    else []
  | _ => []

/-- There are the objects of the list, the client of the bridge if it has one, and no others. -/
inductive Owns (s : Session S) (left : List (Nat × Object)) : Option RouterClient → Prop
  | nothing (client : s.bridge.client = none) (holds : s.heap.Holds left) : Owns s left none
  | client {n : Nat} {c : RouterClient} (client : s.bridge.client = some n)
      (holds : s.heap.Holds ((n, .client c) :: left)) : Owns s left (some c)

variable {s t : Session S} {left : List (Nat × Object)} {c : Option RouterClient} {n : Nat}

theorem Owns.client_eq_none (ho : s.Owns left c) : c = none ↔ s.bridge.client = none := by
  cases ho with
  | nothing hclient _ => simp [hclient]
  | client hclient _ => simp [hclient]

theorem client?_of_holds {c : RouterClient} (hclient : s.bridge.client = some n)
    (hh : s.heap.Holds ((n, .client c) :: left)) : s.client? = some (n, c) := by
  simp [client?, hclient, hh.get List.mem_cons_self, Object.client?]

theorem Owns.holds (ho : s.Owns left c) : s.heap.Holds (s.client?.toList.map (fun r => (r.1, .client r.2)) ++ left) := by
  cases ho with
  | nothing hclient hh => simpa [client?, hclient] using hh
  | client hclient hh => simpa [client?_of_holds hclient hh] using hh

/-- A call that needs the client terminates the process if there is none. Otherwise it crashes, or returns. -/
theorem Owns.call {α : Type} {f : Dpi α} {k : α → Heap Object → Session S} {m : List (Nat × Object)} {P : Prop}
    (ho : s.Owns left c) (hP : P) (hnull : s.bridge.client = none → ∃ text, f s.heap = .error (.terminate text))
    (hcall : ∀ n c, s.bridge.client = some n → s.heap.Holds ((n, .client c) :: left) → f s.heap = .error .crash ∨
      ∃ a l, f.Returns s.heap a l ∧ ∀ heap, heap.Holds l → (k a heap).ended = none ∧ ∃ c', (k a heap).Owns m c') :
    (P ∧ c = none ∧ ∃ text, (s.call f k).ended = some (.terminate text)) ∨
    (¬(P ∧ c = none) ∧ ((s.call f k).ended = some .crash ∨
      (s.call f k).ended = none ∧ ∃ c', (s.call f k).Owns m c')) := by
  cases ho with
  | nothing hclient hh =>
    obtain ⟨text, hnull⟩ := hnull hclient
    exact Or.inl ⟨hP, rfl, text, by rw [call_of_error hnull]⟩
  | client hclient hh =>
    refine Or.inr ⟨by simp, ?_⟩
    rcases hcall _ _ hclient hh with hcrash | ⟨a, l, hreturns, hk⟩
    · exact Or.inl (by rw [call_of_error hcrash])
    · obtain ⟨heap, heq, hh'⟩ := call_of_returns (k := k) hreturns
      rw [heq]
      exact Or.inr (hk heap hh')

variable [Flatbuffers Buf] {e : Event S Buf}

/-- What a call does: without the client that it needs, it terminates the process; on a message that lacks a part or is
    declared too large, the process crashes; and otherwise the objects that it abandons are the only ones to stay. -/
theorem Owns.step (ho : s.Owns left c) (hs : s.step e = some t) :
    (e.NeedsClient ∧ c = none ∧ ∃ text, t.ended = some (.terminate text)) ∨
    (¬(e.NeedsClient ∧ c = none) ∧
      (t.ended = some .crash ∨ t.ended = none ∧ ∃ c', t.Owns (left ++ s.abandoned e) c')) := by
  cases e with
  | connect uri x =>
    obtain ⟨hended, hstarting, rfl⟩ := step_connect.mp hs
    refine Or.inr ⟨fun h => h.1, ?_⟩
    cases hc : ({} : RouterClient).connect uri.val x with
    | none => exact Or.inl (by rw [call_of_error (Bridge.connect_crash ho.holds hc)])
    | some r =>
      obtain ⟨c', si, st⟩ := r
      obtain ⟨heap, heq, hh⟩ := call_of_returns (k := s.return_) (Bridge.connect_returns (b := s.bridge) ho.holds hc)
      rw [heq]
      refine Or.inr ⟨hended, some c', .client rfl (hh.perm ?_)⟩
      exact List.Perm.cons _ List.perm_append_comm
  | registerSlave slave cfg x =>
    obtain ⟨hended, hstarting, rfl⟩ := step_registerSlave.mp hs
    rw [show s.abandoned (.registerSlave slave cfg x) = [] from rfl, List.append_nil]
    refine ho.call trivial (Bridge.registerSlave_null slave cfg x) fun n c hclient hh => ?_
    cases hc : c.registerIp cfg.toNative x with
    | none => exact Or.inl (Bridge.registerSlave_crash hclient hh hc)
    | some r =>
      obtain ⟨c', id, st⟩ := r
      refine Or.inr ⟨_, _, Bridge.registerSlave_returns slave hclient hh hc, fun heap hh' => ⟨hended, some c', ?_⟩⟩
      refine .client (n := n) ?_ hh'
      cases st.isError <;> exact hclient
  | commitIp x =>
    obtain ⟨hended, hstarting, rfl⟩ := step_commitIp.mp hs
    rw [show s.abandoned (.commitIp x) = [] from rfl, List.append_nil]
    refine ho.call trivial (Bridge.commitIp_null x) fun n c hclient hh => ?_
    cases hc : c.commitIp x with
    | none => exact Or.inl (Bridge.commitIp_crash hclient hh hc)
    | some r =>
      obtain ⟨c', _, st⟩ := r
      exact Or.inr ⟨_, _, Bridge.commitIp_returns hclient hh hc, fun heap hh' => ⟨hended, some c', .client hclient hh'⟩⟩
  | start =>
    obtain ⟨hended, hstarting, rfl⟩ := step_start.mp hs
    refine Or.inr ⟨fun h => h.1, Or.inr ⟨hended, c, ?_⟩⟩
    rw [show s.abandoned (Event.start : Event S Buf) = [] from rfl, List.append_nil]
    cases ho with
    | nothing hclient hh => exact .nothing hclient hh
    | client hclient hh => exact .client hclient hh
  | turn read =>
    obtain ⟨hended, loop, hstarting, rfl⟩ := step_turn.mp hs
    refine ho.call trivial (Bridge.startTurn_null loop read) fun n c hclient hh => ?_
    cases loop with
    | peers =>
      cases hc : c.retrievePeerInfo read with
      | none => exact Or.inl (Bridge.peersTurn_crash hclient hh hc)
      | some r =>
        obtain ⟨c', si, st⟩ := r
        refine Or.inr ⟨_, _, Bridge.peersTurn_returns hclient hh hc, fun heap hh' => ⟨by simpa using hended, some c', ?_⟩⟩
        refine .client (n := n) (by simpa using hclient) ?_
        simpa [abandoned, hstarting] using hh'
    | ips =>
      cases hc : c.retrieveIpConfig read with
      | none => exact Or.inl (Bridge.ipsTurn_crash hclient hh hc)
      | some r =>
        obtain ⟨c', ipc, st⟩ := r
        refine Or.inr ⟨_, _, Bridge.ipsTurn_returns hclient hh hc, fun heap hh' => ⟨by simpa using hended, some c', ?_⟩⟩
        refine .client (n := n) (by simpa using hclient) ?_
        have hleft : s.abandoned (.turn read) =
            (Dpi.strayIpConfig c read).toList.map fun ipc => (s.heap.next, .ipConfig ipc) := by
          simp [abandoned, hstarting, client?_of_holds hclient hh]
        rw [hleft, turned_heap]
        exact hh'.perm List.perm_append_comm
  | disconnect =>
    obtain ⟨hended, hstarting, rfl⟩ := step_disconnect.mp hs
    rw [show s.abandoned (Event.disconnect : Event S Buf) = [] from rfl, List.append_nil]
    refine ho.call trivial Bridge.disconnect_null fun n c hclient hh => ?_
    exact Or.inr ⟨_, _, Bridge.disconnect_returns hclient hh, fun heap hh' => ⟨hended, none, .nothing rfl hh'⟩⟩

theorem Owns.new (name : SvString) : (new (S := S) name).Owns [] none := .nothing rfl .empty

/-- In every run, no object is used that is not there, what there is are the client and the objects abandoned so far,
    and the calls that terminate the process are those that need a client where there is none. -/
theorem memory_safe {name : SvString} {es : List (Event S Buf)} (hr : run step (new name) es = some s) :
    s.ended ≠ some .invalid ∧
    (s.ended = none → ∃ c, s.Owns (outputs step abandoned (new name) es) c) ∧
    ∀ (e : Event S Buf) t, s.step e = some t →
      ((∃ text, t.ended = some (.terminate text)) ↔ e.NeedsClient ∧ s.bridge.client = none) := by
  have hrun : s.ended ≠ some .invalid ∧
      (s.ended = none → ∃ c, s.Owns ([] ++ outputs step abandoned (new name) es) c) := by
    refine run_output (I := fun left (s : Session S) =>
      s.ended ≠ some .invalid ∧ (s.ended = none → ∃ c, s.Owns left c)) abandoned ?_
      ⟨by simp [new], fun _ => ⟨none, .new name⟩⟩ hr
    rintro left s e t ⟨-, howns⟩ hs
    obtain ⟨c, ho⟩ := howns (ended_of_step hs)
    rcases ho.step hs with ⟨-, -, text, hended⟩ | ⟨-, hcrash | ⟨hgoes, hafter⟩⟩
    · simp [hended]
    · simp [hcrash]
    · exact ⟨by simp [hgoes], fun _ => hafter⟩
  rw [List.nil_append] at hrun
  refine ⟨hrun.1, hrun.2, fun e t hs => ?_⟩
  obtain ⟨c, ho⟩ := hrun.2 (ended_of_step hs)
  rw [← ho.client_eq_none]
  rcases ho.step hs with ⟨hneeds, hnone, hended⟩ | ⟨hneeds, hcrash | ⟨hgoes, -⟩⟩
  · exact ⟨fun _ => ⟨hneeds, hnone⟩, fun _ => hended⟩
  · exact ⟨by simp [hcrash], fun h => absurd h hneeds⟩
  · exact ⟨by simp [hgoes], fun h => absurd h hneeds⟩

/-- A router that answers `connect`. -/
def reachable : RouterClient.ConnectCalls Wire.Message where
  write := .ok ()
  read := .ok (RouterClient.systemInfoMessage { name := "router" })
  socket := .ok 3
  connect _ := .ok ()

/-- A second `connect`, and a block of a type that the library does not know. -/
def wasteful : List (Event Unit Wire.Message) :=
  [.connect (svString "unix:///tmp/sw-axi") reachable, .connect (svString "unix:///tmp/sw-axi") reachable,
    .commitIp { write := .ok (), read := .ok Client.ackMessage }, .start, .turn (.ok Client.ackMessage),
    .turn (.ok { type := some .ipInfo, ipInfo := some { name := some "uart", type := some (.other 9) } }), .disconnect]

/-- The first client and the block are left. -/
theorem memory_safe_wasteful : ∃ s, run step (new (svString "bench")) wasteful = some s ∧ s.ended = none ∧
    (outputs step abandoned (new (svString "bench")) wasteful).map Prod.fst = [0, 8] ∧
    ∃ c, s.Owns (outputs step abandoned (new (svString "bench")) wasteful) c := by
  have hrun : ∃ s, run step (new (svString "bench")) wasteful = some s ∧ s.ended = none ∧
      (outputs step abandoned (new (svString "bench")) wasteful).map Prod.fst = [0, 8] := ⟨_, rfl, rfl, rfl⟩
  obtain ⟨s, hr, hended, hleft⟩ := hrun
  exact ⟨s, hr, hended, hleft, (memory_safe hr).2.1 hended⟩

end Session

end Sv

end SwAxi
