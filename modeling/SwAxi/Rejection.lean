import SwAxi.Agreement
import SwAxi.Operations

/-! Registrations that the router rejects. The router answers with an `ERROR` and goes on waiting for the client's
    next message, while the client gives up its connection. Here the users go on after an error of a call, and
    `Run` notices a connection that its client has closed. -/

namespace SwAxi
open Wire (Flatbuffers)
open Wire.Flatbuffers (getRoot)
open Transition

/-! ### Rejected clients -/

namespace Party
variable {S Buf : Type} [Flatbuffers Buf] {p p' : Party S Buf} {r : RouterRun Buf} {i : Nat} {up down out : List Buf} {msgArr : Buf}

/-- A connected client has a socket; one that is yet to connect, or whose call has failed, has no connection. -/
structure Tidy (p : Party S Buf) : Prop where
  opened : p.bridge.client.state ≠ .disconnected → p.bridge.client.sock ≠ -1
  idle : p.calling = .connect false ∨ p.calling = .failed → p.bridge.client.state = .disconnected

omit [Flatbuffers Buf] in
theorem Tidy.of_bridge {calling : Calling S} (h : p.Tidy)
    (hcalling : calling = .connect false ∨ calling = .failed → p.bridge.client.state = .disconnected) :
    Tidy { p with calling } := ⟨h.opened, hcalling⟩

theorem Phase.tidy_call (h : Phase r i p up down) (ht : p.Tidy) (hc : p.call = some (p', out)) : p'.Tidy := by
  obtain ⟨-, -, -, ⟨calling, -⟩ | ⟨rest, calling, state, -⟩⟩ := h.calls hc
  · obtain ⟨calling', rfl, -⟩ := call_inv hc
    exact ht.of_bridge fun _ => ht.idle (Or.inl calling)
  · cases rest with
    | nil =>
      simp only [Party.call, calling, nextCall, state, decide_true, calls_true, Option.some.injEq] at hc
      cases hc
      exact ht.of_bridge (by simp)
    | cons reg rest =>
      simp only [Party.call, calling, nextCall, state, decide_true, calls_true, Option.some.injEq] at hc
      cases hc
      exact ht.of_bridge (by simp)

theorem Stream.tidy_reply {infos : List SystemInfo} {ips : List IpInfo} (h : Stream infos ips p (msgArr :: down)) (ht : p.Tidy)
    (hr : p.reply msgArr = some p') :
    p'.Tidy ∧ (getRoot msgArr).getType ≠ .error ∧ p'.bridge.client.sock = p.bridge.client.sock := by
  obtain ⟨_, _, _, _, _, _, _, _, rfl, -, herr, hstate, -, hcalling⟩ := h.reply_inv hr
  refine ⟨⟨fun _ => ht.opened hstate, ?_⟩, herr, rfl⟩
  rcases hcalling with ⟨loop, rfl⟩ | ⟨rfl, -⟩ <;> simp

/-- A reply is an `ERROR` only where the router has rejected a registration of the client, and then the client has
    closed its socket, while the router waits for its next message. Otherwise the socket stays as it is, or is
    opened. -/
theorem Phase.tidy_reply (h : Phase r i p up (msgArr :: down)) (ht : p.Tidy) (hr : p.reply msgArr = some p') :
    p'.Tidy ∧ if (getRoot msgArr).getType = .error then
      r.stage = .register i ∧ up = [] ∧ down = [] ∧ p.bridge.client.sock ≠ -1 ∧ p'.bridge.client = {} ∧ p'.calling = .failed
    else p.bridge.client.sock ≠ -1 → p'.bridge.client.sock ≠ -1 := by
  cases h.takes hr with
  | greeted calling blank stage hup hdown =>
    have hsock : (p.sock : Int) ≠ -1 := by omega
    refine ⟨⟨fun _ => hsock, ?_⟩, ?_⟩
    · cases hregs : p.regs <;> simp [nextCall]
    · rw [if_neg (by simp [getType_systemInfoMessage])]
      exact fun _ => hsock
  | acked reg rest id b calling state blank stage hup hdown stored hreg hkept =>
    have hsock : b.client.sock ≠ -1 := by
      rw [hkept.1]
      exact ht.opened (by simp [state])
    refine ⟨⟨fun _ => hsock, ?_⟩, ?_⟩
    · cases rest <;> simp [nextCall]
    · rw [if_neg (by simp [getType_ackIpInfoMessage])]
      exact fun _ => hsock
  | refused reg rest err calling state stage hup hdown =>
    have hsock : p.bridge.client.sock ≠ -1 := ht.opened (by simp [state])
    have hnew : p.bridge.client.disconnect = {} := RouterClient.disconnect_of_open hsock
    refine ⟨⟨?_, ?_⟩, ?_⟩
    · simp [hnew]
    · simp [hnew]
    · rw [if_pos (getType_createErrorMessage err)]
      exact ⟨stage, hup, hdown, hsock, hnew, rfl⟩
  | streams msgArr p' stage hup stream hr =>
    obtain ⟨htidy, hne, hsock⟩ := stream.tidy_reply ht hr
    rw [if_neg hne, hsock]
    exact ⟨htidy, id⟩

/-- While `Run` registers one client, another one has nothing to read, or has given up. -/
theorem Phase.quiet {j : Nat} (h : Phase r i p up down) (hstage : r.stage = .register j) (hne : i ≠ j) (ht : p.Tidy) :
    (p.calling = .failed ∧ p.bridge.client.state ≠ .connected) ∨ down = [] := by
  have hother : r.stage ≠ .register i := by
    rw [hstage]
    intro heq
    cases heq
    exact hne rfl
  cases h with
  | connects calling blank stage hup hdown => exact Or.inr hdown
  | greets calling state uri blank stage hup hdown => exact Or.inr hdown
  | committed calling state blank stage hup hdown => exact Or.inr hdown
  | unanswered reg rest calling stage hup hdown => exact Or.inr hdown
  | failed calling hup =>
    refine Or.inl ⟨calling, ?_⟩
    rw [ht.idle (Or.inr calling)]
    simp
  | streams stage hup stream => simp [hstage, Stage.Committing] at stage
  | greeted calling state uri blank stage hup hdown => exact absurd stage hother
  | idle rest calling state blank stage hup hdown => exact absurd stage hother
  | registers reg rest calling state blank stage hup hdown => exact absurd stage hother
  | acked reg rest id calling state blank stage hup hdown stored => exact absurd stage hother
  | refused reg rest err calling state stage hup hdown => exact absurd stage hother
  | commits calling state blank stage hup hdown => exact absurd stage hother

end Party

/-! ### The system -/

/-- A handshake with the sockets that the clients have closed. -/
structure Hangup (S Buf : Type) extends Handshake S Buf where
  closed : Nat → Bool := fun _ => false

namespace Hangup

section
variable {S Buf : Type} [Flatbuffers Buf] (x : Hangup S Buf)

/-- A step of the handshake; `disconnect` of a client closes its socket. -/
def handshake (e : Handshake.Event) : Option (Hangup S Buf) :=
  (x.toHandshake.step e).map fun h =>
    { h with closed := fun i => x.closed i ||
        decide ((x.parties i).bridge.client.sock ≠ -1 ∧ (h.parties i).bridge.client.sock = -1) }

/-- The user of client `i` goes on after a call that returned an error: it registers a block, or commits. -/
def resume (i : Nat) (calling : Calling S) : Option (Hangup S Buf) :=
  match (x.parties i).calling, calling with
  | .failed, .register _ _ false | .failed, .commitIp false =>
    (Party.call { x.parties i with calling }).map fun (party, out) =>
      { x with
        parties := Function.update x.parties i party
        toRouter := Function.update x.toRouter i (x.toRouter i ++ out) }
  | _, _ => none

/-- `Run` gets to the end of a connection that the client has closed, and returns with an error. -/
def endOfFile : Option (Hangup S Buf) :=
  x.reading.bind fun i =>
    if x.toRouter i = [] ∧ x.closed i = true then some { x with router := { x.router with stage := .failed } } else none

inductive Event (S : Type) where
  | handshake (e : Handshake.Event)
  | resume (i : Nat) (calling : Calling S)
  | endOfFile

def step : Event S → Option (Hangup S Buf)
  | .handshake e => x.handshake e
  | .resume i calling => if i < x.router.router.clients.length then x.resume i calling else none
  | .endOfFile => x.endOfFile

/-- Client `i` is about to take the router's `ERROR`. -/
def Rejected (i : Nat) : Prop :=
  i < x.router.router.clients.length ∧ ∃ msgArr rest, x.toClient i = msgArr :: rest ∧ (getRoot msgArr).getType = .error

/-- After the step, a client that took a rejection is connected exactly if `Run` waits for its next message, and the
    handshake can still be completed with all clients. -/
def InStep (e : Event S) : Prop :=
  ∀ i, e = .handshake (.partyReads i) → x.Rejected i → ∀ t, x.step e = some t →
    ((t.parties i).bridge.client.state = .connected ↔ t.router.stage = .register i) ∧
      ∃ es u, run step t es = some u ∧ u.router.stage = .serve

end

section
variable {S Buf : Type} [Flatbuffers Buf] {x t : Hangup S Buf} {infos : List SystemInfo} {i : Nat}

/-! ### Before a rejection -/

/-- No client has closed its socket yet, and all are in step with the router. -/
structure Going (infos : List SystemInfo) (x : Hangup S Buf) : Prop where
  inv : x.toHandshake.Inv infos
  tidy : ∀ i < x.router.router.clients.length, (x.parties i).Tidy
  opened : ∀ i, x.closed i = false

/-- Client `i` has closed its socket, `Run` reads from it or has failed, and no client has anything to read. -/
structure Stuck (i : Nat) (x : Hangup S Buf) : Prop where
  client : i < x.router.router.clients.length
  stage : x.router.stage = .register i ∨ x.router.stage = .failed
  up : x.toRouter i = []
  closed : x.closed i = true
  disconnected : (x.parties i).bridge.client.state = .disconnected
  calling : (x.parties i).calling = .failed
  quiet : ∀ j < x.router.router.clients.length,
    ((x.parties j).calling = .failed ∧ (x.parties j).bridge.client.state ≠ .connected) ∨ x.toClient j = []

omit [Flatbuffers Buf] in
theorem closed_eq_false {h : Handshake S Buf} (hx : ∀ i, x.closed i = false)
    (hsock : ∀ i, (x.parties i).bridge.client.sock ≠ -1 → (h.parties i).bridge.client.sock ≠ -1) (i : Nat) :
    (x.closed i || decide ((x.parties i).bridge.client.sock ≠ -1 ∧ (h.parties i).bridge.client.sock = -1)) = false := by
  rw [hx i, Bool.false_or, decide_eq_false_iff_not]
  rintro ⟨hopen, hclosed⟩
  exact hsock i hopen hclosed

/-- Another call of a client without a connection returns an error again, and sends nothing. -/
theorem resume_same {calling : Calling S} (hstate : (x.parties i).bridge.client.state ≠ .connected)
    (hs : x.resume i calling = some t) : t = x := by
  have hsame : (x.parties i).calling = .failed →
      { x with
        parties := Function.update x.parties i { x.parties i with calling := .failed }
        toRouter := Function.update x.toRouter i (x.toRouter i ++ []) } = x := by
    intro hfailed
    have hparty : ({ x.parties i with calling := .failed } : Party S Buf) = x.parties i := by
      rw [← hfailed]
    rw [hparty, List.append_nil, Function.update_eq_self, Function.update_eq_self]
  unfold resume at hs
  split at hs
  · rename_i hfailed
    simp only [Party.call, hstate, decide_false, Party.calls_false, Option.map_some, Option.some.injEq] at hs
    exact hs.symm.trans (hsame hfailed)
  · rename_i hfailed
    simp only [Party.call, hstate, decide_false, Party.calls_false, Option.map_some, Option.some.injEq] at hs
    exact hs.symm.trans (hsame hfailed)
  · cases hs

theorem Going.resume {calling : Calling S} (hx : x.Going infos) (hi : i < x.router.router.clients.length)
    (hs : x.resume i calling = some t) : t = x := by
  have hfailed : (x.parties i).calling = .failed := by
    unfold Hangup.resume at hs
    split at hs
    · assumption
    · assumption
    · cases hs
  refine resume_same ?_ hs
  rw [(hx.tidy i hi).idle (Or.inr hfailed)]
  simp

/-- A client that the router has not rejected stays in step. -/
theorem Going.handshake {e : Handshake.Event} (hx : x.Going infos) (hs : x.handshake e = some t)
    (hno : ∀ i, e = .partyReads i → ¬ x.Rejected i) : t.Going infos := by
  obtain ⟨h, hstep, rfl⟩ := Option.map_eq_some_iff.mp hs
  have hinv := hx.inv.step hstep
  cases e with
  | routerReceives =>
    obtain ⟨j, -, hreceive⟩ := Option.bind_eq_some_iff.mp hstep
    split at hreceive
    · cases hreceive
    · obtain ⟨⟨r', replies⟩, hr, rfl⟩ := Option.map_eq_some_iff.mp hreceive
      have hlen : r'.router.clients.length = x.router.router.clients.length :=
        hinv.length.symm.trans hx.inv.length
      exact ⟨hinv, fun i hi => hx.tidy i (hlen ▸ hi), closed_eq_false hx.opened fun _ hsock => hsock⟩
  | routerWrites =>
    obtain ⟨⟨r', j, msgArr⟩, hw, rfl⟩ := Option.map_eq_some_iff.mp hstep
    have hlen : r'.router.clients.length = x.router.router.clients.length :=
      hinv.length.symm.trans hx.inv.length
    exact ⟨hinv, fun i hi => hx.tidy i (hlen ▸ hi), closed_eq_false hx.opened fun _ hsock => hsock⟩
  | partyCalls j =>
    simp only [Handshake.step] at hstep
    split at hstep
    · rename_i hj
      obtain ⟨⟨p, out⟩, hc, rfl⟩ := Option.map_eq_some_iff.mp hstep
      have htidy := (hx.inv.phases j hj).tidy_call (hx.tidy j hj) hc
      have hbridge : p.bridge = (x.parties j).bridge := by
        obtain ⟨_, rfl, -⟩ := Party.call_inv hc
        rfl
      refine ⟨hinv, fun i hi => ?_, closed_eq_false hx.opened fun i hsock => ?_⟩
      · by_cases hij : i = j
        · subst hij
          simpa using htidy
        · simpa [hij] using hx.tidy i hi
      · by_cases hij : i = j
        · subst hij
          simpa [hbridge] using hsock
        · simpa [hij] using hsock
    · cases hstep
  | partyReads j =>
    simp only [Handshake.step] at hstep
    split at hstep
    · rename_i hj
      unfold Handshake.partyReads at hstep
      split at hstep
      · cases hstep
      · rename_i msgArr rest hdown
        obtain ⟨p, hr, rfl⟩ := Option.map_eq_some_iff.mp hstep
        have hphase := hx.inv.phases j hj
        rw [hdown] at hphase
        obtain ⟨htidy, hcase⟩ := hphase.tidy_reply (hx.tidy j hj) hr
        rw [if_neg fun herror => hno j rfl ⟨hj, msgArr, rest, hdown, herror⟩] at hcase
        refine ⟨hinv, fun i hi => ?_, closed_eq_false hx.opened fun i hsock => ?_⟩
        · by_cases hij : i = j
          · subst hij
            simpa using htidy
          · simpa [hij] using hx.tidy i hi
        · by_cases hij : i = j
          · subst hij
            simpa using hcase hsock
          · simpa [hij] using hsock
    · cases hstep

/-- A rejected client leaves `Run` waiting for it. -/
theorem Going.rejected (hx : x.Going infos) (hrejected : x.Rejected i) (hs : x.handshake (.partyReads i) = some t) :
    t.Stuck i ∧ t.router.stage = .register i := by
  obtain ⟨hi, msgArr, rest, hdown, herror⟩ := hrejected
  obtain ⟨h, hstep, rfl⟩ := Option.map_eq_some_iff.mp hs
  simp only [Handshake.step, if_pos hi, Handshake.partyReads, hdown] at hstep
  obtain ⟨p, hr, rfl⟩ := Option.map_eq_some_iff.mp hstep
  have hphase := hx.inv.phases i hi
  rw [hdown] at hphase
  obtain ⟨htidy, hcase⟩ := hphase.tidy_reply (hx.tidy i hi) hr
  rw [if_pos herror] at hcase
  obtain ⟨hstage, hup, -, hsock, hnew, hfailed⟩ := hcase
  refine ⟨⟨hi, Or.inl hstage, hup, ?_, ?_, ?_, ?_⟩, hstage⟩
  · simp [hnew, hsock]
  · simp [hnew]
  · simp [hfailed]
  · intro j hj
    by_cases hji : j = i
    · subst hji
      simp [hfailed, hnew]
    · have hj := (hx.inv.phases j hj).quiet hstage hji (hx.tidy j hj)
      simpa [hji] using hj

/-! ### After a rejection -/

omit [Flatbuffers Buf] in
theorem Stuck.reading (hx : x.Stuck i) : x.reading = some i ∨ x.reading = none := by
  rcases hx.stage with hstage | hstage
  · exact Or.inl (by rw [Handshake.reading, hstage])
  · exact Or.inr (by rw [Handshake.reading, hstage])

theorem Stuck.not_rejected (hx : x.Stuck i) {j : Nat} : x.handshake (.partyReads j) = none := by
  rw [handshake, Option.map_eq_none_iff, Handshake.step]
  split
  · rename_i hj
    unfold Handshake.partyReads
    rcases hx.quiet j hj with ⟨hfailed, -⟩ | hdown
    · split
      · rfl
      · rw [Option.map_eq_none_iff, Party.reply, hfailed]
    · rw [hdown]
  · rfl

omit [Flatbuffers Buf] in
theorem Stuck.party (hx : x.Stuck i) {j : Nat} (hji : j ≠ i) (p : Party S Buf) (up : List Buf) (hquiet : x.toClient j = [])
    {closed : Nat → Bool} (hclosed : closed i = true) :
    Stuck i { x with
      parties := Function.update x.parties j p
      toRouter := Function.update x.toRouter j up
      closed } where
  client := hx.client
  stage := hx.stage
  up := by simpa [Ne.symm hji] using hx.up
  closed := hclosed
  disconnected := by simpa [Ne.symm hji] using hx.disconnected
  calling := by simpa [Ne.symm hji] using hx.calling
  quiet k hk := by
    by_cases hkj : k = j
    · subst hkj
      exact Or.inr hquiet
    · simpa [hkj] using hx.quiet k hk

theorem Stuck.resume {j : Nat} {calling : Calling S} (hx : x.Stuck i) (hj : j < x.router.router.clients.length)
    (hs : x.resume j calling = some t) : t.Stuck i := by
  by_cases hstate : (x.parties j).bridge.client.state = .connected
  · have hji : j ≠ i := by
      rintro rfl
      rw [hx.disconnected] at hstate
      cases hstate
    have hquiet : x.toClient j = [] := (hx.quiet j hj).resolve_left fun h => h.2 hstate
    unfold Hangup.resume at hs
    split at hs
    · obtain ⟨⟨p, out⟩, -, rfl⟩ := Option.map_eq_some_iff.mp hs
      exact hx.party hji p _ hquiet hx.closed
    · obtain ⟨⟨p, out⟩, -, rfl⟩ := Option.map_eq_some_iff.mp hs
      exact hx.party hji p _ hquiet hx.closed
    · cases hs
  · rw [resume_same hstate hs]
    exact hx

/-- Only calls of other clients are possible, and the end of `Run`. -/
theorem Stuck.step {e : Event S} (hx : x.Stuck i) (hs : x.step e = some t) : t.Stuck i := by
  cases e with
  | handshake e =>
    cases e with
    | routerReceives =>
      obtain ⟨h, hstep, rfl⟩ := Option.map_eq_some_iff.mp hs
      obtain ⟨j, hreading, hreceive⟩ := Option.bind_eq_some_iff.mp hstep
      rcases hx.reading with hi | hnone
      · obtain rfl := Option.some.inj (hreading.symm.trans hi)
        rw [hx.up] at hreceive
        cases hreceive
      · rw [hnone] at hreading
        cases hreading
    | routerWrites =>
      obtain ⟨h, hstep, rfl⟩ := Option.map_eq_some_iff.mp hs
      obtain ⟨w, hwrite, -⟩ := Option.map_eq_some_iff.mp hstep
      rcases hx.stage with hstage | hstage
      · rw [RouterRun.write, hstage] at hwrite
        cases hwrite
      · rw [RouterRun.write, hstage] at hwrite
        cases hwrite
    | partyCalls j =>
      obtain ⟨h, hstep, rfl⟩ := Option.map_eq_some_iff.mp hs
      simp only [Handshake.step] at hstep
      split at hstep
      · rename_i hj
        obtain ⟨⟨p, out⟩, hc, rfl⟩ := Option.map_eq_some_iff.mp hstep
        have hcalls : (x.parties j).calling ≠ .failed := by
          intro hfailed
          rw [Party.call, hfailed] at hc
          cases hc
        have hji : j ≠ i := by
          rintro rfl
          exact hcalls hx.calling
        have hquiet : x.toClient j = [] := (hx.quiet j hj).resolve_left fun h => hcalls h.1
        exact hx.party hji p _ hquiet (by simp [hx.closed])
      · cases hstep
    | partyReads j =>
      rw [Hangup.step, hx.not_rejected] at hs
      cases hs
  | resume j calling =>
    simp only [Hangup.step] at hs
    split at hs
    · exact hx.resume ‹_› hs
    · cases hs
  | endOfFile =>
    obtain ⟨j, hreading, hend⟩ := Option.bind_eq_some_iff.mp hs
    split at hend
    · cases hend
      exact ⟨hx.client, Or.inr rfl, hx.up, hx.closed, hx.disconnected, hx.calling, hx.quiet⟩
    · cases hend

/-! ### Runs -/

/-- Every session goes on, or one is stuck with a client that was rejected. -/
theorem going_or_stuck_step {e : Event S} (hx : x.Going infos ∨ ∃ i, x.Stuck i) (hs : x.step e = some t) :
    t.Going infos ∨ ∃ i, t.Stuck i := by
  rcases hx with hx | ⟨i, hx⟩
  · cases e with
    | handshake e =>
      by_cases hrejected : ∃ i, e = .partyReads i ∧ x.Rejected i
      · obtain ⟨i, rfl, hrejected⟩ := hrejected
        exact Or.inr ⟨i, (hx.rejected hrejected hs).1⟩
      · exact Or.inl (hx.handshake hs fun i he hr => hrejected ⟨i, he, hr⟩)
    | resume i calling =>
      simp only [step] at hs
      split at hs
      · rw [hx.resume ‹_› hs]
        exact Or.inl hx
      · cases hs
    | endOfFile =>
      obtain ⟨j, -, hend⟩ := Option.bind_eq_some_iff.mp hs
      simp [hx.opened] at hend
  · exact Or.inr ⟨i, hx.step hs⟩

omit [Flatbuffers Buf] in
theorem tidy_fresh {h : Handshake S Buf} (hf : h.Fresh) (i : Nat) : (h.parties i).Tidy where
  opened := by simp [hf.bridges]
  idle := by simp [hf.bridges]

theorem going_fresh {h : Handshake S Buf} (hf : h.Fresh) : Going h.infos { toHandshake := h } where
  inv := hf.inv
  tidy i _ := tidy_fresh hf i
  opened _ := rfl

/-- What a rejection does: the client is disconnected, `Run` waits for it and can only return with an error. -/
theorem rejected_stuck {h₀ : Handshake S Buf} (hf : h₀.Fresh) {es : List (Event S)}
    (hr : run step { toHandshake := h₀ } es = some x) (hrejected : x.Rejected i)
    (hs : x.step (.handshake (.partyReads i)) = some t) :
    t.router.stage = .register i ∧ (t.parties i).bridge.client.state = .disconnected ∧
      ∀ es' u, run step t es' = some u → (u.parties i).bridge.client.state = .disconnected ∧
        (u.router.stage = .failed ∨
          u.router.stage = .register i ∧ ∃ v, u.step .endOfFile = some v ∧ v.router.stage = .failed) := by
  have hgoing := run_invariant (fun _ _ _ hx hs => going_or_stuck_step hx hs) (Or.inl (going_fresh hf)) hr
  rcases hgoing with hgoing | ⟨j, hstuck⟩
  · obtain ⟨hstuck, hstage⟩ := hgoing.rejected hrejected hs
    refine ⟨hstage, hstuck.disconnected, fun es' u hu => ?_⟩
    have hu : u.Stuck i := run_invariant (fun _ _ _ hx hs => hx.step hs) hstuck hu
    refine ⟨hu.disconnected, ?_⟩
    rcases hu.stage with hstage | hstage
    · refine Or.inr ⟨hstage, { u with router := { u.router with stage := .failed } }, ?_, rfl⟩
      have hreading : u.reading = some i := by rw [Handshake.reading, hstage]
      rw [Hangup.step, endOfFile, hreading, Option.bind_some, if_pos ⟨hu.up, hu.closed⟩]
    · exact Or.inl hstage
  · rw [Hangup.step, hstuck.not_rejected] at hs
    cases hs

/-- On every run, the clients stay in step with `Run` after each rejection exactly if there is none. -/
theorem in_step_iff {h₀ : Handshake S Buf} (hf : h₀.Fresh) (es : List (Event S)) :
    EveryStep step InStep { toHandshake := h₀ } es ↔
      EveryStep step (fun x e => ∀ i, e = .handshake (.partyReads i) → ¬ x.Rejected i) { toHandshake := h₀ } es := by
  refine everyStep_congr (I := fun x => x.Going h₀.infos ∨ ∃ i, x.Stuck i) (fun _ _ _ hx hs => going_or_stuck_step hx hs) ?_
    (Or.inl (going_fresh hf))
  intro x e t hx hs
  constructor
  · rintro hin i rfl hrejected
    obtain ⟨hsame, -⟩ := hin i rfl hrejected t hs
    rcases hx with hx | ⟨j, hx⟩
    · obtain ⟨hstuck, hstage⟩ := hx.rejected hrejected hs
      have hconnected := hsame.mpr hstage
      rw [hstuck.disconnected] at hconnected
      cases hconnected
    · rw [Hangup.step, hx.not_rejected] at hs
      cases hs
  · intro hno i he hrejected
    exact absurd hrejected (hno i he)

end

/-! ### A slave registered twice -/

/-- A client that is to register the same block two times. -/
def twice : Handshake Unit Wire.Message where
  router := { router := Router.single, host := { name := "router" } }
  parties _ :=
    { info := { name := "01-handshake" }, uri := "unix:///tmp/sw-axi", sock := 3
      regs := [.slave () Handshake.plainRam, .slave () Handshake.plainRam] }
  toRouter _ := []
  toClient _ := []

theorem twice_fresh : twice.Fresh where
  router := ⟨Router.single_accepted, rfl, rfl, rfl⟩
  bridges _ := rfl
  calling _ := rfl
  logs _ := ⟨rfl, rfl, rfl⟩
  toRouter _ := rfl
  toClient _ := rfl

/-- The connection, the first registration, and the second up to its answer. -/
def untilRejected : List (Event Unit) :=
  [.handshake (.partyCalls 0), .handshake .routerReceives, .handshake (.partyReads 0), .handshake (.partyCalls 0),
    .handshake .routerReceives, .handshake (.partyReads 0), .handshake (.partyCalls 0), .handshake .routerReceives]

theorem in_step_iff_twice :
    EveryStep step InStep { toHandshake := twice } untilRejected ↔
      EveryStep step (fun x e => ∀ i, e = .handshake (.partyReads i) → ¬ x.Rejected i) { toHandshake := twice }
        untilRejected :=
  in_step_iff twice_fresh untilRejected

/-- The second registration disconnects the client, whose next message the router waits for. -/
theorem rejection_out_of_step :
    twice.Fresh ∧ ¬ EveryStep step InStep { toHandshake := twice } (untilRejected ++ [.handshake (.partyReads 0)]) := by
  have hbefore : (run step { toHandshake := twice } untilRejected).map (fun x =>
      (x.router.router.clients.length, x.toClient 0)) =
        some (1, [createErrorMessage "Address space overlaps with already registered Soft-RAM IP block"]) := by decide
  have hafter : (run step { toHandshake := twice } (untilRejected ++ [.handshake (.partyReads 0)])).map (fun t =>
      (t.router.stage, (t.parties 0).bridge.client.state)) = some (.register 0, .disconnected) := by decide
  refine ⟨twice_fresh, fun hin => ?_⟩
  obtain ⟨t, ht, hdata⟩ := Option.map_eq_some_iff.mp hafter
  obtain ⟨hstage, hstate⟩ := Prod.mk.inj hdata
  obtain ⟨x, hx, hs⟩ := run_snoc.mp ht
  rw [hx, Option.map_some, Option.some.injEq] at hbefore
  obtain ⟨hlen, hdown⟩ := Prod.mk.inj hbefore
  have hrejected : x.Rejected 0 := ⟨by omega, _, [], hdown, getType_createErrorMessage _⟩
  have hconnected := (hin.after hx hs 0 rfl hrejected t hs).1.mpr hstage
  rw [hstate] at hconnected
  cases hconnected

end Hangup

end SwAxi
