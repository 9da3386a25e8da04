import SwAxi.Registry

/-! `Run` of the router (`src/router/sw_axi/router.go`): it accepts its clients, shakes hands with one after
the other and registers their blocks, commits to all of them, and then routes. The transition system here is
the router's view, in which any message may arrive. -/

namespace SwAxi
open Wire (Flatbuffers)
open Transition

/-- Where `Run` is. -/
inductive Stage (Buf : Type) where
  /-- It waits for the `SYSTEM_INFO` of this client. -/
  | hello (client : Nat)
  /-- In the registration loop of this client. -/
  | register (client : Nat)
  /-- In `commit` of this client, with these messages still to be written. -/
  | commit (client : Nat) (rest : List Buf)
  /-- The goroutines run. -/
  | serve
  /-- `route` has left its loop. -/
  | routed
  /-- `Run` returned with an error, or the process is gone. -/
  | failed
  deriving DecidableEq, Repr

/-- Where a turn of `route` leaves it. -/
def Routed.stage {Buf : Type} : Routed Buf → Stage Buf
  | .send _ _ | .next => .serve
  | .done => .routed
  | .fatal _ | .panic => .failed

structure RouterRun (Buf : Type) where
  router : Router
  /-- What the router tells its clients of itself. -/
  host : SystemInfo
  clInfo : List SystemInfo := []
  stage : Stage Buf := .hello 0
  /-- The client over whose connection each registered block arrived; no part of the router's own state. -/
  arrived : List Nat := []
  deriving DecidableEq, Repr

namespace RouterRun
variable {Buf : Type} [Flatbuffers Buf] (s : RouterRun Buf)

def fail : RouterRun Buf × List Buf := ({ s with stage := .failed }, [])

/-- `commit` of the client with this index, or what comes after the last one. -/
def commitStage (i : Nat) : Stage Buf :=
  if i < s.router.clients.length then .commit i (Client.commitMessages s.clInfo s.router.ips) else .serve

/-- `shakeHands` with a client, and the answer. -/
def receiveHello (i : Nat) (msgArr : Buf) : RouterRun Buf × List Buf :=
  match s.router.clients[i]? with
  | none => s.fail
  | some c =>
    match c.shakeHands s.host msgArr with
    | some (.ok (c, reply)) =>
      ({ s with router := { s.router with clients := s.router.clients.set i c }, stage := .register i }, [reply])
    | _ => s.fail

/-- `registerIp` for a client, and the answer. -/
def registerIp (i : Nat) (ip : IpInfo) : RouterRun Buf × List Buf :=
  match s.router.registerIp ip with
  | none => s.fail
  | some (router, .error err) => ({ s with router }, [createErrorMessage err])
  | some (router, .ok id) => ({ s with router, arrived := s.arrived ++ [i] }, [Client.ackIpInfoMessage id])

/-- A turn of the registration loop; a `COMMIT` ends it. -/
def receiveIp (i : Nat) (msgArr : Buf) : RouterRun Buf × List Buf :=
  match s.router.clients[i]? with
  | none => s.fail
  | some c =>
    match c.receiveIpInfo msgArr with
    | some (.ok none) =>
      let s := { s with clInfo := s.clInfo ++ [c.systemInfo] }
      ({ s with stage := if i + 1 < s.router.clients.length then .hello (i + 1) else s.commitStage 0 }, [])
    | some (.ok (some ip)) => s.registerIp i ip
    | _ => s.fail

/-- A message of the client that `Run` reads from, and what is written back. -/
def receive (msgArr : Buf) : Option (RouterRun Buf × List Buf) :=
  match s.stage with
  | .hello i => some (s.receiveHello i msgArr)
  | .register i => some (s.receiveIp i msgArr)
  | _ => none

/-- The next message of the commits, with the client it is written to. -/
def write : Option (RouterRun Buf × Nat × Buf) :=
  match s.stage with
  | .commit i [msgArr] => some ({ s with stage := s.commitStage (i + 1) }, i, msgArr)
  | .commit i (msgArr :: rest) => some ({ s with stage := .commit i rest }, i, msgArr)
  | _ => none

/-- A turn of `route`. -/
def turn (order : List IpInfo) (msgArr : Buf) : Option (RouterRun Buf × Routed Buf) :=
  match s.stage with
  | .serve =>
    if s.router.IterationOrder order then
      let (router, routed) := s.router.route order msgArr
      some ({ s with router, stage := routed.stage }, routed)
    else none
  | _ => none

inductive Event (Buf : Type) where
  | receive (msgArr : Buf)
  | write
  | turn (order : List IpInfo) (msgArr : Buf)
  deriving DecidableEq, Repr

def step : Event Buf → Option (RouterRun Buf)
  | .receive msgArr => (s.receive msgArr).map Prod.fst
  | .write => s.write.map Prod.fst
  | .turn order msgArr => (s.turn order msgArr).map Prod.fst

/-- `Run` has accepted its clients. -/
structure Fresh (s : RouterRun Buf) : Prop where
  router : s.router.Accepted
  clInfo : s.clInfo = []
  stage : s.stage = .hello 0
  arrived : s.arrived = []

/-! ### What a step does to the router -/

section
variable {s} {t : RouterRun Buf}

/-- The client that a message registers a block for, and the block. -/
def registering (s : RouterRun Buf) (msgArr : Buf) : Option (Nat × IpInfo) :=
  match s.stage with
  | .register i =>
    s.router.clients[i]?.bind fun c =>
      match c.receiveIpInfo msgArr with
      | some (.ok (some ip)) => some (i, ip)
      | _ => none
  | _ => none

/-- The message registers this block for the client `i`. -/
def Registers (s : RouterRun Buf) (msgArr : Buf) (i : Nat) (ip : IpInfo) : Prop := s.registering msgArr = some (i, ip)

theorem registers_iff {msgArr : Buf} {i : Nat} {ip : IpInfo} : s.Registers msgArr i ip ↔
    s.stage = .register i ∧ ∃ c, s.router.clients[i]? = some c ∧ c.receiveIpInfo msgArr = some (.ok (some ip)) := by
  unfold Registers registering
  split
  · rename_i j hstage
    rw [hstage, Option.bind_eq_some_iff]
    constructor
    · rintro ⟨c, hc, h⟩
      split at h
      · cases h
        exact ⟨rfl, c, hc, ‹_›⟩
      · cases h
    · rintro ⟨⟨⟩, c, hc, h⟩
      exact ⟨c, hc, by simp [h]⟩
  · rename_i hno
    exact iff_of_false (by simp) fun h => hno i h.1

theorem Registers.unique {msgArr : Buf} {i j : Nat} {ip ip' : IpInfo} (h : s.Registers msgArr i ip)
    (h' : s.Registers msgArr j ip') : i = j ∧ ip = ip' := by
  unfold Registers at h h'
  rw [h] at h'
  cases h'
  exact ⟨rfl, rfl⟩

theorem shakeHands_id {c c' : Client} {host : SystemInfo} {msgArr reply : Buf}
    (h : c.shakeHands host msgArr = some (.ok (c', reply))) : c'.id = c.id := by
  unfold Client.shakeHands at h
  simp only at h
  split at h
  · simp at h
  · simp only [Option.bind_eq_bind, Option.bind_eq_some_iff, Option.pure_def, Option.some.injEq,
      Except.ok.injEq, Prod.mk.injEq] at h
    obtain ⟨si, -, rfl, -⟩ := h
    rfl

theorem receiveIpInfo_clientId {c : Client} {msgArr : Buf} {ip : IpInfo}
    (h : c.receiveIpInfo msgArr = some (.ok (some ip))) : ip.clientId = c.id := by
  unfold Client.receiveIpInfo at h
  simp only at h
  split at h
  · simp at h
  · split at h
    · simp at h
    · simp only [Option.bind_eq_bind, Option.bind_eq_some_iff, Option.pure_def, Option.some.injEq,
        Except.ok.injEq] at h
      obtain ⟨ii, -, rfl⟩ := h
      rfl

omit [Flatbuffers Buf] in
theorem fail_inv {out : List Buf} (h : s.fail = (t, out)) : t.router = s.router ∧ t.arrived = s.arrived := by
  cases h
  exact ⟨rfl, rfl⟩

theorem receiveHello_inv {i : Nat} {msgArr : Buf} {out : List Buf} (h : s.receiveHello i msgArr = (t, out)) :
    t.arrived = s.arrived ∧ ((∃ c c', s.router.clients[i]? = some c ∧ c'.id = c.id ∧
      t.router = { s.router with clients := s.router.clients.set i c' }) ∨ t.router = s.router) := by
  unfold receiveHello at h
  split at h
  · exact ⟨(fail_inv h).2, Or.inr (fail_inv h).1⟩
  · rename_i c hc
    split at h
    · rename_i c' reply hs
      cases h
      exact ⟨rfl, Or.inl ⟨c, c', hc, shakeHands_id hs, rfl⟩⟩
    · exact ⟨(fail_inv h).2, Or.inr (fail_inv h).1⟩

theorem registerIp_inv {i : Nat} {ip : IpInfo} {out : List Buf} (h : s.registerIp i ip = (t, out)) :
    (∃ res, s.router.registerIp ip = some (t.router, res) ∧ t.arrived = s.arrived ++ if res.isOk then [i] else []) ∨
    (t.router = s.router ∧ t.arrived = s.arrived ∧ s.router.registerIp ip = none) := by
  unfold registerIp at h
  split at h
  · rename_i hpanic
    exact Or.inr ⟨(fail_inv h).1, (fail_inv h).2, hpanic⟩
  · rename_i router err hres
    cases h
    exact Or.inl ⟨_, hres, by simp [Except.isOk, Except.toBool]⟩
  · rename_i router id hres
    cases h
    exact Or.inl ⟨_, hres, by simp [Except.isOk, Except.toBool]⟩

theorem receiveIp_inv {i : Nat} {msgArr : Buf} {out : List Buf} (hstage : s.stage = .register i)
    (h : s.receiveIp i msgArr = (t, out)) :
    (∃ ip res, s.Registers msgArr i ip ∧ s.router.registerIp ip = some (t.router, res) ∧
      t.arrived = s.arrived ++ if res.isOk then [i] else []) ∨
    (t.router = s.router ∧ t.arrived = s.arrived ∧ ∀ j ip, s.Registers msgArr j ip → s.router.registerIp ip = none) := by
  -- What the message registers is what `receiveIpInfo` made of it.
  have hreads : ∀ j ip, s.Registers msgArr j ip →
      ∃ c, s.router.clients[i]? = some c ∧ c.receiveIpInfo msgArr = some (.ok (some ip)) := by
    intro j ip hreg
    obtain ⟨hj, hread⟩ := registers_iff.mp hreg
    rw [hstage] at hj
    cases hj
    exact hread
  unfold receiveIp at h
  split at h
  · rename_i hc
    refine Or.inr ⟨(fail_inv h).1, (fail_inv h).2, fun j ip hreg => ?_⟩
    obtain ⟨c, hc', -⟩ := hreads j ip hreg
    rw [hc] at hc'
    cases hc'
  · rename_i c hc
    have hreads' : ∀ j ip, s.Registers msgArr j ip → c.receiveIpInfo msgArr = some (.ok (some ip)) := by
      intro j ip hreg
      obtain ⟨c', hc', hip⟩ := hreads j ip hreg
      rw [hc] at hc'
      cases hc'
      exact hip
    split at h
    · rename_i hcommit
      cases h
      refine Or.inr ⟨rfl, rfl, fun j ip hreg => ?_⟩
      have hip := hreads' j ip hreg
      rw [hcommit] at hip
      cases hip
    · rename_i ip hip
      have hreg : s.Registers msgArr i ip := registers_iff.mpr ⟨hstage, c, hc, hip⟩
      rcases registerIp_inv h with ⟨res, hres, ha⟩ | ⟨hrouter, ha, hnone⟩
      · exact Or.inl ⟨ip, res, hreg, hres, ha⟩
      · refine Or.inr ⟨hrouter, ha, fun j ip' hreg' => ?_⟩
        rw [← (hreg.unique hreg').2]
        exact hnone
    · rename_i hother
      exact Or.inr ⟨(fail_inv h).1, (fail_inv h).2, fun j ip hreg => absurd (hreads' j ip hreg) (hother ip)⟩

/-- A received message is a client's info, a registration, or leaves the registry alone. -/
theorem receive_inv {msgArr : Buf} {out : List Buf} (h : s.receive msgArr = some (t, out)) :
    (∃ i c c', s.stage = .hello i ∧ s.router.clients[i]? = some c ∧ c'.id = c.id ∧ t.arrived = s.arrived ∧
      t.router = { s.router with clients := s.router.clients.set i c' }) ∨
    (∃ i ip res, s.Registers msgArr i ip ∧ s.router.registerIp ip = some (t.router, res) ∧
      t.arrived = s.arrived ++ if res.isOk then [i] else []) ∨
    (t.router = s.router ∧ t.arrived = s.arrived ∧ ∀ i ip, s.Registers msgArr i ip → s.router.registerIp ip = none) := by
  unfold receive at h
  split at h
  · rename_i i hstage
    obtain ⟨ha, ⟨c, c', hc, hid, hrouter⟩ | hrouter⟩ := receiveHello_inv (Option.some.inj h)
    · exact Or.inl ⟨i, c, c', hstage, hc, hid, ha, hrouter⟩
    · refine Or.inr (Or.inr ⟨hrouter, ha, fun j ip hreg => ?_⟩)
      simp [registers_iff, hstage] at hreg
  · rename_i i hstage
    rcases receiveIp_inv hstage (Option.some.inj h) with ⟨ip, res, hreg, hres, ha⟩ | hsame
    · exact Or.inr (Or.inl ⟨i, ip, res, hreg, hres, ha⟩)
    · exact Or.inr (Or.inr hsame)
  · cases h

theorem write_inv {i : Nat} {msgArr : Buf} (h : s.write = some (t, i, msgArr)) :
    t.router = s.router ∧ t.arrived = s.arrived := by
  unfold write at h
  split at h
  · cases h
    exact ⟨rfl, rfl⟩
  · cases h
    exact ⟨rfl, rfl⟩
  · cases h

theorem turn_inv {order : List IpInfo} {msgArr : Buf} {routed : Routed Buf}
    (h : s.turn order msgArr = some (t, routed)) : s.stage = .serve ∧ s.router.IterationOrder order ∧
      s.router.route order msgArr = (t.router, routed) ∧ t.arrived = s.arrived := by
  unfold turn at h
  split at h
  · rename_i hstage
    split at h
    · cases h
      exact ⟨hstage, ‹_›, rfl, rfl⟩
    · cases h
  · cases h

end

end RouterRun

/-- A turn of `route` changes the count of masters only. -/
theorem Router.route_router {Buf : Type} [Flatbuffers Buf] (r : Router) (order : List IpInfo) (msgArr : Buf) :
    ∃ n, (r.route order msgArr).1 = { r with masterCount := n } := by
  unfold Router.route
  simp only
  split
  · split
    · exact ⟨_, rfl⟩
    · split
      · split <;> exact ⟨_, rfl⟩
      · exact ⟨_, rfl⟩
  · exact ⟨_, rfl⟩

namespace RouterRun
variable {Buf : Type} {s t : RouterRun Buf}

/-- What holds of the registry in every state: its bookkeeping is right, and no client has an `Id` but 0. -/
structure Sound (s : RouterRun Buf) : Prop where
  kept : s.router.Kept
  ids : ∀ c ∈ s.router.clients, c.id = 0

theorem Fresh.sound (h : s.Fresh) : s.Sound where
  kept := h.router.kept
  ids c hc := by
    obtain ⟨uri, n, r₀, -, heq⟩ := h.router
    rw [heq] at hc
    obtain ⟨i, -, rfl⟩ := List.mem_map.mp hc
    rfl

section
variable [Flatbuffers Buf]

/-- Where a step can leave the registry. -/
theorem step_inv {e : Event Buf} (h : s.step e = some t) :
    (∃ i c c', s.stage = .hello i ∧ s.router.clients[i]? = some c ∧ c'.id = c.id ∧ t.arrived = s.arrived ∧
      t.router = { s.router with clients := s.router.clients.set i c' }) ∨
    (∃ msgArr i ip res, e = .receive msgArr ∧ s.Registers msgArr i ip ∧
      s.router.registerIp ip = some (t.router, res) ∧ t.arrived = s.arrived ++ if res.isOk then [i] else []) ∨
    (∃ n, t.router = { s.router with masterCount := n } ∧ t.arrived = s.arrived ∧
      (∀ msgArr i ip, e = .receive msgArr → s.Registers msgArr i ip → s.router.registerIp ip = none) ∧
      (n = s.router.masterCount ∨ ∃ order msgArr, e = .turn order msgArr)) := by
  cases e with
  | receive msgArr =>
    obtain ⟨⟨t, out⟩, hr, rfl⟩ := Option.map_eq_some_iff.mp h
    rcases receive_inv hr with h | ⟨i, ip, res, h⟩ | ⟨hrouter, ha, hno⟩
    · exact Or.inl h
    · exact Or.inr (Or.inl ⟨msgArr, i, ip, res, rfl, h⟩)
    · refine Or.inr (Or.inr ⟨_, hrouter, ha, ?_, Or.inl rfl⟩)
      rintro _ i ip ⟨⟩ hreg
      exact hno i ip hreg
  | write =>
    obtain ⟨⟨t, i, msgArr⟩, hw, rfl⟩ := Option.map_eq_some_iff.mp h
    obtain ⟨hrouter, ha⟩ := write_inv hw
    exact Or.inr (Or.inr ⟨_, hrouter, ha, by simp, Or.inl rfl⟩)
  | turn order msgArr =>
    obtain ⟨⟨t, routed⟩, ht, rfl⟩ := Option.map_eq_some_iff.mp h
    obtain ⟨-, -, hroute, ha⟩ := turn_inv ht
    obtain ⟨n, hn⟩ := s.router.route_router order msgArr
    rw [hroute] at hn
    exact Or.inr (Or.inr ⟨n, hn, ha, by simp, Or.inr ⟨order, msgArr, rfl⟩⟩)

theorem Sound.step {e : Event Buf} (h : s.Sound) (hs : s.step e = some t) : t.Sound := by
  rcases step_inv hs with ⟨i, c, c', -, hc, hid, -, heq⟩ | ⟨msgArr, i, ip, res, -, -, hreg, -⟩ | ⟨n, heq, -⟩
  · have hk : Router.Kept { s.router with clients := s.router.clients.set i c' } :=
      { h.kept with owners := by simpa using h.kept.owners }
    refine ⟨heq ▸ hk, fun x hx => ?_⟩
    rw [heq] at hx
    rcases List.mem_or_eq_of_mem_set hx with hx | rfl
    · exact h.ids x hx
    · rw [hid]
      exact h.ids c (List.mem_of_getElem? hc)
  · have hr : s.router.register ip = some t.router := by simp [Router.register, hreg]
    refine ⟨h.kept.register hr, ?_⟩
    rcases Router.register_inv hr with ⟨heq, -⟩ | ⟨heq, -⟩ <;> rw [heq] <;> simpa using h.ids
  · have hk : Router.Kept { s.router with masterCount := n } := { h.kept with }
    refine ⟨heq ▸ hk, ?_⟩
    rw [heq]
    exact h.ids

theorem Sound.of_run {es : List (Event Buf)} (h : s.Sound) (hr : run RouterRun.step s es = some t) : t.Sound :=
  run_invariant (fun _ _ _ hs he => hs.step he) h hr

/-- The registering client is one of those that `Run` accepted, and the block carries the `Id` 0. -/
theorem Sound.registers (h : s.Sound) {msgArr : Buf} {i : Nat} {ip : IpInfo} (hr : s.Registers msgArr i ip) :
    i < s.router.clients.length ∧ ip.clientId = 0 := by
  obtain ⟨-, c, hc, hip⟩ := registers_iff.mp hr
  refine ⟨(List.getElem?_eq_some_iff.mp hc).1, ?_⟩
  rw [receiveIpInfo_clientId hip]
  exact h.ids c (List.mem_of_getElem? hc)

end

end RouterRun

end SwAxi
