import SwAxi.Roster
import SwAxi.Termination
import SwAxi.Lib.Potential
import SwAxi.Lib.Total

/-! What the handshake comes to, whatever the order in which the router and its clients make their steps. -/

namespace SwAxi
open Wire (Flatbuffers)
open Wire.Flatbuffers (getRoot)
open Transition
open Total

/-! ### Refused registrations -/

/-- A registration that `registerIp` refuses is answered with an error. -/
theorem RouterRun.receive_counted {Buf : Type} [Flatbuffers Buf] {r r' : RouterRun Buf} (hcounted : r.Counted)
    {msgArr : Buf} {replies : List Buf} (hr : r.receive msgArr = some (r', replies)) :
    r'.Counted ∨ ∃ reply ∈ replies, (getRoot reply).getType = .error := by
  rcases RouterRun.receive_inv hr with ⟨i, c, c', -, -, -, -, hrouter⟩ | ⟨i, ip, res, hreg, hres, -⟩ | ⟨hrouter, -⟩
  · exact Or.inl (hcounted.of_eq (by rw [hrouter]) (by rw [hrouter]))
  · by_cases hfits : r.router.MasterFits ip
    · exact Or.inl (Router.registerIp_masters hcounted hfits hres)
    · refine Or.inr ?_
      obtain ⟨hstage, c, hc, hinfo⟩ := RouterRun.registers_iff.mp hreg
      rcases Router.registerIp_inv hres with ⟨b, -, -, hrouter, rfl⟩ | ⟨hfree, -⟩
      · simp only [RouterRun.receive, hstage, RouterRun.receiveIp, hc, hinfo, RouterRun.registerIp, hres,
          Option.some.injEq, Prod.mk.injEq] at hr
        obtain ⟨-, rfl⟩ := hr
        exact ⟨_, List.mem_singleton_self _, getType_createErrorMessage _⟩
      · exact absurd (fun _ => hfree) hfits
  · exact Or.inl (hcounted.of_eq (by rw [hrouter]) (by rw [hrouter]))

namespace Party
variable {S Buf : Type} [Flatbuffers Buf] {p p' : Party S Buf} {r : RouterRun Buf} {i : Nat} {up down : List Buf} {msgArr : Buf}

/-- An error makes the call fail that it answers. -/
theorem Takes.error (h : Takes r i p up down msgArr p') (htype : (getRoot msgArr).getType = .error) :
    p'.calling = .failed := by
  cases h with
  | greeted => simp [getType_systemInfoMessage] at htype
  | acked => simp [getType_ackIpInfoMessage] at htype
  | refused => rfl
  | streams msgArr p' stage hup stream hr =>
    obtain ⟨_, _, _, _, _, _, _, _, -, -, hno, -⟩ := stream.reply_inv hr
    exact absurd htype hno

end Party

namespace Handshake
variable {S Buf : Type} [Flatbuffers Buf] {h h' : Handshake S Buf} {infos : List SystemInfo}

/-- A call of client `i` has failed, or an error is on its way to it. -/
def Erring (h : Handshake S Buf) (i : Nat) : Prop :=
  (h.parties i).calling = .failed ∨ ∃ msgArr ∈ h.toClient i, (getRoot msgArr).getType = .error

theorem Erring.step {i : Nat} (he : h.Erring i) (hI : h.Inv infos) {e : Event} (hs : h.step e = some h') : h'.Erring i := by
  have hmore : ∀ {k : Nat} {replies : List Buf}, (∃ msgArr ∈ h.toClient i, (getRoot msgArr).getType = .error) →
      ∃ msgArr ∈ Function.update h.toClient k (h.toClient k ++ replies) i, (getRoot msgArr).getType = .error := by
    rintro k replies ⟨msgArr, hmem, htype⟩
    refine ⟨msgArr, ?_, htype⟩
    by_cases hik : i = k
    · subst hik
      simp [hmem]
    · simpa [hik] using hmem
  cases e with
  | routerReceives =>
    obtain ⟨k, hreading, hs⟩ := Option.bind_eq_some_iff.mp hs
    split at hs
    · cases hs
    · obtain ⟨⟨r', replies⟩, hr, rfl⟩ := Option.map_eq_some_iff.mp hs
      exact he.imp_right hmore
  | routerWrites =>
    obtain ⟨⟨r', k, msgArr⟩, hw, rfl⟩ := Option.map_eq_some_iff.mp hs
    exact he.imp_right hmore
  | partyCalls k =>
    simp only [Handshake.step] at hs
    split at hs
    · obtain ⟨⟨p, out⟩, hc, rfl⟩ := Option.map_eq_some_iff.mp hs
      refine he.imp_left fun hfailed => ?_
      have hik : i ≠ k := by
        rintro rfl
        simp [Party.call, hfailed] at hc
      simpa [hik] using hfailed
    · cases hs
  | partyReads k =>
    simp only [Handshake.step] at hs
    split at hs
    · rename_i hk
      unfold Handshake.partyReads at hs
      split at hs
      · cases hs
      · rename_i msgArr rest hdown
        obtain ⟨p, hr, rfl⟩ := Option.map_eq_some_iff.mp hs
        by_cases hik : i = k
        · subst hik
          rcases he with hfailed | ⟨out, hmem, htype⟩
          · simp [Party.reply, hfailed] at hr
          · rw [hdown] at hmem
            rcases List.mem_cons.mp hmem with rfl | hmem
            · have hphase := hI.phases i hk
              rw [hdown] at hphase
              exact Or.inl (by simpa using (hphase.takes hr).error htype)
            · exact Or.inr ⟨out, by simpa using hmem, htype⟩
        · simpa [Erring, hik] using he
    · cases hs

/-- The masters are counted, unless a registration has been refused. -/
theorem counted_or_erring {e : Event} (h₀ : h.router.Counted ∨ ∃ i < infos.length, h.Erring i) (hI : h.Inv infos)
    (hs : h.step e = some h') : h'.router.Counted ∨ ∃ i < infos.length, h'.Erring i := by
  rcases h₀ with hcounted | ⟨i, hi, he⟩
  · cases e with
    | routerReceives =>
      obtain ⟨k, hreading, hs⟩ := Option.bind_eq_some_iff.mp hs
      split at hs
      · cases hs
      · obtain ⟨⟨r', replies⟩, hr, rfl⟩ := Option.map_eq_some_iff.mp hs
        refine (RouterRun.receive_counted hcounted hr).imp_right fun hrefused => ?_
        obtain ⟨reply, hmem, htype⟩ := hrefused
        exact ⟨k, hI.length ▸ hI.reading_lt hreading, Or.inr ⟨reply, by simp [hmem], htype⟩⟩
    | routerWrites =>
      obtain ⟨⟨r', k, msgArr⟩, hw, rfl⟩ := Option.map_eq_some_iff.mp hs
      obtain ⟨rest, -, hr'⟩ := write_cases hw
      exact Or.inl (hcounted.of_eq (by rw [hr']) (by rw [hr']))
    | partyCalls k =>
      simp only [Handshake.step] at hs
      split at hs
      · obtain ⟨⟨p, out⟩, hc, rfl⟩ := Option.map_eq_some_iff.mp hs
        exact Or.inl hcounted
      · cases hs
    | partyReads k =>
      simp only [Handshake.step] at hs
      split at hs
      · unfold Handshake.partyReads at hs
        split at hs
        · cases hs
        · obtain ⟨p, hr, rfl⟩ := Option.map_eq_some_iff.mp hs
          exact Or.inl hcounted
      · cases hs
  · exact Or.inr ⟨i, hi, he.step hI hs⟩

/-- A router that all clients have started over has counted its masters. -/
theorem Fresh.run_counted {h₀ : Handshake S Buf} (hf : h₀.Fresh) {es : List Event} (hr : run Handshake.step h₀ es = some h)
    (hstarted : ∀ i < h.router.router.clients.length, (h.parties i).calling = .started) : h.router.Counted := by
  have keep : ∀ (h : Handshake S Buf) e h', (h.Inv h₀.infos ∧ (h.router.Counted ∨ ∃ i < h₀.infos.length, h.Erring i)) →
      h.step e = some h' → h'.Inv h₀.infos ∧ (h'.router.Counted ∨ ∃ i < h₀.infos.length, h'.Erring i) :=
    fun h e h' hI hs => ⟨hI.1.step hs, counted_or_erring hI.2 hI.1 hs⟩
  obtain ⟨hI, hcounted | ⟨i, hi, he⟩⟩ := run_invariant keep ⟨hf.inv, Or.inl hf.router.counted⟩ hr
  · exact hcounted
  · rw [hI.length] at hi
    obtain ⟨-, -, hdown, -⟩ := hI.started hi (hstarted i hi)
    rcases he with hfailed | ⟨msgArr, hmem, -⟩
    · rw [hstarted i hi] at hfailed
      cases hfailed
    · rw [hdown] at hmem
      cases hmem

end Handshake

/-! ### The work that is left -/

namespace Party
variable {S Buf : Type} {p p' : Party S Buf}

/-- The calls that the user is still to make. -/
def callsLeft (p : Party S Buf) : Nat :=
  match p.calling with
  | .connect false => p.regs.length + 2
  | .connect true => p.regs.length + 1
  | .register _ rest false => rest.length + 2
  | .register _ rest true => rest.length + 1
  | .commitIp false => 1
  | _ => 0

theorem callsLeft_nextCall (p : Party S Buf) (rest : List (Registration S)) :
    callsLeft { p with calling := nextCall rest } = rest.length + 1 := by
  cases rest <;> rfl

variable [Flatbuffers Buf]

/-- A call writes one message at most. -/
theorem callsLeft_call {out : List Buf} (hc : p.call = some (p', out)) :
    p'.callsLeft + 1 ≤ p.callsLeft ∧ out.length ≤ 1 := by
  have hcalls : ∀ {ready : Bool} {calling : Calling S} {msgArr : Buf}, p.calls ready calling msgArr = (p', out) →
      p'.callsLeft ≤ callsLeft { p with calling } ∧ out.length ≤ 1 := by
    intro ready calling msgArr heq
    cases ready with
    | true =>
      obtain ⟨rfl, rfl⟩ := Prod.mk.inj heq
      exact ⟨le_rfl, le_rfl⟩
    | false =>
      obtain ⟨rfl, rfl⟩ := Prod.mk.inj heq
      exact ⟨Nat.zero_le _, Nat.zero_le _⟩
  unfold Party.call at hc
  simp only at hc
  split at hc
  · rename_i hcalling
    obtain ⟨hle, hout⟩ := hcalls (Option.some.inj hc)
    exact ⟨by simpa [callsLeft, hcalling] using hle, hout⟩
  · rename_i reg rest hcalling
    obtain ⟨hle, hout⟩ := hcalls (Option.some.inj hc)
    exact ⟨by simpa [callsLeft, hcalling] using hle, hout⟩
  · rename_i hcalling
    obtain ⟨hle, hout⟩ := hcalls (Option.some.inj hc)
    exact ⟨by simpa [callsLeft, hcalling] using hle, hout⟩
  · cases hc

/-- A reply brings no call that was not to be made anyway. -/
theorem callsLeft_reply {msgArr : Buf} (hr : p.reply msgArr = some p') : p'.callsLeft ≤ p.callsLeft := by
  have hreturns : ∀ {res : Option (Bridge S × Status)} {calling : Calling S},
      (p.returns res calling).callsLeft ≤ callsLeft { p with calling } := by
    intro res calling
    unfold returns
    split
    · exact Nat.zero_le _
    · split
      · exact Nat.zero_le _
      · exact le_rfl
  unfold Party.reply at hr
  split at hr
  · rename_i hcalling
    cases hr
    refine hreturns.trans ?_
    rw [callsLeft_nextCall, callsLeft, hcalling]
  · rename_i reg rest hcalling
    have hle : ∀ {res : Option (Bridge S × Status)}, (p.returns res (nextCall rest)).callsLeft ≤ p.callsLeft := by
      intro res
      refine hreturns.trans ?_
      rw [callsLeft_nextCall, callsLeft, hcalling]
    simp only [Option.some.injEq] at hr
    split at hr
    · subst hr
      exact hle
    · subst hr
      exact hle
  · cases hr
    exact hreturns.trans (Nat.zero_le _)
  · simp only at hr
    split at hr
    · cases hr
      exact Nat.zero_le _
    · cases hr
      exact Nat.zero_le _
    · cases hr
      unfold callsLeft
      split_ifs <;> exact Nat.zero_le _
  · cases hr

end Party

namespace RouterRun
variable {Buf : Type} {r r' : RouterRun Buf} {n : Nat}

/-- The messages of the commits that a router of `n` clients is still to write. -/
def writesLeft (n : Nat) (r : RouterRun Buf) : Nat :=
  match r.stage with
  | .hello _ | .register _ => n * (n + r.router.ips.length + 3)
  | .commit i rest => rest.length + (n - 1 - i) * (r.clInfo.length + r.router.ips.length + 3)
  | _ => 0

variable [Flatbuffers Buf]

theorem length_commitMessages (infos : List SystemInfo) (ips : List IpInfo) :
    (Client.commitMessages infos ips : List Buf).length = infos.length + ips.length + 3 := by
  simp [Client.commitMessages]
  omega

theorem writesLeft_write {k : Nat} {msgArr : Buf} (hn : r.router.clients.length = n) (hk : k < n)
    (hw : r.write = some (r', k, msgArr)) : r'.writesLeft n + 1 = r.writesLeft n := by
  obtain ⟨rest, hstage, rfl⟩ := Handshake.write_cases hw
  unfold writesLeft
  rw [hstage]
  by_cases hnil : rest = []
  · subst hnil
    by_cases hlast : k + 1 < n
    · obtain ⟨m, hm⟩ : ∃ m, n - 1 - k = m + 1 := ⟨n - 2 - k, by omega⟩
      have hm' : n - 1 - (k + 1) = m := by omega
      simp only [commitStage, hn, hlast, if_true, length_commitMessages, hm, hm', List.length_singleton]
      rw [Nat.add_mul, Nat.one_mul]
      omega
    · have hzero : n - 1 - k = 0 := by omega
      simp [commitStage, hn, hlast, hzero]
  · simp only [hnil, if_false, List.length_cons]
    omega

end RouterRun

namespace Handshake
variable {S Buf : Type} [Flatbuffers Buf] {h h' : Handshake S Buf} {infos : List SystemInfo} {n : Nat}

/-- What `Run` takes from a client makes it write one more message to each of them at most, besides its answer. -/
theorem Inv.writesLeft_receive (hI : h.Inv infos) {i : Nat} (hreading : h.reading = some i) {msgArr : Buf}
    {rest replies : List Buf} (hup : h.toRouter i = msgArr :: rest) {r' : RouterRun Buf}
    (hr : h.router.receive msgArr = some (r', replies)) :
    r'.writesLeft infos.length ≤ h.router.writesLeft infos.length + infos.length ∧ replies.length ≤ 1 := by
  have hi := hI.reading_lt hreading
  have hc := List.getElem?_eq_getElem hi
  have hn := hI.length
  obtain ⟨-, -, -, hmsg⟩ := hI.reads hreading hup
  rcases hmsg with ⟨hstage, rfl, -⟩ | ⟨reg, more, hstage, rfl, -⟩ | ⟨hstage, rfl, -⟩
  · rw [RouterRun.receive_systemInfo _ hstage hc] at hr
    obtain ⟨rfl, rfl⟩ := Prod.mk.inj (Option.some.inj hr)
    exact ⟨by simp [RouterRun.writesLeft, hstage], le_rfl⟩
  · rw [RouterRun.receive_ipInfo _ hstage hc] at hr
    rcases RouterRun.registerIp_cases (i := i) hI.sound.kept (receivedIp reg.config h.router.router.clients[i].id) with
      hres | ⟨err, hres⟩ | ⟨id, hres, -⟩
    · rw [hres] at hr
      obtain ⟨rfl, rfl⟩ := Prod.mk.inj (Option.some.inj hr)
      exact ⟨Nat.zero_le _, Nat.zero_le _⟩
    · rw [hres] at hr
      obtain ⟨rfl, rfl⟩ := Prod.mk.inj (Option.some.inj hr)
      exact ⟨by simp [RouterRun.writesLeft, hstage], le_rfl⟩
    · rw [hres] at hr
      obtain ⟨rfl, rfl⟩ := Prod.mk.inj (Option.some.inj hr)
      refine ⟨?_, le_rfl⟩
      simp only [RouterRun.writesLeft, hstage, Router.store_ips, Router.countMaster_ips, List.length_append,
        List.length_singleton]
      rw [show infos.length + (h.router.router.ips.length + 1) + 3 = infos.length + h.router.router.ips.length + 3 + 1
        by omega, Nat.mul_succ]
  · rw [RouterRun.receive_commit hstage hc] at hr
    obtain ⟨rfl, rfl⟩ := Prod.mk.inj (Option.some.inj hr)
    refine ⟨?_, Nat.zero_le _⟩
    have hcollected := hI.collected
    simp only [RouterRun.Collected, hstage] at hcollected
    have hlen : h.router.clInfo.length ≤ i := by
      rw [hcollected.1]
      exact List.length_take_le i infos
    by_cases hlast : i + 1 < infos.length
    · simp [RouterRun.writesLeft, hstage, ← hn, hlast]
    · obtain ⟨m, hm⟩ : ∃ m, infos.length = m + 1 := ⟨infos.length - 1, by omega⟩
      have hle : h.router.clInfo.length + 1 + h.router.router.ips.length + 3 ≤ m + 1 + h.router.router.ips.length + 3 := by
        omega
      have htotal := Nat.mul_le_mul_left (m + 1) hle
      rw [Nat.succ_mul] at htotal
      rw [hm] at hlast
      simp only [RouterRun.writesLeft, hstage, ← hn, hlast, if_false, RouterRun.commitStage, hm, Nat.zero_lt_succ, if_true,
        RouterRun.length_commitMessages, List.length_append, List.length_singleton, Nat.add_sub_cancel, Nat.sub_zero]
      omega

/-- What is left to do for `n` clients: a call is made, its message received and its reply read, and a block is
    written to every client and read by it. -/
def effort (n : Nat) (h : Handshake S Buf) : Nat :=
  total n Party.callsLeft h.parties * (2 * n + 3) + total n List.length h.toRouter * (2 * n + 2) +
    total n List.length h.toClient + 2 * h.router.writesLeft n

theorem effort_step (hI : h.Inv infos) {e : Event} (hs : h.step e = some h') :
    h'.effort infos.length + 1 ≤ h.effort infos.length := by
  have hn := hI.length
  cases e with
  | routerReceives =>
    obtain ⟨i, hreading, hs⟩ := Option.bind_eq_some_iff.mp hs
    have hi := hn ▸ hI.reading_lt hreading
    split at hs
    · cases hs
    · rename_i msgArr rest hup
      obtain ⟨⟨r', replies⟩, hr, rfl⟩ := Option.map_eq_some_iff.mp hs
      obtain ⟨hwrites, hreplies⟩ := hI.writesLeft_receive hreading hup hr
      have htoRouter := total_update (g := List.length) (F := h.toRouter) hi rest
      have htoClient := total_update (g := List.length) (F := h.toClient) hi (h.toClient i ++ replies)
      rw [hup, List.length_cons] at htoRouter
      rw [List.length_append] at htoClient
      have hup' : total infos.length List.length h.toRouter =
          total infos.length List.length (Function.update h.toRouter i rest) + 1 := by omega
      simp only [effort, hup', Nat.add_mul]
      omega
  | routerWrites =>
    obtain ⟨⟨r', k, msgArr⟩, hw, rfl⟩ := Option.map_eq_some_iff.mp hs
    have hk : k < infos.length := by
      obtain ⟨rest, hstage, -⟩ := write_cases hw
      have hcollected := hI.collected
      simp only [RouterRun.Collected, hstage] at hcollected
      exact hn ▸ hcollected.1
    have hwrites := RouterRun.writesLeft_write hn.symm hk hw
    have htoClient := total_update (g := List.length) (F := h.toClient) hk (h.toClient k ++ [msgArr])
    rw [List.length_append, List.length_singleton] at htoClient
    simp only [effort]
    omega
  | partyCalls i =>
    simp only [Handshake.step] at hs
    split at hs
    · rename_i hi
      obtain ⟨⟨p, out⟩, hc, rfl⟩ := Option.map_eq_some_iff.mp hs
      obtain ⟨hcalls, hout⟩ := Party.callsLeft_call hc
      have hparties := total_update (g := Party.callsLeft) (F := h.parties) (hn ▸ hi) p
      have htoRouter := total_update (g := List.length) (F := h.toRouter) (hn ▸ hi) (h.toRouter i ++ out)
      rw [List.length_append] at htoRouter
      have hle : (total infos.length Party.callsLeft (Function.update h.parties i p) + 1) * (2 * infos.length + 3) ≤
          total infos.length Party.callsLeft h.parties * (2 * infos.length + 3) := Nat.mul_le_mul_right _ (by omega)
      have hle' : total infos.length List.length (Function.update h.toRouter i (h.toRouter i ++ out)) *
          (2 * infos.length + 2) ≤ (total infos.length List.length h.toRouter + 1) * (2 * infos.length + 2) :=
        Nat.mul_le_mul_right _ (by omega)
      rw [Nat.add_mul] at hle hle'
      simp only [effort]
      omega
    · cases hs
  | partyReads i =>
    simp only [Handshake.step] at hs
    split at hs
    · rename_i hi
      unfold Handshake.partyReads at hs
      split at hs
      · cases hs
      · rename_i msgArr rest hdown
        obtain ⟨p, hr, rfl⟩ := Option.map_eq_some_iff.mp hs
        have hcalls := Party.callsLeft_reply hr
        have hparties := total_update (g := Party.callsLeft) (F := h.parties) (hn ▸ hi) p
        have htoClient := total_update (g := List.length) (F := h.toClient) (hn ▸ hi) rest
        rw [hdown, List.length_cons] at htoClient
        have hle : total infos.length Party.callsLeft (Function.update h.parties i p) * (2 * infos.length + 3) ≤
            total infos.length Party.callsLeft h.parties * (2 * infos.length + 3) := Nat.mul_le_mul_right _ (by omega)
        simp only [effort]
        omega
    · cases hs

end Handshake

/-! ### What the users ask for -/

/-- The block as it was asked for. -/
def IpInfo.request (ip : IpInfo) : IpInfo := { ip with id := 0 }

@[simp] theorem overlaps_request (a b : IpInfo) : overlaps a b.request = overlaps a b := rfl

namespace Party
variable {S Buf : Type} (p : Party S Buf)

/-- `connect` takes the URI. -/
def Addressed : Prop := ¬(p.uri.length < 8 ∨ RouterClient.startsWith p.uri RouterClient.unixPrefix = false)

instance : Decidable p.Addressed := inferInstanceAs (Decidable (¬_))

/-- The blocks that the user asks for, as they arrive at the router. -/
def blocks : List IpInfo := p.regs.map fun reg => receivedIp reg.config 0

end Party

namespace Handshake
variable {S Buf : Type} (h : Handshake S Buf)

/-- The blocks that the users ask for, client after client. -/
def requests : List IpInfo := (List.range h.router.router.clients.length).flatMap fun i => (h.parties i).blocks

/-- The router can take all that the users ask for: `connect` takes every URI, and none of the blocks is refused over
    the blocks ahead of it. -/
structure Acceptable : Prop where
  uris : ∀ i < h.router.router.clients.length, (h.parties i).Addressed
  apart : h.requests.Pairwise fun a b => overlaps b a = false
  few : h.requests.length ≤ maxSliceLength

/-- `start` has returned with success for every user. -/
def Complete : Prop := ∀ i < h.router.router.clients.length, (h.parties i).calling = .started

instance : Decidable h.Acceptable :=
  decidable_of_iff ((∀ i < h.router.router.clients.length, (h.parties i).Addressed) ∧
      (h.requests.Pairwise fun a b => overlaps b a = false) ∧ h.requests.length ≤ maxSliceLength)
    ⟨fun h => ⟨h.1, h.2.1, h.2.2⟩, fun h => ⟨h.uris, h.apart, h.few⟩⟩

/-- Neither the router nor a client can make another step. -/
def Settled [Flatbuffers Buf] : Prop := ∀ e, h.step e = none

/-- A call of some user has failed, or is about to, or the router is gone. -/
def Broken [Flatbuffers Buf] : Prop := h.router.stage = .failed ∨ ∃ i < h.router.router.clients.length, h.Erring i

end Handshake

/-! ### The order in which the blocks are stored -/

namespace Party
variable {S Buf : Type} [Flatbuffers Buf]

/-- A user that makes its calls in turn, none of which has failed; `down` is on its way to it. -/
structure Steady (p : Party S Buf) (down : List Buf) : Prop where
  going : p.calling ≠ .failed
  quiet : ∀ msgArr ∈ down, (getRoot msgArr).getType ≠ .error
  addressed : p.calling ≠ .connect false → p.Addressed
  untouched : p.calling = .connect false → p.bridge.client.state = .disconnected
  calls : ∃ made, p.regs = made ++ p.calling.undone p.regs ∧ p.registered.length = made.length

/-- The number of its blocks that the router has stored. -/
def stored (p : Party S Buf) (down : List Buf) : Nat := p.registered.length + down.countP isIpAck

variable {p p' : Party S Buf} {r : RouterRun Buf} {i : Nat} {up down out : List Buf} {msgArr : Buf}

theorem Steady.call (hp : p.Steady down) (hphase : p.Phase r i up down) (hc : p.call = some (p', out)) :
    p'.regs = p.regs ∧ p'.uri = p.uri ∧ p'.registered = p.registered ∧
      (p'.Steady down ∨ p'.calling = .failed ∧ ¬p.Addressed) := by
  obtain ⟨-, -, -, hready⟩ := hphase.calls hc
  obtain ⟨calling, rfl, hcalling⟩ := call_inv hc
  refine ⟨rfl, rfl, rfl, ?_⟩
  have hgoes : calling ≠ .failed → calling ≠ .connect false → p.Addressed →
      calling.undone p.regs = p.calling.undone p.regs → Steady { p with calling } down :=
    fun hgoing hcalled haddressed hundone =>
      { going := hgoing
        quiet := hp.quiet
        addressed := fun _ => haddressed
        untouched := fun hno => absurd hno hcalled
        calls := by
          rw [show ({ p with calling } : Party S Buf).calling.undone _ = _ from hundone]
          exact hp.calls }
  rcases hcalling with rfl | ⟨hcalling, rfl⟩ | ⟨reg, rest, hcalling, rfl⟩ | ⟨hcalling, rfl⟩
  · -- The client of a user that goes on is ready for its call, unless the URI is not one.
    refine Or.inr ⟨rfl, fun haddressed => ?_⟩
    have haddressed' : ¬(p.uri.length < 8 ∨ RouterClient.startsWith p.uri RouterClient.unixPrefix = false) := haddressed
    rcases hready with ⟨hconnect, -⟩ | ⟨rest, hnext, hstate, -⟩
    · simp [Party.call, hconnect, hp.untouched hconnect, haddressed', calls_true] at hc
    · cases rest <;> simp [Party.call, hnext, nextCall, hstate, calls_true] at hc
  · refine Or.inl (hgoes (by simp) (by simp) ?_ (by simp [hcalling, Calling.undone]))
    by_contra haddressed
    have huri : p.uri.length < 8 ∨ RouterClient.startsWith p.uri RouterClient.unixPrefix = false :=
      not_not.mp haddressed
    simp [Party.call, hcalling, huri, calls_false] at hc
  · exact Or.inl (hgoes (by simp) (by simp) (hp.addressed (by simp [hcalling])) (by simp [hcalling, Calling.undone]))
  · exact Or.inl (hgoes (by simp) (by simp) (hp.addressed (by simp [hcalling])) (by simp [hcalling, Calling.undone]))

/-- A user that reads goes on, and what is stored of it stays the same. -/
theorem Steady.reply (hp : p.Steady (msgArr :: down)) (hphase : p.Phase r i up (msgArr :: down))
    (hr : p.reply msgArr = some p') : p'.regs = p.regs ∧ p'.uri = p.uri ∧ p'.Steady down ∧
      p'.stored down = p.stored (msgArr :: down) := by
  have hquiet : ∀ out ∈ down, (getRoot out).getType ≠ .error := fun out hmem => hp.quiet out (List.mem_cons_of_mem _ hmem)
  have hcount : (getRoot msgArr).getType ≠ .ipAck → (msgArr :: down).countP isIpAck = down.countP isIpAck := fun hno =>
    List.countP_cons_of_neg (by simp [isIpAck, hno])
  obtain ⟨made, hmade, hlen⟩ := hp.calls
  cases hphase.takes hr with
  | greeted calling blank stage hup hdown =>
    refine ⟨rfl, rfl, ⟨by cases p.regs <;> simp [nextCall], hquiet, fun _ => hp.addressed (by simp [calling]), ?_, ?_⟩, ?_⟩
    · intro hno
      cases hregs : p.regs <;> simp [hregs, nextCall] at hno
    · refine ⟨made, ?_, hlen⟩
      rw [undone_nextCall]
      simpa [calling, Calling.undone] using hmade
    · simp only [stored]
      rw [hcount (by simp [getType_systemInfoMessage])]
  | acked reg rest id b calling state blank stage hup hdown stored hreg =>
    refine ⟨rfl, rfl, ⟨by cases rest <;> simp [nextCall], hquiet, fun _ => hp.addressed (by simp [calling]), ?_, ?_⟩, ?_⟩
    · intro hno
      cases rest <;> simp [nextCall] at hno
    · refine ⟨made ++ [reg], ?_, by simp [hlen]⟩
      rw [undone_nextCall]
      simpa [calling, Calling.undone] using hmade
    · simp [Party.stored, isIpAck, getType_ackIpInfoMessage]
      omega
  | refused reg rest err =>
    exact absurd (getType_createErrorMessage err) (hp.quiet _ List.mem_cons_self)
  | streams msgArr p' stage hup stream hr =>
    obtain ⟨_, _, _, _, _, calling, _, _, rfl, hack, -, -, hbefore, hafter⟩ := stream.reply_inv hr
    have hnone : p.calling ≠ .connect false ∧ p.calling.undone p.regs = [] := by
      rcases hbefore with hcalling | ⟨loop, hcalling⟩ <;> simp [hcalling, Calling.undone]
    have hnone' : calling ≠ .failed ∧ calling ≠ .connect false ∧ calling.undone p.regs = [] := by
      rcases hafter with ⟨loop, rfl⟩ | ⟨rfl, -⟩ <;> simp [Calling.undone]
    refine ⟨rfl, rfl, ⟨hnone'.1, hquiet, fun _ => hp.addressed hnone.1, fun hno => absurd hno hnone'.2.1, ?_⟩, ?_⟩
    · refine ⟨made, ?_, hlen⟩
      rw [hnone.2] at hmade
      simpa [hnone'.2.2] using hmade
    · simp only [stored]
      rw [hcount hack]

/-- The other clients while `Run` registers the blocks of client `i`. -/
theorem Phase.elsewhere {j : Nat} (hphase : p.Phase r j up down) (hstage : r.stage = .register i) (hji : j ≠ i)
    (hgoing : p.calling ≠ .failed) :
    down = [] ∧ (j < i ∧ p.calling = .commitIp true ∨ i < j ∧ ∃ waiting, p.calling = .connect waiting) := by
  have hne : r.stage ≠ .register j := by simp [hstage, Ne.symm hji]
  have hlive : r.stage ≠ .failed := by simp [hstage]
  have hbefore : r.stage.Before j → i < j := by simp [hstage, Stage.Before]
  have hbetween : r.stage.Between j → j < i := by simp [hstage, Stage.Between]
  have hcommitting : ¬r.stage.Committing := by simp [hstage, Stage.Committing]
  cases hphase with
  | connects calling blank stage hup hdown => exact ⟨hdown, Or.inr ⟨hbefore stage, false, calling⟩⟩
  | greets calling state uri blank stage hup hdown => exact ⟨hdown, Or.inr ⟨hbefore stage, true, calling⟩⟩
  | committed calling state blank stage hup hdown => exact ⟨hdown, Or.inl ⟨hbetween stage, calling⟩⟩
  | failed calling => exact absurd calling hgoing
  | streams stage => exact absurd stage hcommitting
  | unanswered reg rest calling stage => exact absurd stage hlive
  | greeted calling state uri blank stage => exact absurd stage hne
  | idle rest calling state blank stage => exact absurd stage hne
  | registers reg rest calling state blank stage => exact absurd stage hne
  | acked reg rest id calling state blank stage => exact absurd stage hne
  | refused reg rest err calling state stage => exact absurd stage hne
  | commits calling state blank stage => exact absurd stage hne

end Party

section
variable {α : Type} {n i : Nat} {f : Nat → List α}

theorem flatMap_range_split (hi : i < n) : ∃ later : List Nat, (∀ j ∈ later, i < j ∧ j < n) ∧
    (List.range n).flatMap f = (List.range i).flatMap f ++ f i ++ later.flatMap f := by
  obtain ⟨m, rfl⟩ : ∃ m, n = i + 1 + m := ⟨n - (i + 1), by omega⟩
  refine ⟨(List.range m).map (i + 1 + ·), fun j hj => ?_, ?_⟩
  · obtain ⟨k, hk, rfl⟩ := List.mem_map.mp hj
    have hlt := List.mem_range.mp hk
    omega
  · rw [List.range_add, List.flatMap_append, List.range_succ, List.flatMap_append, List.flatMap_singleton]

theorem flatMap_range_of_later (hi : i < n) (hlater : ∀ j < n, i < j → f j = []) :
    (List.range n).flatMap f = (List.range i).flatMap f ++ f i := by
  obtain ⟨later, hmem, heq⟩ := flatMap_range_split (f := f) hi
  have hnil : later.flatMap f = [] := List.flatMap_eq_nil_iff.mpr fun j hj => hlater j (hmem j hj).2 (hmem j hj).1
  rw [heq, hnil, List.append_nil]

end

namespace RouterRun
variable {Buf : Type} [Flatbuffers Buf] {r : RouterRun Buf}

/-- `Run` has not failed, and has no error to write. -/
def Going (r : RouterRun Buf) : Prop :=
  r.stage ≠ .failed ∧ ∀ k rest, r.stage = .commit k rest → ∀ msgArr ∈ rest, (getRoot msgArr).getType ≠ .error

theorem commitMessages_ne_error {infos : List SystemInfo} {ips : List IpInfo} {msgArr : Buf}
    (h : msgArr ∈ Client.commitMessages infos ips) : (getRoot msgArr).getType ≠ .error := by
  simp only [Client.commitMessages, List.mem_cons, List.mem_append, List.mem_map, List.not_mem_nil, or_false] at h
  rcases h with rfl | ⟨si, -, rfl⟩ | rfl | ⟨ip, -, rfl⟩ | rfl
  · simp [getType_ackMessage]
  · simp [getType_systemInfoMessage]
  · simp [getType_ackMessage]
  · simp [getType_ipMessage]
  · simp [getType_ackMessage]

theorem going_commitStage {r' : RouterRun Buf} {i : Nat} (hstage : r'.stage = r.commitStage i) : r'.Going := by
  unfold Going
  rw [hstage, commitStage]
  split_ifs
  · refine ⟨by simp, fun k rest heq msgArr hmem => ?_⟩
    cases heq
    exact commitMessages_ne_error hmem
  · simp

end RouterRun

namespace Handshake
variable {S Buf : Type} [Flatbuffers Buf] {h₀ h h' : Handshake S Buf} {infos : List SystemInfo}

/-- The blocks of client `i` that the router has stored. -/
def filed (h : Handshake S Buf) (i : Nat) : List IpInfo := (h.parties i).blocks.take ((h.parties i).stored (h.toClient i))

/-- Nothing has failed so far, and the router has stored the blocks of one client after the other. -/
structure Orderly (h₀ h : Handshake S Buf) : Prop where
  clients : h.router.router.clients.length = h₀.router.router.clients.length
  users : ∀ i, (h.parties i).regs = (h₀.parties i).regs ∧ (h.parties i).uri = (h₀.parties i).uri
  going : h.router.Going
  steady : ∀ i < h.router.router.clients.length, (h.parties i).Steady (h.toClient i)
  filed : h.router.router.ips.map IpInfo.request = (List.range h.router.router.clients.length).flatMap h.filed
  apart : h.router.router.ips.Pairwise fun a b => overlaps b a = false

theorem Fresh.orderly (hf : h.Fresh) : Orderly h h where
  clients := rfl
  users _ := ⟨rfl, rfl⟩
  going := by simp [RouterRun.Going, hf.router.stage]
  steady i _ :=
    { going := by simp [hf.calling]
      quiet := by simp [hf.toClient]
      addressed := fun hno => absurd (hf.calling i) hno
      untouched := fun _ => by rw [hf.bridges]
      calls := ⟨[], by simp [hf.calling, Calling.undone], by simp [hf.logs]⟩ }
  filed := by
    rw [hf.router.router.ips]
    exact (List.flatMap_eq_nil_iff.mpr fun i _ => by simp [Handshake.filed, Party.stored, hf.logs, hf.toClient]).symm
  apart := by simp [hf.router.router.ips]

theorem Orderly.blocks (ho : Orderly h₀ h) (i : Nat) : (h.parties i).blocks = (h₀.parties i).blocks := by
  unfold Party.blocks
  rw [(ho.users i).1]

/-- All blocks of a client that has made its registrations are stored. -/
theorem Orderly.filed_all (ho : Orderly h₀ h) {i : Nat} (hi : i < h.router.router.clients.length)
    (hundone : (h.parties i).calling.undone (h.parties i).regs = []) (hdown : h.toClient i = []) :
    h.filed i = (h₀.parties i).blocks := by
  obtain ⟨made, hmade, hlen⟩ := (ho.steady i hi).calls
  rw [hundone, List.append_nil] at hmade
  rw [← ho.blocks i, Handshake.filed, Party.stored, hdown, hlen, ← hmade]
  exact List.take_of_length_le (by simp [Party.blocks])

/-- No block is stored of a client that `Run` has not greeted. -/
theorem Orderly.filed_none (ho : Orderly h₀ h) {i : Nat} (hi : i < h.router.router.clients.length) {waiting : Bool}
    (hcalling : (h.parties i).calling = .connect waiting) (hdown : h.toClient i = []) : h.filed i = [] := by
  obtain ⟨made, hmade, hlen⟩ := (ho.steady i hi).calls
  have hnil : made = [] := by simpa [hcalling, Calling.undone] using hmade
  rw [Handshake.filed, Party.stored, hdown, hlen, hnil]
  rfl

variable {i : Nat} {reg : Registration S} {rest : List (Registration S)}

/-- Nothing is stored of the clients that come after the one that `Run` registers the blocks of. -/
theorem Orderly.later (ho : Orderly h₀ h) (hI : h.Inv infos) (hstage : h.router.stage = .register i) :
    ∀ j < h.router.router.clients.length, i < j → h.filed j = [] := by
  intro j hj hij
  obtain ⟨hnone, ⟨hearlier, -⟩ | ⟨-, waiting, hconnect⟩⟩ :=
    (hI.phases j hj).elsewhere hstage (by omega) (ho.steady j hj).going
  · omega
  · exact ho.filed_none hj hconnect hnone

/-- What is stored when `Run` gets the next block of client `i`. -/
theorem Orderly.registering (ho : Orderly h₀ h) (hi : i < h.router.router.clients.length)
    (hcalling : (h.parties i).calling = .register reg rest true) (hdown : h.toClient i = []) :
    ∃ made, (h.parties i).regs = made ++ reg :: rest ∧ (h.parties i).registered.length = made.length ∧
      h.filed i = made.map fun reg => receivedIp reg.config 0 := by
  obtain ⟨made, hmade, hlen⟩ := (ho.steady i hi).calls
  simp only [hcalling, Calling.undone] at hmade
  refine ⟨made, hmade, hlen, ?_⟩
  rw [Handshake.filed, Party.stored, hdown, hlen, Party.blocks, hmade, List.map_append]
  exact List.take_left' (by simp)

theorem Orderly.ips_register (ho : Orderly h₀ h) (hI : h.Inv infos) (hi : i < h.router.router.clients.length)
    (hstage : h.router.stage = .register i) :
    h.router.router.ips.map IpInfo.request = (List.range i).flatMap (fun j => (h₀.parties j).blocks) ++ h.filed i := by
  rw [ho.filed, flatMap_range_of_later hi (ho.later hI hstage)]
  congr 1
  refine List.flatMap_congr fun j hj => ?_
  have hji := List.mem_range.mp hj
  obtain ⟨hnone, ⟨-, hcommit⟩ | ⟨hlater, -⟩⟩ :=
    (hI.phases j (by omega)).elsewhere hstage (by omega) (ho.steady j (by omega)).going
  · exact ho.filed_all (by omega) (by simp [hcommit, Calling.undone]) hnone
  · omega

/-- An acceptable block fits behind what is stored. -/
theorem Orderly.fits (ho : Orderly h₀ h) (hI : h.Inv infos) (hi : i < h.router.router.clients.length)
    (hstage : h.router.stage = .register i) (hcalling : (h.parties i).calling = .register reg rest true)
    (hdown : h.toClient i = []) (hacceptable : h₀.Acceptable) :
    (∀ b ∈ h.router.router.ips, overlaps (receivedIp reg.config 0) b = false) ∧
      h.router.router.ips.length < maxSliceLength := by
  obtain ⟨made, hmade, -, hfiled⟩ := ho.registering hi hcalling hdown
  have hips := ho.ips_register hI hi hstage
  rw [hfiled] at hips
  obtain ⟨later, -, hsplit⟩ := flatMap_range_split (f := fun j => (h₀.parties j).blocks) hi
  have hrequests : h₀.requests = h.router.router.ips.map IpInfo.request ++
      (receivedIp reg.config 0 :: (rest.map (fun reg => receivedIp reg.config 0) ++
        later.flatMap fun j => (h₀.parties j).blocks)) := by
    rw [Handshake.requests, ← ho.clients, hsplit, hips, ← ho.blocks i, Party.blocks, hmade]
    simp
  constructor
  · intro b hb
    have hapart := hacceptable.apart
    rw [hrequests] at hapart
    exact (List.pairwise_append.mp hapart).2.2 b.request (List.mem_map_of_mem hb) _ List.mem_cons_self
  · have hfew := hacceptable.few
    rw [hrequests] at hfew
    simp only [List.length_append, List.length_map, List.length_cons] at hfew
    omega

/-- `Run` writes to client `i`, having stored nothing. -/
theorem Orderly.answered (ho : Orderly h₀ h) {i : Nat} {r' : RouterRun Buf}
    {replies rest : List Buf} (hlen : r'.router.clients.length = h.router.router.clients.length)
    (hips : r'.router.ips = h.router.router.ips) (hgoing : r'.Going)
    (hreplies : ∀ reply ∈ replies, (getRoot reply).getType ≠ .error ∧ (getRoot reply).getType ≠ .ipAck) :
    Orderly h₀ { h with
      router := r'
      toRouter := Function.update h.toRouter i rest
      toClient := Function.update h.toClient i (h.toClient i ++ replies) } where
  clients := hlen.trans ho.clients
  users := ho.users
  going := hgoing
  steady j hj := by
    have hsteady := ho.steady j (hlen ▸ hj)
    by_cases hji : j = i
    · subst hji
      refine { hsteady with quiet := fun out hmem => ?_ }
      rcases List.mem_append.mp (by simpa using hmem) with hmem | hmem
      · exact hsteady.quiet out hmem
      · exact (hreplies out hmem).1
    · simpa [hji] using hsteady
  filed := by
    have hsame : ∀ j, Handshake.filed { h with
        router := r'
        toRouter := Function.update h.toRouter i rest
        toClient := Function.update h.toClient i (h.toClient i ++ replies) } j = h.filed j := by
      intro j
      by_cases hji : j = i
      · subst hji
        have hno : ∀ reply ∈ replies, isIpAck reply = false := fun reply hmem => by
          simp [isIpAck, (hreplies reply hmem).2]
        have hcount : replies.countP isIpAck = 0 := List.countP_eq_zero.mpr fun reply hmem => by simp [hno reply hmem]
        simp [Handshake.filed, Party.stored, hcount]
      · simp [Handshake.filed, hji]
    rw [hips, hlen, ho.filed]
    exact List.flatMap_congr fun j _ => (hsame j).symm
  apart := by
    rw [hips]
    exact ho.apart

/-- `Run` stores the next block of client `i`, and acknowledges it. -/
theorem Orderly.stores (ho : Orderly h₀ h) (hI : h.Inv infos) (hi : i < h.router.router.clients.length)
    (hstage : h.router.stage = .register i) (hcalling : (h.parties i).calling = .register reg rest true)
    (hdown : h.toClient i = []) {r' : RouterRun Buf} {up : List Buf} {id : UInt64}
    (hlen : r'.router.clients.length = h.router.router.clients.length)
    (hips : r'.router.ips = h.router.router.ips ++ [{ receivedIp reg.config 0 with id }]) (hgoing : r'.Going)
    (hfree : ∀ b ∈ h.router.router.ips, overlaps (receivedIp reg.config 0) b = false) :
    Orderly h₀ { h with
      router := r'
      toRouter := Function.update h.toRouter i up
      toClient := Function.update h.toClient i (h.toClient i ++ [Client.ackIpInfoMessage id]) } where
  clients := hlen.trans ho.clients
  users := ho.users
  going := hgoing
  steady j hj := by
    have hsteady := ho.steady j (hlen ▸ hj)
    by_cases hji : j = i
    · subst hji
      refine { hsteady with quiet := fun out hmem => ?_ }
      obtain rfl : out = Client.ackIpInfoMessage id := by simpa [hdown] using hmem
      simp [getType_ackIpInfoMessage]
    · simpa [hji] using hsteady
  filed := by
    obtain ⟨made, hmade, hcount, hfiled⟩ := ho.registering hi hcalling hdown
    let h' : Handshake S Buf := { h with
      router := r'
      toRouter := Function.update h.toRouter i up
      toClient := Function.update h.toClient i (h.toClient i ++ [Client.ackIpInfoMessage id]) }
    have hothers : ∀ j, j ≠ i → h'.filed j = h.filed j := fun j hji => by simp [h', Handshake.filed, hji]
    have hnext : h'.filed i = h.filed i ++ [receivedIp reg.config 0] := by
      rw [hfiled]
      simp only [h', Handshake.filed, Party.stored, Function.update_self, hdown, hcount, Party.blocks, hmade, List.nil_append]
      rw [show List.countP isIpAck [(Client.ackIpInfoMessage id : Buf)] = 1 by simp [isIpAck, getType_ackIpInfoMessage],
        show made ++ reg :: rest = (made ++ [reg]) ++ rest by simp, List.map_append,
        List.take_left' (by simp), List.map_append]
      rfl
    have hlater : ∀ j < h.router.router.clients.length, i < j → h'.filed j = [] := fun j hj hij => by
      rw [hothers j (by omega)]
      exact ho.later hI hstage j hj hij
    have hearlier : (List.range i).flatMap h'.filed = (List.range i).flatMap h.filed :=
      List.flatMap_congr fun j hj => hothers j (by
        have hji := List.mem_range.mp hj
        omega)
    have hold := ho.filed
    rw [flatMap_range_of_later hi (ho.later hI hstage)] at hold
    rw [hips, hlen]
    change List.map IpInfo.request _ = (List.range h.router.router.clients.length).flatMap h'.filed
    rw [flatMap_range_of_later hi hlater, hearlier, hnext, List.map_append, hold, List.append_assoc]
    rfl
  apart := by
    rw [hips]
    refine List.pairwise_append.mpr ⟨ho.apart, List.pairwise_singleton _ _, fun b hb ip hip => ?_⟩
    rw [List.mem_singleton.mp hip]
    exact hfree b hb

/-- A user goes on. -/
theorem Orderly.party (ho : Orderly h₀ h) {p : Party S Buf} {up down : List Buf} (hregs : p.regs = (h.parties i).regs)
    (huri : p.uri = (h.parties i).uri) (hsteady : p.Steady down)
    (hstored : p.stored down = (h.parties i).stored (h.toClient i)) :
    Orderly h₀ { h with
      parties := Function.update h.parties i p
      toRouter := Function.update h.toRouter i up
      toClient := Function.update h.toClient i down } where
  clients := ho.clients
  users j := by
    by_cases hji : j = i
    · subst hji
      simpa [hregs, huri] using ho.users j
    · simpa [hji] using ho.users j
  going := ho.going
  steady j hj := by
    by_cases hji : j = i
    · subst hji
      simpa using hsteady
    · simpa [hji] using ho.steady j hj
  filed := by
    rw [ho.filed]
    refine List.flatMap_congr fun j _ => ?_
    by_cases hji : j = i
    · subst hji
      simp [Handshake.filed, Party.blocks, hregs, hstored]
    · simp [Handshake.filed, hji]
  apart := ho.apart

theorem Orderly.routerReceives (ho : Orderly h₀ h) (hI : h.Inv infos) (hs : h.routerReceives = some h') :
    Orderly h₀ h' ∨ h'.Broken ∧ ¬h₀.Acceptable := by
  obtain ⟨i, hreading, hs⟩ := Option.bind_eq_some_iff.mp hs
  split at hs
  · cases hs
  · rename_i msgArr rest hup
    obtain ⟨⟨r', replies⟩, hr, rfl⟩ := Option.map_eq_some_iff.mp hs
    have hi := hI.reading_lt hreading
    have hc := List.getElem?_eq_getElem hi
    have hid : h.router.router.clients[i].id = 0 := hI.sound.ids _ (List.getElem_mem hi)
    obtain ⟨-, hdown, -, hmsg⟩ := hI.reads hreading hup
    rcases hmsg with ⟨hstage, rfl, -⟩ | ⟨reg, more, hstage, rfl, calling, -⟩ | ⟨hstage, rfl, -⟩
    · rw [RouterRun.receive_systemInfo _ hstage hc] at hr
      obtain ⟨rfl, rfl⟩ := Prod.mk.inj (Option.some.inj hr)
      exact Or.inl (ho.answered (by simp) rfl (by simp [RouterRun.Going]) (by simp [getType_systemInfoMessage]))
    · rw [RouterRun.receive_ipInfo _ hstage hc, hid] at hr
      by_cases hfits : (∀ b ∈ h.router.router.ips, overlaps (receivedIp reg.config 0) b = false) ∧
          h.router.router.ips.length < maxSliceLength
      · have hstored := Router.registerIp_of_free hfits.1 hfits.2 (show (0 : UInt64).toNat < _ from by
          have hpos : 0 < h.router.router.clients.length := by omega
          simpa using hpos)
        simp only [RouterRun.registerIp, hstored, Option.some.injEq, Prod.mk.injEq] at hr
        obtain ⟨rfl, rfl⟩ := hr
        exact Or.inl (ho.stores hI hi hstage calling hdown (by simp) (by simp) (by simp [RouterRun.Going, hstage]) hfits.1)
      · refine Or.inr ⟨?_, fun hacceptable => hfits (ho.fits hI hi hstage calling hdown hacceptable)⟩
        unfold RouterRun.registerIp at hr
        split at hr
        · obtain ⟨rfl, rfl⟩ := Prod.mk.inj (Option.some.inj hr)
          exact Or.inl rfl
        · rename_i router err hres
          obtain ⟨rfl, rfl⟩ := Prod.mk.inj (Option.some.inj hr)
          have hlen : router.clients.length = h.router.router.clients.length := by
            rcases Router.registerIp_inv hres with ⟨b, -, -, rfl, -⟩ | ⟨-, -, -, rfl, -⟩ <;> simp
          exact Or.inr ⟨i, hlen.symm ▸ hi, Or.inr ⟨_, by simp, getType_createErrorMessage err⟩⟩
        · rename_i router id hres
          rcases Router.registerIp_inv hres with ⟨b, -, -, -, hno⟩ | ⟨hfree, hfew, -⟩
          · cases hno
          · exact absurd ⟨hfree, hfew⟩ hfits
    · rw [RouterRun.receive_commit hstage hc] at hr
      obtain ⟨rfl, rfl⟩ := Prod.mk.inj (Option.some.inj hr)
      refine Or.inl (ho.answered rfl rfl ?_ (by simp))
      by_cases hlast : i + 1 < h.router.router.clients.length
      · simp [RouterRun.Going, hlast]
      · exact RouterRun.going_commitStage (if_neg hlast)

theorem Orderly.step (ho : Orderly h₀ h) (hI : h.Inv infos) (hrolled : h.Rolled) {e : Event} (hs : h.step e = some h') :
    Orderly h₀ h' ∨ h'.Broken ∧ ¬h₀.Acceptable := by
  cases e with
  | routerReceives => exact ho.routerReceives hI hs
  | routerWrites =>
    obtain ⟨⟨r', k, msgArr⟩, hw, rfl⟩ := Option.map_eq_some_iff.mp hs
    obtain ⟨-, -, hack⟩ := hrolled.tallied.write hw
    obtain ⟨rest, hstage, rfl⟩ := write_cases hw
    have hgoes : Orderly h₀ { h with
        router := { h.router with stage := if rest = [] then h.router.commitStage (k + 1) else .commit k rest }
        toRouter := Function.update h.toRouter k (h.toRouter k)
        toClient := Function.update h.toClient k (h.toClient k ++ [msgArr]) } := ho.answered rfl rfl ?_ ?_
    · rw [Function.update_eq_self k h.toRouter] at hgoes
      exact Or.inl hgoes
    · by_cases hnil : rest = []
      · exact RouterRun.going_commitStage (if_pos hnil)
      · refine ⟨by simp [hnil], fun k' rest' heq reply hmem => ?_⟩
        simp only [hnil, if_false, Stage.commit.injEq] at heq
        obtain ⟨-, rfl⟩ := heq
        exact ho.going.2 k _ hstage reply (List.mem_cons_of_mem _ hmem)
    · intro reply hmem
      rw [List.mem_singleton.mp hmem]
      exact ⟨ho.going.2 k _ hstage _ List.mem_cons_self, hack⟩
  | partyCalls i =>
    simp only [Handshake.step] at hs
    split at hs
    · rename_i hi
      obtain ⟨⟨p, out⟩, hc, rfl⟩ := Option.map_eq_some_iff.mp hs
      obtain ⟨hregs, huri, hregistered, hsteady | ⟨hfailed, hno⟩⟩ := (ho.steady i hi).call (hI.phases i hi) hc
      · have hgoes : Orderly h₀ { h with
            parties := Function.update h.parties i p
            toRouter := Function.update h.toRouter i (h.toRouter i ++ out)
            toClient := Function.update h.toClient i (h.toClient i) } :=
          ho.party hregs huri hsteady (by simp [Party.stored, hregistered])
        rw [Function.update_eq_self i h.toClient] at hgoes
        exact Or.inl hgoes
      · refine Or.inr ⟨Or.inr ⟨i, hi, Or.inl (by simpa using hfailed)⟩, fun hacceptable => hno ?_⟩
        have haddressed := hacceptable.uris i (ho.clients ▸ hi)
        unfold Party.Addressed at *
        rwa [(ho.users i).2]
    · cases hs
  | partyReads i =>
    simp only [Handshake.step] at hs
    split at hs
    · rename_i hi
      unfold Handshake.partyReads at hs
      split at hs
      · cases hs
      · rename_i msgArr rest hdown
        obtain ⟨p, hr, rfl⟩ := Option.map_eq_some_iff.mp hs
        have hphase := hI.phases i hi
        have hsteady := ho.steady i hi
        rw [hdown] at hphase hsteady
        obtain ⟨hregs, huri, hsteady', hstored⟩ := hsteady.reply hphase hr
        have hgoes : Orderly h₀ { h with
            parties := Function.update h.parties i p
            toRouter := Function.update h.toRouter i (h.toRouter i)
            toClient := Function.update h.toClient i rest } := ho.party hregs huri hsteady' (by rw [hstored, hdown])
        rw [Function.update_eq_self i h.toRouter] at hgoes
        exact Or.inl hgoes
    · cases hs

/-- What has failed stays so. -/
theorem Broken.step (hb : h.Broken) (hI : h.Inv infos) {e : Event} (hs : h.step e = some h') : h'.Broken := by
  rcases hb with hstage | ⟨i, hi, he⟩
  · left
    cases e with
    | routerReceives => simp [Handshake.step, Handshake.routerReceives, reading, hstage] at hs
    | routerWrites => simp [Handshake.step, Handshake.routerWrites, RouterRun.write, hstage] at hs
    | partyCalls i =>
      simp only [Handshake.step] at hs
      split at hs
      · obtain ⟨-, -, rfl⟩ := Option.map_eq_some_iff.mp hs
        exact hstage
      · cases hs
    | partyReads i =>
      simp only [Handshake.step] at hs
      split at hs
      · unfold Handshake.partyReads at hs
        split at hs
        · cases hs
        · obtain ⟨-, -, rfl⟩ := Option.map_eq_some_iff.mp hs
          exact hstage
      · cases hs
  · refine Or.inr ⟨i, ?_, he.step hI hs⟩
    rw [← (hI.step hs).length, hI.length]
    exact hi

/-- A user that waits for a message takes the next one. -/
theorem Settled.reads (hsettled : h.Settled) {i : Nat} (hi : i < h.router.router.clients.length)
    (hwaiting : ∀ msgArr, (h.parties i).reply msgArr ≠ none) : h.toClient i = [] := by
  by_contra hne
  obtain ⟨msgArr, rest, hdown⟩ := List.exists_cons_of_ne_nil hne
  have hnone := hsettled (.partyReads i)
  simp only [Handshake.step, if_pos hi, Handshake.partyReads, hdown, Option.map_eq_none_iff] at hnone
  exact hwaiting msgArr hnone

theorem Settled.calls (hsettled : h.Settled) {i : Nat} (hi : i < h.router.router.clients.length) :
    (h.parties i).call = none := by
  have hnone := hsettled (.partyCalls i)
  simpa [Handshake.step, hi, Handshake.partyCalls] using hnone

theorem Settled.receives (hsettled : h.Settled) {i : Nat} (hreading : h.reading = some i) : h.toRouter i = [] := by
  by_contra hne
  obtain ⟨msgArr, rest, hup⟩ := List.exists_cons_of_ne_nil hne
  have hnone := hsettled .routerReceives
  simp only [Handshake.step, Handshake.routerReceives, hreading, Option.bind_some, hup, Option.map_eq_none_iff] at hnone
  rcases reading_eq_some hreading with hstage | hstage <;> simp [RouterRun.receive, hstage] at hnone

/-- The client that `Run` reads from has a step left. -/
theorem Orderly.reading_none (ho : Orderly h₀ h) (hI : h.Inv infos) (hsettled : h.Settled) : h.reading = none := by
  cases hreading : h.reading with
  | none => rfl
  | some i =>
    exfalso
    have hi := hI.reading_lt hreading
    have hgoing := (ho.steady i hi).going
    have hcall := hsettled.calls hi
    have hup := hsettled.receives hreading
    have hdown := hsettled.reads hi
    have hstage := reading_eq_some hreading
    cases hI.phases i hi with
    | connects calling => simp [Party.call, calling] at hcall
    | greets calling state uri blank stage hup' => simp [hup] at hup'
    | greeted calling state uri blank stage hup' hdown' => simp [hdown (by simp [Party.reply, calling])] at hdown'
    | idle rest calling => cases rest <;> simp [Party.call, calling, Party.nextCall] at hcall
    | registers reg rest calling state blank stage hup' => simp [hup] at hup'
    | acked reg rest id calling state blank stage hup' hdown' =>
      simp [hdown (by simp [Party.reply, calling])] at hdown'
    | refused reg rest err calling state stage hup' hdown' => simp [hdown (by simp [Party.reply, calling])] at hdown'
    | unanswered reg rest calling stage => rcases hstage with hstage | hstage <;> simp [hstage] at stage
    | commits calling state blank stage hup' => simp [hup] at hup'
    | committed calling state blank stage =>
      rcases hstage with hstage | hstage <;> simp [hstage, Stage.Between] at stage
    | streams stage => rcases hstage with hstage | hstage <;> simp [hstage, Stage.Committing] at stage
    | failed calling => exact hgoing calling

/-- A user whose commit has been written has a message left, until it is started. -/
theorem Orderly.started (ho : Orderly h₀ h) (hI : h.Inv infos) (hsettled : h.Settled) (hstage : h.router.stage = .serve)
    {i : Nat} (hi : i < h.router.router.clients.length) : (h.parties i).calling = .started := by
  have hgoing := (ho.steady i hi).going
  have hdown := hsettled.reads hi
  have hunwritten : h.router.unwritten i = [] := by simp [RouterRun.unwritten, hstage]
  have hstart : ∀ {loop}, (h.parties i).calling = .start loop → ∀ msgArr, (h.parties i).reply msgArr ≠ none := by
    intro loop hcalling msgArr
    simp only [Party.reply, hcalling]
    split <;> simp
  cases hI.phases i hi with
  | streams stage hup stream =>
    rw [hunwritten, List.append_nil] at stream
    cases stream with
    | commitIp calling state blank hleft =>
      rw [hdown (by simp [Party.reply, calling])] at hleft
      cases hleft
    | peers todo calling state peers ipBlocks peerLog ipLog hleft =>
      rw [hdown (hstart calling)] at hleft
      simp at hleft
    | ips taken todo calling state peers peerLog hips ipBlocks ipLog hleft =>
      rw [hdown (hstart calling)] at hleft
      simp at hleft
    | started calling => exact calling
  | failed calling => exact absurd calling hgoing
  | connects calling blank stage => simp [hstage, Stage.Before] at stage
  | greets calling state uri blank stage => simp [hstage, Stage.Before] at stage
  | greeted calling state uri blank stage => simp [hstage] at stage
  | idle rest calling state blank stage => simp [hstage] at stage
  | registers reg rest calling state blank stage => simp [hstage] at stage
  | acked reg rest id calling state blank stage => simp [hstage] at stage
  | refused reg rest err calling state stage => simp [hstage] at stage
  | unanswered reg rest calling stage => simp [hstage] at stage
  | commits calling state blank stage => simp [hstage] at stage
  | committed calling state blank stage => simp [hstage, Stage.Between] at stage

/-- A handshake in which nothing has failed has a step left, until all users are started. -/
theorem Orderly.complete (ho : Orderly h₀ h) (hI : h.Inv infos) (hsettled : h.Settled) : h.Complete := by
  have hreading := ho.reading_none hI hsettled
  have hcollected := hI.collected
  intro i hi
  cases hstage : h.router.stage with
  | serve => exact ho.started hI hsettled hstage hi
  | hello k => simp [reading, hstage] at hreading
  | register k => simp [reading, hstage] at hreading
  | commit k rest =>
    simp only [RouterRun.Collected, hstage] at hcollected
    obtain ⟨msgArr, rest', rfl⟩ := List.exists_cons_of_ne_nil hcollected.2.1
    have hnone := hsettled .routerWrites
    cases rest' <;> simp [Handshake.step, Handshake.routerWrites, RouterRun.write, hstage] at hnone
  | routed => simp [RouterRun.Collected, hstage] at hcollected
  | failed => exact absurd hstage ho.going.1

/-- All the blocks are stored once the users are started, and there was nothing to refuse. -/
theorem Orderly.acceptable (ho : Orderly h₀ h) (hI : h.Inv infos) (hcomplete : h.Complete) :
    h₀.Acceptable ∧ h.router.router.ips.map IpInfo.request = h₀.requests := by
  have hall : h.router.router.ips.map IpInfo.request = h₀.requests := by
    rw [ho.filed, Handshake.requests, ← ho.clients]
    refine List.flatMap_congr fun i hi => ?_
    have hi := List.mem_range.mp hi
    obtain ⟨-, -, hdown, -⟩ := hI.started hi (hcomplete i hi)
    exact ho.filed_all hi (by simp [hcomplete i hi, Calling.undone]) hdown
  refine ⟨⟨fun i hi => ?_, ?_, ?_⟩, hall⟩
  · have hi : i < h.router.router.clients.length := ho.clients ▸ hi
    have haddressed := (ho.steady i hi).addressed (by simp [hcomplete i hi])
    unfold Party.Addressed at *
    rwa [← (ho.users i).2]
  · rw [← hall]
    exact List.pairwise_map.mpr ho.apart
  · rw [← hall, List.length_map]
    exact hI.sound.kept.bound

theorem Fresh.run_orderly {h₀ : Handshake S Buf} (hf : h₀.Fresh) {es : List Event} (hr : run Handshake.step h₀ es = some h) :
    h.Inv h₀.infos ∧ (Orderly h₀ h ∨ h.Broken ∧ ¬h₀.Acceptable) := by
  have keep : ∀ (h : Handshake S Buf) e h', (h.Inv h₀.infos ∧ h.Rolled ∧ (Orderly h₀ h ∨ h.Broken ∧ ¬h₀.Acceptable)) →
      h.step e = some h' → h'.Inv h₀.infos ∧ h'.Rolled ∧ (Orderly h₀ h' ∨ h'.Broken ∧ ¬h₀.Acceptable) := by
    rintro h e h' ⟨hI, hrolled, ho⟩ hs
    refine ⟨hI.step hs, hrolled.step hI hs, ?_⟩
    rcases ho with ho | ⟨hbroken, hno⟩
    · exact ho.step hI hrolled hs
    · exact Or.inr ⟨hbroken.step hI hs, hno⟩
  obtain ⟨hI, -, ho⟩ := run_invariant keep ⟨hf.inv, hf.rolled, Or.inl hf.orderly⟩ hr
  exact ⟨hI, ho⟩

theorem Fresh.effort (hf : h.Fresh) : h.effort h.infos.length =
    (h.requests.length + 2 * h.infos.length) * (2 * h.infos.length + 3) + 2 * (h.infos.length * (h.infos.length + 3)) := by
  have hlen : h.infos.length = h.router.router.clients.length := hf.inv.length
  have hcalls : total h.infos.length Party.callsLeft h.parties = h.requests.length + 2 * h.infos.length := by
    have hblocks : h.requests.length = total h.infos.length (fun p => p.regs.length) h.parties := by
      rw [Handshake.requests, length_flatMap_range, ← hlen]
      exact Finset.sum_congr rfl fun i _ => by simp [Party.blocks]
    rw [hblocks]
    unfold total
    rw [Finset.sum_congr rfl fun i _ => show (h.parties i).callsLeft = (h.parties i).regs.length + 2 by
      simp [Party.callsLeft, hf.calling], Finset.sum_add_distrib]
    simp [Nat.mul_comm]
  have hup : total h.infos.length List.length h.toRouter = 0 := total_eq_zero fun i _ => by simp [hf.toRouter]
  have hdown : total h.infos.length List.length h.toClient = 0 := total_eq_zero fun i _ => by simp [hf.toClient]
  simp only [Handshake.effort, hcalls, hup, hdown, RouterRun.writesLeft, hf.router.stage, hf.router.router.ips,
    List.length_nil, Nat.add_zero, Nat.zero_mul]

/-- Whatever the order of their steps, the router and its clients end the handshake after a number of steps that the
    number of clients and blocks bounds. When it has ended, `start` has returned with success for all users exactly
    when the router can take all that they ask for, and then the router has their blocks, client after client. -/
theorem handshake_outcome {h₀ h : Handshake S Buf} (hf : h₀.Fresh) {es : List Event}
    (hr : run Handshake.step h₀ es = some h) :
    es.length ≤ (h₀.requests.length + 2 * h₀.infos.length) * (2 * h₀.infos.length + 3) +
        2 * (h₀.infos.length * (h₀.infos.length + 3)) ∧
      (h.Settled → (h.Complete ↔ h₀.Acceptable)) ∧
      (h.Complete → h.router.router.ips.map IpInfo.request = h₀.requests) := by
  obtain ⟨hI, ho⟩ := hf.run_orderly hr
  have hstarted : h.Complete → Orderly h₀ h := by
    intro hcomplete
    rcases ho with ho | ⟨hstage | ⟨i, hi, he⟩, -⟩
    · exact ho
    · obtain ⟨hserve, -⟩ := handshake_agreement hf hr hcomplete
      rw [hserve] at hstage
      cases hstage
    · obtain ⟨-, -, hdown, -⟩ := hI.started hi (hcomplete i hi)
      rcases he with hfailed | ⟨msgArr, hmem, -⟩
      · rw [hcomplete i hi] at hfailed
        cases hfailed
      · rw [hdown] at hmem
        cases hmem
  refine ⟨?_, fun hsettled => ⟨fun hcomplete => ?_, fun hacceptable => ?_⟩, fun hcomplete => ?_⟩
  · rw [← hf.effort]
    exact run_length_le (I := Inv h₀.infos) (fun _ _ _ hI hs => hI.step hs) (fun _ _ _ hI hs => effort_step hI hs) hf.inv hr
  · exact ((hstarted hcomplete).acceptable hI hcomplete).1
  · rcases ho with ho | ⟨-, hno⟩
    · exact ho.complete hI hsettled
    · exact absurd hacceptable hno
  · exact ((hstarted hcomplete).acceptable hI hcomplete).2

theorem handshake_outcome_slaveAndMaster :
    ∃ h, run Handshake.step slaveAndMaster untilStarted = some h ∧ slaveAndMaster.Acceptable ∧ h.Complete ∧
      h.router.router.ips.map IpInfo.request = slaveAndMaster.requests := by
  have hrun : ∃ h, run Handshake.step slaveAndMaster untilStarted = some h ∧ h.router.router.clients.length = 1 ∧
      (h.parties 0).calling = .started := ⟨_, rfl, rfl, rfl⟩
  obtain ⟨h, hr, hlen, hstarted⟩ := hrun
  have hcomplete : h.Complete := by
    intro i hi
    obtain rfl : i = 0 := by omega
    exact hstarted
  exact ⟨h, hr, by decide, hcomplete, (handshake_outcome slaveAndMaster_fresh hr).2.2 hcomplete⟩

end Handshake

end SwAxi
