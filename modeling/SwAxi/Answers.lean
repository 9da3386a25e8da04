import SwAxi.Turn

/-! The loop of `route` on the transactions of any clients: each message that it takes is answered or passed
    on by one message, and the answers keep the count of the requests. -/

namespace SwAxi
open Wire (Flatbuffers)
open Wire.Flatbuffers (getRoot finish mutateTarget)
open Transition

/-! ### Transactions on the wire -/

namespace Wire

def TransactionType.isRequest : TransactionType → Bool
  | .readReq | .writeReq => true
  | .readResp | .writeResp | .other _ => false

def TransactionType.isResponse : TransactionType → Bool
  | .readResp | .writeResp => true
  | .readReq | .writeReq | .other _ => false

/-- The type of the response to a request. -/
def TransactionType.response : TransactionType → TransactionType
  | .readReq => .readResp
  | .writeReq => .writeResp
  | .readResp => .readResp
  | .writeResp => .writeResp
  | .other code => .other code

/-- Whose request a transaction is or answers. -/
def Transaction.key (t : Transaction) : UInt64 × UInt64 := (t.getInitiator, t.getId)

end Wire

section
variable {Buf : Type} [Flatbuffers Buf]

/-- The transaction that a message carries. -/
def carried (msgArr : Buf) : Option Wire.Transaction :=
  if (getRoot msgArr).getType = .transaction then (getRoot msgArr).txn else none

def requestKey (msgArr : Buf) : Option (UInt64 × UInt64) :=
  ((carried msgArr).filter fun t => t.getType.isRequest).map Wire.Transaction.key

def responseKey (msgArr : Buf) : Option (UInt64 × UInt64) :=
  ((carried msgArr).filter fun t => t.getType.isResponse).map Wire.Transaction.key

theorem carried_eq_some_iff {msgArr : Buf} {t : Wire.Transaction} :
    carried msgArr = some t ↔ (getRoot msgArr).getType = .transaction ∧ (getRoot msgArr).txn = some t := by
  unfold carried
  split <;> simp [*]

theorem requestKey_of_carried {msgArr : Buf} {t : Wire.Transaction} (h : carried msgArr = some t) :
    requestKey msgArr = if t.getType.isRequest then some t.key else none := by
  unfold requestKey
  rw [h]
  cases ht : t.getType.isRequest <;> simp [Option.filter, ht]

theorem responseKey_of_carried {msgArr : Buf} {t : Wire.Transaction} (h : carried msgArr = some t) :
    responseKey msgArr = if t.getType.isResponse then some t.key else none := by
  unfold responseKey
  rw [h]
  cases ht : t.getType.isResponse <;> simp [Option.filter, ht]

theorem carried_mutateTarget {msgArr : Buf} {t : Wire.Transaction} (h : carried msgArr = some t) (target : UInt64) :
    carried (mutateTarget msgArr target) = some (t.mutateTarget target) := by
  obtain ⟨htype, htxn⟩ := carried_eq_some_iff.mp h
  refine carried_eq_some_iff.mpr ⟨?_, ?_⟩
  · rw [Flatbuffers.getRoot_mutateTarget, Wire.Message.getType_mutateTarget, htype]
  · rw [Flatbuffers.getRoot_mutateTarget, Wire.Message.mutateTarget_txn, htxn, Option.map_some]

/-- The response of the router to a request of type `typ` that it refuses. -/
structure Refusal (initiator id : UInt64) (typ : Wire.TransactionType) (err : String) (t : Wire.Transaction) : Prop where
  type : t.getType = typ.response
  initiator : t.getInitiator = initiator
  id : t.getId = id
  ok : t.getOk = false
  message : t.message = some err

theorem carried_createErrorTxn {typ : Wire.TransactionType} (hreq : typ.isRequest = true) (initiator id : UInt64)
    (err : String) :
    ∃ t, carried (createErrorTxn initiator id typ err : Buf) = some t ∧ Refusal initiator id typ err t := by
  have htype : (getRoot (createErrorTxn initiator id typ err : Buf)).getType = .transaction :=
    RouterRun.getType_createErrorTxn initiator id typ err
  cases typ with
  | readReq =>
    refine ⟨Wire.Transaction.omitDefaults {
      type := some .readResp, initiator := some initiator, id := some id, ok := some false, message := some err },
      carried_eq_some_iff.mpr ⟨htype, ?_⟩, ?_⟩
    · rw [createErrorTxn, Flatbuffers.getRoot_finish, Wire.Message.omitDefaults_txn, Option.map_some]
    · constructor <;> simp <;> rfl
  | writeReq =>
    refine ⟨Wire.Transaction.omitDefaults {
      type := some .writeResp, initiator := some initiator, id := some id, ok := some false, message := some err },
      carried_eq_some_iff.mpr ⟨htype, ?_⟩, ?_⟩
    · rw [createErrorTxn, Flatbuffers.getRoot_finish, Wire.Message.omitDefaults_txn, Option.map_some]
    · constructor <;> simp <;> rfl
  | readResp => cases hreq
  | writeResp => cases hreq
  | other code => cases hreq

end

namespace Router

section
variable {Buf : Type} [Flatbuffers Buf] {r : Router} {order : List IpInfo}

/-! ### One turn -/

/-- The client of a registered block. -/
def clientOf (r : Router) (id : UInt64) : Option Nat := r.ips[id.toNat]?.map fun ip => ip.clientId.toNat

/-- The message carries a request or a response whose initiator is registered. -/
def Valid (r : Router) (msgArr : Buf) : Prop :=
  ∃ t, carried msgArr = some t ∧ (t.getType.isRequest = true ∨ t.getType.isResponse = true) ∧
    t.getInitiator.toNat < r.ips.length

/-- What goes out for a message that `route` takes is one message to one client: a response as it came, the refusal
    of a request to its initiator, or the request to the client of the block found. -/
def Answered (r : Router) (m : List IpInfo × Buf) (out : List (Nat × Buf)) : Prop :=
  ∃ t k msgArr, carried m.2 = some t ∧ out = [(k, msgArr)] ∧ k < r.clients.length ∧
    if t.getType.isResponse = true then r.clientOf t.getInitiator = some k ∧ msgArr = m.2
    else t.getType.isRequest = true ∧ match findTarget m.1 t.getAddress t.getSize with
      | .error err => r.clientOf t.getInitiator = some k ∧
          ∃ u, carried msgArr = some u ∧ Refusal t.getInitiator t.getId t.getType err u
      | .ok (target, client) => k = client.toNat ∧ msgArr = mutateTarget m.2 target

theorem isRequest_iff {type : Wire.TransactionType} : type.isRequest = true ↔ type = .readReq ∨ type = .writeReq := by
  cases type <;> simp [Wire.TransactionType.isRequest]

theorem isResponse_iff {type : Wire.TransactionType} : type.isResponse = true ↔ type = .readResp ∨ type = .writeResp := by
  cases type <;> simp [Wire.TransactionType.isResponse]

theorem isResponse_of_isRequest {type : Wire.TransactionType} (h : type.isRequest = true) : type.isResponse = false := by
  cases type <;> simp_all [Wire.TransactionType.isRequest, Wire.TransactionType.isResponse]

omit [Flatbuffers Buf] in
theorem Kept.sendToInitiator_valid (hk : r.Kept) {initiator : UInt64} (hi : initiator.toNat < r.ips.length)
    (msgArr : Buf) : ∃ k, k < r.clients.length ∧ r.clientOf initiator = some k ∧
      r.sendToInitiator initiator msgArr = .send k msgArr := by
  rcases hk.sendToInitiator_cases initiator msgArr with ⟨ip, hip, hlt, hsend⟩ | ⟨hnone, -⟩
  · exact ⟨ip.clientId.toNat, hlt, by rw [clientOf, hip, Option.map_some], hsend⟩
  · exact absurd hi (by simpa using hnone)

/-- Each turn answers its message and leaves the router as it is. -/
theorem Kept.route_answered (hk : r.Kept) (horder : r.IterationOrder order) {msgArr : Buf} (hvalid : r.Valid msgArr) :
    ∃ k out, r.route order msgArr = (r, .send k out) ∧ r.Answered (order, msgArr) [(k, out)] := by
  obtain ⟨t, ht, hkind, hi⟩ := hvalid
  obtain ⟨htype, htxn⟩ := carried_eq_some_iff.mp ht
  have hne : (getRoot msgArr).getType ≠ .terminate := by
    rw [htype]
    decide
  rw [route_of_ne_terminate hne]
  rcases hkind with hreq | hresp
  · have hnot : ¬ t.getType.isResponse = true := by simp [isResponse_of_isRequest hreq]
    cases hf : findTarget order t.getAddress t.getSize with
    | ok found =>
      obtain ⟨target, client⟩ := found
      obtain ⟨ip, -, -, hlt⟩ := hk.findTarget_ok horder hf
      rw [routeTransaction_found htype htxn (isRequest_iff.mp hreq) hf, sendTo_of_lt hlt]
      refine ⟨client.toNat, _, rfl, t, client.toNat, _, ht, rfl, hlt, ?_⟩
      rw [if_neg hnot, hf]
      exact ⟨hreq, rfl, rfl⟩
    | error err =>
      rw [routeTransaction_unresolved htype htxn (isRequest_iff.mp hreq) hf]
      obtain ⟨k, hlt, hclient, hsend⟩ := hk.sendToInitiator_valid hi
        (createErrorTxn t.getInitiator t.getId t.getType err : Buf)
      refine ⟨k, _, congrArg _ hsend, t, k, _, ht, rfl, hlt, ?_⟩
      rw [if_neg hnot, hf]
      exact ⟨hreq, hclient, carried_createErrorTxn hreq t.getInitiator t.getId err⟩
  · rw [routeTransaction_response htype htxn (isResponse_iff.mp hresp)]
    obtain ⟨k, hlt, hclient, hsend⟩ := hk.sendToInitiator_valid hi msgArr
    refine ⟨k, _, congrArg _ hsend, t, k, _, ht, rfl, hlt, ?_⟩
    rw [if_pos hresp]
    exact ⟨hclient, rfl⟩

/-! ### Runs of the loop -/

/-- What each turn on the messages puts on the outgoing channels. -/
def turns (r : Router) : List (List IpInfo × Buf) → List (List (Nat × Buf))
  | [] => []
  | (order, msgArr) :: ms => r.outgoing (r.route order msgArr).2 :: (r.route order msgArr).1.turns ms

/-- The requests among the messages taken, and the responses, which the slaves sent. -/
def requests (ms : List (List IpInfo × Buf)) : List (UInt64 × UInt64) := ms.filterMap fun m => requestKey m.2

def responses (ms : List (List IpInfo × Buf)) : List (UInt64 × UInt64) := ms.filterMap fun m => responseKey m.2

/-- The requests among the messages sent, which went to slaves, and the answers. -/
def forwarded (outs : List (List (Nat × Buf))) : List (UInt64 × UInt64) := outs.flatten.filterMap fun x => requestKey x.2

def answers (outs : List (List (Nat × Buf))) : List (UInt64 × UInt64) := outs.flatten.filterMap fun x => responseKey x.2

theorem Kept.turns_answered (hk : r.Kept) {ms : List (List IpInfo × Buf)}
    (hms : ∀ m ∈ ms, r.IterationOrder m.1 ∧ r.Valid m.2) : List.Forall₂ r.Answered ms (r.turns ms) := by
  induction ms with
  | nil => exact .nil
  | cons m ms ih =>
    obtain ⟨order, msgArr⟩ := m
    obtain ⟨horder, hvalid⟩ := hms (order, msgArr) List.mem_cons_self
    obtain ⟨k, out, hroute, hanswered⟩ := hk.route_answered horder hvalid
    have hrest := ih fun m hm => hms m (List.mem_cons_of_mem _ hm)
    rw [turns, hroute]
    exact .cons hanswered hrest

/-- The key counts once on either side of a turn: a request is answered or forwarded, a response is an answer. -/
theorem Answered.keys {m : List IpInfo × Buf} {out : List (Nat × Buf)} (h : r.Answered m out) :
    ∃ k msgArr, out = [(k, msgArr)] ∧ ∃ key,
      ((requestKey m.2 = none ∧ responseKey m.2 = some key) ∨ (requestKey m.2 = some key ∧ responseKey m.2 = none)) ∧
      ((requestKey msgArr = none ∧ responseKey msgArr = some key) ∨
        (requestKey msgArr = some key ∧ responseKey msgArr = none)) := by
  obtain ⟨t, k, msgArr, ht, hout, -, hcase⟩ := h
  refine ⟨k, msgArr, hout, t.key, ?_⟩
  rw [requestKey_of_carried ht, responseKey_of_carried ht]
  split at hcase
  · rename_i hresp
    obtain ⟨-, rfl⟩ := hcase
    have hreq : ¬ t.getType.isRequest = true := fun hreq => by simp [isResponse_of_isRequest hreq] at hresp
    rw [requestKey_of_carried ht, responseKey_of_carried ht, if_neg hreq, if_pos hresp]
    exact ⟨Or.inl ⟨rfl, rfl⟩, Or.inl ⟨rfl, rfl⟩⟩
  · obtain ⟨hreq, hcase⟩ := hcase
    rw [if_pos hreq, if_neg (by simp [isResponse_of_isRequest hreq])]
    refine ⟨Or.inr ⟨rfl, rfl⟩, ?_⟩
    split at hcase
    · obtain ⟨-, u, hu, hrefusal⟩ := hcase
      have htype : u.getType.isResponse = true := by
        rw [hrefusal.type]
        rcases isRequest_iff.mp hreq with h | h <;> rw [h] <;> rfl
      have hnot : ¬ u.getType.isRequest = true := fun hreq => by simp [isResponse_of_isRequest hreq] at htype
      have hkey : u.key = t.key := Prod.ext hrefusal.initiator hrefusal.id
      rw [requestKey_of_carried hu, responseKey_of_carried hu, if_neg hnot, if_pos htype, hkey]
      exact Or.inl ⟨rfl, rfl⟩
    · rename_i target client _
      obtain ⟨-, rfl⟩ := hcase
      have hu := carried_mutateTarget ht target
      have hsame : (t.mutateTarget target).getType = t.getType := rfl
      rw [requestKey_of_carried hu, responseKey_of_carried hu, hsame]
      exact Or.inr ⟨if_pos hreq, if_neg (by simp [isResponse_of_isRequest hreq])⟩

theorem count_filterMap_cons {α κ : Type} [BEq κ] [LawfulBEq κ] (f : α → Option κ) (a : α) (l : List α) (key : κ) :
    ((a :: l).filterMap f).count key = (f a).toList.count key + (l.filterMap f).count key := by
  cases h : f a with
  | none => simp [h]
  | some b => simp [h, List.count_cons, Nat.add_comm]

/-- Conservation: for every key, answers and forwarded requests together are as many as requests and responses. -/
theorem count_answers {ms : List (List IpInfo × Buf)} {outs : List (List (Nat × Buf))}
    (h : List.Forall₂ r.Answered ms outs) (key : UInt64 × UInt64) :
    (answers outs).count key + (forwarded outs).count key = (requests ms).count key + (responses ms).count key := by
  induction h with
  | nil => rfl
  | @cons m out ms outs hanswered hrest ih =>
    obtain ⟨k, msgArr, rfl, key', hin, hout⟩ := hanswered.keys
    simp only [answers, forwarded, requests, responses, List.flatten_cons, List.singleton_append,
      count_filterMap_cons] at ih ⊢
    rcases hin with ⟨h₁, h₂⟩ | ⟨h₁, h₂⟩ <;> rcases hout with ⟨h₃, h₄⟩ | ⟨h₃, h₄⟩ <;>
      simp only [h₁, h₂, h₃, h₄, Option.toList_none, Option.toList_some, List.count_nil] <;> omega

/-- The slaves answer each forwarded request at most once, and nothing else. -/
def AnsweredOnce (r : Router) (ms : List (List IpInfo × Buf)) : Prop :=
  ∀ pre, pre <+: ms → (responses pre).Subperm (forwarded (r.turns pre))

end

end Router

namespace RouterRun
open Router (answers forwarded requests responses)
variable {Buf : Type} [Flatbuffers Buf] {s₀ s : RouterRun Buf}

theorem run_turns (hs : s.Sound) (hserve : s.stage = .serve) {ms : List (List IpInfo × Buf)}
    (hms : ∀ m ∈ ms, s.router.IterationOrder m.1 ∧ s.router.Valid m.2) :
    run RouterRun.step s (ms.map fun m => .turn m.1 m.2) = some s := by
  induction ms with
  | nil => rfl
  | cons m ms ih =>
    obtain ⟨order, msgArr⟩ := m
    obtain ⟨horder, hvalid⟩ := hms (order, msgArr) List.mem_cons_self
    obtain ⟨k, out, hroute, -⟩ := hs.kept.route_answered horder hvalid
    have hturn := turn_of_route hserve horder hroute
    have hsame : ({ s with router := s.router, stage := (Routed.send k out).stage } : RouterRun Buf) = s := by
      rw [Routed.stage, ← hserve]
    have hstep : s.step (.turn order msgArr) = some s := by
      rw [step, hturn, Option.map_some, hsame]
    rw [List.map_cons, run_cons hstep]
    exact ih fun m hm => hms m (List.mem_cons_of_mem _ hm)

/-- Once the router serves, each transaction it takes goes on as one message, and if the slaves answer what is
    forwarded to them once, no request gets more answers than one, and all get theirs when none is left open. -/
theorem one_answer_each (h₀ : s₀.Fresh) {es : List (Event Buf)} (hr : run RouterRun.step s₀ es = some s)
    (hserve : s.stage = .serve) {ms : List (List IpInfo × Buf)}
    (hms : ∀ m ∈ ms, s.router.IterationOrder m.1 ∧ s.router.Valid m.2) :
    run RouterRun.step s (ms.map fun m => .turn m.1 m.2) = some s ∧
      List.Forall₂ s.router.Answered ms (s.router.turns ms) ∧
      (s.router.AnsweredOnce ms → ∀ pre, pre <+: ms → ∀ key,
        (answers (s.router.turns pre)).count key ≤ (requests pre).count key ∧
        ((responses pre).Perm (forwarded (s.router.turns pre)) →
          (answers (s.router.turns pre)).count key = (requests pre).count key)) := by
  have hs : s.Sound := h₀.sound.of_run hr
  refine ⟨run_turns hs hserve hms, hs.kept.turns_answered hms, ?_⟩
  intro honce pre hpre key
  have hprefix := hs.kept.turns_answered fun m hm => hms m (hpre.subset hm)
  have hcount := Router.count_answers hprefix key
  have hle : (responses pre).count key ≤ (forwarded (s.router.turns pre)).count key := (honce pre hpre).count_le key
  refine ⟨by omega, fun hall => ?_⟩
  have heq : (responses pre).count key = (forwarded (s.router.turns pre)).count key := hall.count_eq key
  omega

/-- A request for the slave of `served`, its response, and a request for no block. -/
def threeTransactions : List (List IpInfo × Wire.Message) :=
  [([Router.softRam, Router.softMaster], RouterClient.transactionMessage Router.readRequest),
    ([Router.softMaster, Router.softRam], RouterClient.transactionMessage { Router.readRequest with type := .readResp }),
    ([Router.softRam, Router.softMaster], RouterClient.transactionMessage { Router.readRequest with address := 0x5000, id := 1 })]

theorem one_answer_each_served :
    List.Forall₂ Router.served.Answered threeTransactions (Router.served.turns threeTransactions) ∧
      (answers (Router.served.turns threeTransactions)).count (0, 0) = (requests threeTransactions).count (0, 0) := by
  have hms : ∀ m ∈ threeTransactions, Router.served.IterationOrder m.1 ∧ Router.served.Valid m.2 := by
    intro m hm
    simp only [threeTransactions, List.mem_cons, List.not_mem_nil, or_false] at hm
    rcases hm with rfl | rfl | rfl
    · exact ⟨by decide, _, rfl, by decide, by decide⟩
    · exact ⟨by decide, _, rfl, by decide, by decide⟩
    · exact ⟨by decide, _, rfl, by decide, by decide⟩
  have hall := one_answer_each Router.oneClient_fresh Router.run_masterFirst rfl hms
  have honce : Router.served.AnsweredOnce threeTransactions := by
    have hinits : ∀ pre ∈ threeTransactions.inits,
        (responses pre).Subperm (forwarded (Router.served.turns pre)) := by decide
    intro pre hpre
    exact hinits pre (List.mem_inits pre threeTransactions |>.mpr hpre)
  exact ⟨hall.2.1, (hall.2.2 honce threeTransactions List.prefix_rfl (0, 0)).2 (by decide)⟩

end RouterRun

end SwAxi
