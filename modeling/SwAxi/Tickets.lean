import SwAxi.Bounds
import SwAxi.Lib.TicketRing
import Mathlib.Data.List.Forall2
import Mathlib.Data.List.ReduceOption

/-! The requests that a client issues, known by their place in the order of issue, and what stands for each on its
way: the request itself, a refusal of it, or its response. Whatever else goes the same way stands for none of
them. -/

namespace SwAxi
open Wire (Flatbuffers)
open Wire.Flatbuffers (getRoot mutateTarget)
open RouterClient (decode transactionMessage terminateMessage doneMessage mutatedTarget wireTransactionType)
open TicketRing (Token)
open List (Forall₂)

/-! ### The ids of the requests -/

/-- How many requests the master has issued before the one with the number `p`. -/
def rank (issued : List Transaction) (p : Nat) (m : UInt64) : Nat :=
  (issued.take p).countP fun txn => txn.initiator = m

/-- The request with the number `p` as it is sent. -/
def sentAs (issued : List Transaction) (p : Nat) (txn : Transaction) : Transaction :=
  { txn with id := UInt64.ofNat (rank issued p txn.initiator) }

section
variable {issued : List Transaction} {p q : Nat} {x y : Transaction} {m : UInt64}

theorem take_issue (h : p ≤ issued.length) : (issued ++ [y]).take p = issued.take p :=
  List.take_append_of_le_length h

theorem rank_issue (h : p ≤ issued.length) : rank (issued ++ [y]) p m = rank issued p m := by
  rw [rank, take_issue h, rank]

theorem take_succ (hx : issued[p]? = some x) : issued.take (p + 1) = issued.take p ++ [x] := by
  rw [List.take_add_one, hx]
  rfl

theorem rank_succ (hx : issued[p]? = some x) :
    rank issued (p + 1) m = rank issued p m + if x.initiator = m then 1 else 0 := by
  rw [rank, take_succ hx, List.countP_append, List.countP_singleton, rank]
  simp

theorem rank_le (hpq : p ≤ q) : rank issued p m ≤ rank issued q m ∧ rank issued q m ≤ rank issued p m + (q - p) := by
  obtain ⟨d, rfl⟩ := Nat.exists_eq_add_of_le hpq
  have hlen : ((issued.drop p).take d).countP (fun txn => txn.initiator = m) ≤ d :=
    List.countP_le_length.trans (by simp)
  rw [rank, rank, List.take_add, List.countP_append]
  omega

/-- Requests of a master that are fewer than `2^64` apart have different ids. -/
theorem sentAs_id_ne (hpq : p < q) (hnear : q < p + 2 ^ 64) (hx : issued[p]? = some x) (hinit : x.initiator = y.initiator) :
    (sentAs issued p x).id ≠ (sentAs issued q y).id := by
  intro heq
  have hid : rank issued p x.initiator % 2 ^ 64 = rank issued q x.initiator % 2 ^ 64 := by
    have hnat := congrArg UInt64.toNat heq
    rwa [sentAs, sentAs, ← hinit, UInt64.toNat_ofNat', UInt64.toNat_ofNat'] at hnat
  have hsucc := rank_succ (m := x.initiator) hx
  rw [if_pos rfl] at hsucc
  have hle : rank issued (p + 1) x.initiator ≤ rank issued q x.initiator ∧
      rank issued q x.initiator ≤ rank issued (p + 1) x.initiator + (q - (p + 1)) := rank_le hpq
  omega

end

/-! ### Contracts -/

/-- The response is of the kind of the request, has its pair, and brings as much as was read. -/
structure Answers (request response : Transaction) : Prop where
  type : response.type = if request.type = .writeReq then .writeResp else .readResp
  initiator : response.initiator = request.initiator
  id : response.id = request.id
  data : response.ok = true → request.type = .readReq → response.data.length = request.size.toNat

theorem Answers.isRequest {y r : Transaction} (h : Answers y r) : r.type.isRequest = false := by
  rw [h.type]
  split <;> rfl

theorem Answers.readReq {y r : Transaction} (h : Answers y r) (hreq : y.type.isRequest = true)
    (hread : r.type = .readResp) : y.type = .readReq := by
  have htype := h.type
  rw [hread] at htype
  cases hy : y.type with
  | readReq => rfl
  | writeReq =>
    rw [if_pos hy] at htype
    cases htype
  | readResp => simp [hy, TransactionType.isRequest] at hreq
  | writeResp => simp [hy, TransactionType.isRequest] at hreq

theorem Bridge.serve_answers {S : Type} [Slave S] (s : S) (y : Transaction) : Answers y (Bridge.serve s y).2 where
  type := Bridge.serve_type s y
  initiator := Bridge.serve_initiator s y
  id := Bridge.serve_id s y
  data hok hread := by
    unfold Bridge.serve at hok ⊢
    simp only [hread, reduceCtorEq, if_false] at hok ⊢
    split at hok
    · cases hok
    · simp [*]

theorem errorResponse_answers {y : Transaction} (hreq : y.type.isRequest = true) (err : String) :
    Answers y (errorResponse y err) where
  type := by
    unfold errorResponse
    cases h : y.type with
    | readReq => rfl
    | writeReq => rfl
    | readResp => simp [h, TransactionType.isRequest] at hreq
    | writeResp => simp [h, TransactionType.isRequest] at hreq
  initiator := rfl
  id := rfl
  data hok := nomatch hok

/-- What the users of a client ask for, and what is to come of it. -/
structure Contract (S : Type) [Slave S] where
  issues : Option (List UInt8) → Transaction → Prop
  /-- The requests of other clients. -/
  foreign : Transaction → Prop
  /-- Those that `route` resolves, and those that it does not. -/
  admits : Transaction → Prop
  refuses : Transaction → Prop
  /-- The slaves after the requests that have got to them. -/
  slaves : List Transaction → (UInt64 → Option S) → Prop
  /-- What a request may be answered with after others. -/
  answers : List Transaction → Transaction → Transaction → Prop
  target : ∀ {bytes x}, issues bytes x → x.target = 0
  serve : ∀ {before m bytes x id s}, slaves before m → issues bytes x → admits x → m 0 = some s →
    slaves (before ++ [x]) (Function.update m 0 (some (Bridge.serve s { x with id }).1)) ∧
      answers before { x with id } (Bridge.serve s { x with id }).2
  drop : ∀ {before m x}, slaves before m → refuses x ∨ m 0 = none → slaves (before ++ [x]) m
  serveForeign : ∀ {before m y s}, slaves before m → foreign y → m y.target = some s →
    slaves before (Function.update m y.target (some (Bridge.serve s y).1))

/-! ### Tickets -/

section
variable {S : Type} [Slave S] (C : Contract S) (own : UInt64 → Prop) (issued : List Transaction)

/-- A transaction of other clients. -/
structure Stray (y : Transaction) : Prop where
  initiator : ¬own y.initiator
  request : y.type.isRequest = true → C.foreign y ∧ y.target = 0

/-- The transaction that stands for a request once it has been given its id. -/
inductive Bears : Option Token → Transaction → Prop where
  | request (p : Nat) (x : Transaction) (hx : issued[p]? = some x) (hreq : x.type.isRequest = true)
      (htarget : x.target = 0) : Bears (some (.request p)) (sentAs issued p x)
  | refused (p : Nat) (x : Transaction) (err : String) (hx : issued[p]? = some x) (hreq : x.type.isRequest = true)
      (hrefused : C.refuses x) : Bears (some (.refused p)) (errorResponse (sentAs issued p x) err)
  | response (p : Nat) (x r : Transaction) (hx : issued[p]? = some x) (hanswers : Answers (sentAs issued p x) r)
      (hadmitted : C.admits x) (hright : C.answers (issued.take p) (sentAs issued p x) r) : Bears (some (.response p)) r
  | stray (y : Transaction) (h : Stray C own y) : Bears none y

/-- `route` has let it through. -/
structure Admitted (o : Option Token) (y : Transaction) : Prop where
  bears : Bears C own issued o y
  admitted : ∀ p x, o = some (.request p) → issued[p]? = some x → C.admits x

/-- The buffer that the response of a request is to be copied into. -/
def bufferOf (p : Nat) (txn : Transaction) : Option Nat := if txn.type = .readReq then some p else none

inductive Waits : Option Token → Master.Txn → Prop where
  | termination (tx : Master.Txn) (htype : tx.type = .termination) : Waits none tx
  | request (p : Nat) (x : Transaction) (hx : issued[p]? = some x) (hreq : x.type.isRequest = true)
      (htarget : x.target = 0) (howned : own x.initiator) :
      Waits (some (.request p)) { type := .transaction, buffer := bufferOf p x, txn := x, promise := some p }
  | response (o : Option Token) (tx : Master.Txn) (htype : tx.type = .transaction)
      (hreq : tx.txn.type.isRequest = false) (hold : ∀ t, o = some t → t.fresh = none)
      (hbears : Bears C own issued o tx.txn) : Waits o tx

section
variable {Buf : Type} [Flatbuffers Buf]

inductive Departs : Option Token → Buf → Prop where
  | termination (id : UInt64) : Departs none (terminateMessage id)
  | logout : Departs none doneMessage
  | transaction (o : Option Token) (y : Transaction) (hbears : Bears C own issued o y) : Departs o (transactionMessage y)

inductive Arrives : Option Token → Buf → Prop where
  | done (msgArr : Buf) (htype : (getRoot msgArr).getType = .done) : Arrives none msgArr
  | transaction (o : Option Token) (msgArr : Buf) (y : Transaction) (hdec : decode msgArr = some y)
      (hadmitted : Admitted C own issued o y) : Arrives o msgArr

end

end

/-! ### New requests -/

section
variable {S : Type} [Slave S] {C : Contract S} {own : UInt64 → Prop} {issued : List Transaction} {y : Transaction}

theorem getElem?_issued {p : Nat} {x : Transaction} (hx : issued[p]? = some x) : (issued ++ [y])[p]? = some x := by
  rw [List.getElem?_append_left (List.getElem?_eq_some_iff.mp hx).1, hx]

theorem sentAs_issue {p : Nat} {x : Transaction} (hx : issued[p]? = some x) :
    sentAs (issued ++ [y]) p x = sentAs issued p x := by
  rw [sentAs, rank_issue (Nat.le_of_lt (List.getElem?_eq_some_iff.mp hx).1), sentAs]

theorem Bears.issue {o : Option Token} {txn : Transaction} (h : Bears C own issued o txn) :
    Bears C own (issued ++ [y]) o txn := by
  cases h with
  | request p x hx hreq htarget =>
    rw [← sentAs_issue (y := y) hx]
    exact .request p x (getElem?_issued hx) hreq htarget
  | refused p x err hx hreq hrefused =>
    rw [← sentAs_issue (y := y) hx]
    exact .refused p x err (getElem?_issued hx) hreq hrefused
  | response p x r hx hanswers hadmitted hright =>
    rw [← sentAs_issue (y := y) hx] at hanswers hright
    rw [← take_issue (y := y) (Nat.le_of_lt (List.getElem?_eq_some_iff.mp hx).1)] at hright
    exact .response p x txn (getElem?_issued hx) hanswers hadmitted hright
  | stray y h => exact .stray txn h

/-- A request that is under way is one of those issued. -/
theorem Bears.lt_issued {o : Option Token} {txn : Transaction} (h : Bears C own issued o txn) {t : Token}
    (ht : o = some t) : t.ticket < issued.length := by
  cases h <;> cases ht <;> exact (List.getElem?_eq_some_iff.mp ‹_›).1

theorem Admitted.issue {o : Option Token} {txn : Transaction} (h : Admitted C own issued o txn) :
    Admitted C own (issued ++ [y]) o txn where
  bears := h.bears.issue
  admitted p x ho hx := by
    have hlt : p < issued.length := h.bears.lt_issued ho
    rw [List.getElem?_append_left hlt] at hx
    exact h.admitted p x ho hx

theorem Waits.issue {o : Option Token} {tx : Master.Txn} (h : Waits C own issued o tx) :
    Waits C own (issued ++ [y]) o tx := by
  cases h with
  | termination tx htype => exact .termination tx htype
  | request p x hx hreq htarget howned => exact .request p x (getElem?_issued hx) hreq htarget howned
  | response o tx htype hreq hold hbears => exact .response o tx htype hreq hold hbears.issue

variable {Buf : Type} [Flatbuffers Buf]

theorem Departs.issue {o : Option Token} {msgArr : Buf} (h : Departs C own issued o msgArr) :
    Departs C own (issued ++ [y]) o msgArr := by
  cases h with
  | termination id => exact .termination id
  | logout => exact .logout
  | transaction o y hbears => exact .transaction o y hbears.issue

theorem Arrives.issue {o : Option Token} {msgArr : Buf} (h : Arrives C own issued o msgArr) :
    Arrives C own (issued ++ [y]) o msgArr := by
  cases h with
  | done msgArr htype => exact .done msgArr htype
  | transaction o msgArr y hdec hadmitted => exact .transaction o msgArr y hdec hadmitted.issue

end

/-! ### Turns of `route` -/

theorem Outgoing.Within.initiator_lt {Buf : Type} [Flatbuffers Buf] {n : Nat} {out : Outgoing} (h : out.Within n)
    {y : Transaction} (hmsg : (out.message : Buf) = transactionMessage y) : y.initiator.toNat < n := by
  have hsame := congrArg decode hmsg
  rw [decode_transactionMessage] at hsame
  cases out with
  | transaction txn =>
    rw [Outgoing.message, decode_transactionMessage] at hsame
    cases hsame
    exact h
  | termination id =>
    rw [Outgoing.message, decode_terminateMessage] at hsame
    cases hsame
  | logout =>
    rw [Outgoing.message, decode_doneMessage] at hsame
    cases hsame

namespace Router
variable {Buf : Type} [Flatbuffers Buf] {r : Router} {order : List IpInfo}

/-- All goes to the first client, as every block is kept for it. -/
theorem Kept.route_first (hk : r.Kept) (howners : ∀ ip ∈ r.ips, ip.clientId = 0) (horder : r.IterationOrder order)
    {y : Transaction} (hlt : y.initiator.toNat < r.ips.length) (htarget : y.type.isRequest = true → y.target = 0)
    {turn : Router × Routed Buf} (hturn : r.route order (transactionMessage y) = turn) :
    ∃ msgArr, turn = (r, .send 0 msgArr) ∧
      ((y.type.isRequest = true ∧ (∃ found, findTarget order y.address y.size = .ok found) ∧ decode msgArr = some y) ∨
      (∃ err, y.type.isRequest = true ∧ findTarget order y.address y.size = .error err ∧
        decode msgArr = some (errorResponse y err)) ∨
      (y.type.isRequest = false ∧ decode msgArr = some y)) := by
  have hzero : ∀ {ip : IpInfo}, r.ips[y.initiator.toNat]? = some ip → ip.clientId.toNat = 0 := fun hip => by
    rw [howners _ (List.mem_of_getElem? hip)]
    rfl
  rcases hk.route_transaction horder hturn with
    ⟨target, client, hreq, hfound, -, rfl⟩ | ⟨err, ip, hreq, hfound, hip, -, rfl⟩ | ⟨ip, hreq, hip, -, rfl⟩ |
    ⟨hnone, -⟩
  · obtain ⟨ip, hip, rfl, -⟩ := hk.findTarget_ok horder hfound
    refine ⟨mutateTarget (transactionMessage y) target, ?_, Or.inl ⟨hreq, ⟨_, hfound⟩, ?_⟩⟩
    · rw [howners ip (List.mem_of_getElem? hip)]
      rfl
    · have hsame : mutatedTarget y.target target = y.target := by rw [htarget hreq, mutatedTarget, if_pos rfl]
      rw [decode_mutateTarget, hsame]
  · refine ⟨_, by rw [hzero hip], Or.inr (Or.inl ⟨err, hreq, hfound, decode_createErrorTxn hreq err⟩)⟩
  · exact ⟨_, by rw [hzero hip], Or.inr (Or.inr ⟨hreq, decode_transactionMessage y⟩)⟩
  · exact absurd (List.getElem?_eq_none_iff.mp hnone) (Nat.not_le.mpr hlt)

end Router

section
variable {S Buf : Type} [Slave S] [Flatbuffers Buf] {C : Contract S} {own : UInt64 → Prop} {issued : List Transaction}

/-- `route` resolves what the contract admits, and nothing else. -/
def Contract.Routed (C : Contract S) (r : Router) : Prop :=
  ∀ order, r.IterationOrder order → ∀ bytes x, C.issues bytes x →
    match Router.findTarget order x.address x.size with
    | .ok _ => C.admits x
    | .error _ => C.refuses x

/-- The request is refused by `route`, or its token is what it was. -/
inductive Passes : Option Token → Option Token → Prop where
  | same (o : Option Token) : Passes o o
  | refused (p : Nat) : Passes (some (.request p)) (some (.refused p))

theorem Stray.response {y r : Transaction} (h : Stray C own y) (hanswers : Answers y r) : Stray C own r where
  initiator := by
    rw [hanswers.initiator]
    exact h.initiator
  request hreq := by
    rw [hanswers.isRequest] at hreq
    cases hreq

theorem Bears.target {o : Option Token} {y : Transaction} (h : Bears C own issued o y) (hreq : y.type.isRequest = true) :
    y.target = 0 := by
  cases h with
  | request p x hx hreq htarget => exact htarget
  | refused p x err hx hreq' hrefused => rfl
  | response p x r hx hanswers =>
    rw [hanswers.isRequest] at hreq
    cases hreq
  | stray y h => exact (h.request hreq).2

/-- What a turn of `route` makes of a transaction. -/
theorem Bears.route {r : Router} {order : List IpInfo} (hk : r.Kept) (howners : ∀ ip ∈ r.ips, ip.clientId = 0)
    (hroutes : C.Routed r) (horder : r.IterationOrder order) (husers : ∀ x ∈ issued, ∃ bytes, C.issues bytes x)
    {o : Option Token} {y : Transaction} (h : Bears C own issued o y) (hlt : y.initiator.toNat < r.ips.length)
    {turn : Router × Routed Buf} (hturn : r.route order (transactionMessage y) = turn) :
    ∃ msgArr o', turn = (r, .send 0 msgArr) ∧ Arrives C own issued o' msgArr ∧ Passes o o' := by
  obtain ⟨msgArr, rfl, hcase⟩ := hk.route_first howners horder hlt h.target hturn
  cases h with
  | request p x hx hreq htarget =>
    obtain ⟨bytes, hissues⟩ := husers x (List.mem_of_getElem? hx)
    have hfound := hroutes order horder bytes x hissues
    rcases hcase with ⟨-, ⟨found, hok⟩, hdec⟩ | ⟨err, -, herr, hdec⟩ | ⟨hno, -⟩
    · rw [show Router.findTarget order x.address x.size = _ from hok] at hfound
      refine ⟨msgArr, _, rfl, .transaction _ msgArr _ hdec ⟨.request p x hx hreq htarget, ?_⟩, .same _⟩
      rintro _ x' ⟨⟩ hx'
      rw [hx] at hx'
      cases hx'
      exact hfound
    · rw [show Router.findTarget order x.address x.size = _ from herr] at hfound
      refine ⟨msgArr, _, rfl, .transaction _ msgArr _ hdec ⟨.refused p x err hx hreq hfound, ?_⟩, .refused p⟩
      rintro _ _ ⟨⟩
    · exact absurd (hreq.symm.trans hno) (by simp)
  | refused p x err hx hreq hrefused =>
    have hno := (errorResponse_answers (y := sentAs issued p x) hreq err).isRequest
    rcases hcase with ⟨hreq', -⟩ | ⟨err, hreq', -⟩ | ⟨-, hdec⟩
    · exact absurd (hreq'.symm.trans hno) (by simp)
    · exact absurd (hreq'.symm.trans hno) (by simp)
    · refine ⟨msgArr, _, rfl, .transaction _ msgArr _ hdec ⟨.refused p x _ hx hreq hrefused, ?_⟩, .same _⟩
      rintro _ _ ⟨⟩
  | response p x r hx hanswers hadmitted hright =>
    have hno := hanswers.isRequest
    rcases hcase with ⟨hreq', -⟩ | ⟨err, hreq', -⟩ | ⟨-, hdec⟩
    · exact absurd (hreq'.symm.trans hno) (by simp)
    · exact absurd (hreq'.symm.trans hno) (by simp)
    · refine ⟨msgArr, _, rfl, .transaction _ msgArr _ hdec ⟨.response p x y hx hanswers hadmitted hright, ?_⟩, .same _⟩
      rintro _ _ ⟨⟩
  | stray y hstray =>
    have harrives : ∀ {r}, Stray C own r → decode msgArr = some r → Arrives C own issued none msgArr :=
      fun hstray hdec => .transaction _ msgArr _ hdec ⟨.stray _ hstray, fun p x hno => nomatch hno⟩
    rcases hcase with ⟨-, -, hdec⟩ | ⟨err, hreq, -, hdec⟩ | ⟨-, hdec⟩
    · exact ⟨msgArr, none, rfl, harrives hstray hdec, .same _⟩
    · exact ⟨msgArr, none, rfl, harrives (hstray.response (errorResponse_answers hreq err)) hdec, .same _⟩
    · exact ⟨msgArr, none, rfl, harrives hstray hdec, .same _⟩

theorem Departs.stray {msgArr : Buf} (h : Departs C own issued none msgArr) (issued' : List Transaction) :
    Departs C own issued' none msgArr := by
  cases h with
  | termination id => exact .termination id
  | logout => exact .logout
  | transaction o y hbears =>
    cases hbears with
    | stray y hstray => exact .transaction none y (.stray y hstray)

/-- What a turn of `route` makes of a message. -/
theorem Departs.route {r : Router} {order : List IpInfo} (hk : r.Kept) (howners : ∀ ip ∈ r.ips, ip.clientId = 0)
    (hroutes : C.Routed r) (horder : r.IterationOrder order) (husers : ∀ x ∈ issued, ∃ bytes, C.issues bytes x)
    {o : Option Token} {out : Outgoing} (h : Departs C own issued o (out.message : Buf)) (hout : out.Within r.ips.length)
    {turn : Router × Routed Buf} (hturn : r.route order out.message = turn) :
    (∃ msgArr o', turn.2 = .send 0 msgArr ∧ Arrives C own issued o' msgArr ∧ Passes o o') ∨
    (o = none ∧ ∀ k msgArr, turn.2 ≠ .send k msgArr) := by
  generalize hmsg : (out.message : Buf) = msgArr at h hturn
  cases h with
  | termination id =>
    refine Or.inr ⟨rfl, ?_⟩
    rcases Router.route_termination hturn with ⟨-, rfl⟩ | ⟨r', text, rfl⟩ | ⟨r', rfl⟩ <;> simp
  | logout =>
    rw [Router.route_logout] at hturn
    subst hturn
    exact Or.inr ⟨rfl, by simp⟩
  | transaction o y hbears =>
    have hlt : y.initiator.toNat < r.ips.length := hout.initiator_lt hmsg
    obtain ⟨msgArr, o', rfl, harrives, hpasses⟩ := hbears.route hk howners hroutes horder husers hlt hturn
    exact Or.inl ⟨msgArr, o', rfl, harrives, hpasses⟩

end

end SwAxi
