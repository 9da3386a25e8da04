import SwAxi.Account
import SwAxi.Pipeline

/-! What a `TERMINATE` has ahead of it. A client's messages get to `route` in the order in which their items wait in
the queue of its bridge, so that `route` takes a `TERMINATE` behind all that was ahead of it there, and ahead of all
that comes later. -/

namespace SwAxi
open Wire (Flatbuffers)
open Wire.Flatbuffers (getRoot)
open Transition
open Total
open RouterClient (decode transactionMessage terminateMessage doneMessage)

namespace Router

/-- No block resolves the request. -/
def NoTarget (r : Router) (txn : Transaction) : Prop :=
  ∀ b ∈ r.ipMMap.map Prod.snd, (findTarget [b] txn.address txn.size).isOk = false

instance (r : Router) (txn : Transaction) : Decidable (r.NoTarget txn) :=
  inferInstanceAs (Decidable (∀ b ∈ r.ipMMap.map Prod.snd, _))

theorem NoTarget.findTarget_ne {r : Router} {txn : Transaction} {order : List IpInfo} (h : r.NoTarget txn)
    (horder : r.IterationOrder order) (found : UInt64 × UInt64) : findTarget order txn.address txn.size ≠ .ok found := by
  intro hf
  unfold findTarget at hf
  split at hf
  · cases hf
  · rename_i ip hfind
    -- The block that is found resolves the request on its own, too.
    have hmem : ip ∈ r.ipMMap.map Prod.snd := horder.mem_iff.mp (List.mem_of_find?_eq_some hfind)
    have hin := List.find?_some hfind
    have halone := h ip hmem
    split at hf
    · cases hf
    · rename_i hspan
      simp [findTarget, hin, hspan, Except.isOk, Except.toBool] at halone

end Router

/-! ### The way of one client to `route` -/

section
variable {Buf : Type} [Flatbuffers Buf]

/-- Of a `TERMINATE` and of a transaction, whether it is a `TERMINATE`. -/
def mark (msgArr : Buf) : Option Bool :=
  match (getRoot msgArr).getType with
  | .transaction => some false
  | .terminate => some true
  | _ => none

@[simp] theorem mark_transactionMessage (txn : Transaction) : mark (transactionMessage txn : Buf) = some false := by
  simp [mark]

@[simp] theorem mark_terminateMessage (id : UInt64) : mark (terminateMessage id : Buf) = some true := by
  simp [mark]

@[simp] theorem mark_doneMessage : mark (doneMessage : Buf) = none := by
  simp [mark]

end

namespace Flow
variable {S Buf : Type} [Flatbuffers Buf]

/-- What is on the way to `route`, by its marks; what waits for the writer comes last. -/
def path (f : Flow S Buf) : List Bool :=
  f.up.filterMap mark ++ f.ledger.waiting.map fun tx => decide (tx.type = .termination)

/-- The responses of the key that wait for the writer or are on their way to `route`. -/
def returning (κ : Key) (f : Flow S Buf) : Nat :=
  f.ledger.waiting.countP (fun tx => tx.answers κ) + f.up.countP (carries false κ)

/-- A message that joins the others now comes behind the answers to all requests: each request that was given an id
    has its response, or this is ahead, and `route` refuses the requests that it has not taken. -/
structure Behind (router : Router) (record : Record) (i : Nat) (f : Flow S Buf) : Prop where
  answered : ∀ a ∈ f.ledger.assigned, f.given a.2 ≤ record.answered.count (i, a.2) +
    record.errored.countP (fun b => b.2 = a.2) + f.returning a.2 + f.asked a.2
  sent : ∀ msgArr ∈ f.up, ∀ txn ∈ decode msgArr, txn.type.isRequest = true → router.NoTarget txn
  waiting : ∀ tx ∈ f.ledger.waiting, tx.isRequest = true → router.NoTarget tx.txn

instance (router : Router) (record : Record) (i : Nat) (f : Flow S Buf) : Decidable (f.Behind router record i) :=
  decidable_of_iff
    ((∀ a ∈ f.ledger.assigned, f.given a.2 ≤ record.answered.count (i, a.2) +
        record.errored.countP (fun b => b.2 = a.2) + f.returning a.2 + f.asked a.2) ∧
      (∀ msgArr ∈ f.up, ∀ txn ∈ decode msgArr, txn.type.isRequest = true → router.NoTarget txn) ∧
      ∀ tx ∈ f.ledger.waiting, tx.isRequest = true → router.NoTarget tx.txn)
    ⟨fun h => ⟨h.1, h.2.1, h.2.2⟩, fun h => ⟨h.answered, h.sent, h.waiting⟩⟩

/-- The `TERMINATE` of the client is behind them, or `route` has taken it, and no transaction has come later. -/
structure Trailing (router : Router) (record : Record) (i : Nat) (f : Flow S Buf) : Prop extends
    Behind router record i f where
  last : f.path.getLast? ≠ some false

variable {router : Router} {record : Record} {i : Nat} {f f' : Flow S Buf}

theorem Behind.given_le (h : f.Behind router record i) (κ : Key) : f.given κ ≤ record.answered.count (i, κ) +
    record.errored.countP (fun b => b.2 = κ) + f.returning κ + f.asked κ := by
  rcases Nat.eq_zero_or_pos (f.given κ) with hzero | hpos
  · omega
  · obtain ⟨a, ha, hκ⟩ := List.countP_pos_iff.mp hpos
    obtain rfl : a.2 = κ := by simpa using hκ
    exact h.answered a ha

/-- What a step adds to the requests given an id is on its way to `route`. -/
theorem Behind.of_le (h : f.Behind router record i)
    (hle : ∀ κ, f'.given κ + f.returning κ + f.asked κ ≤ f.given κ + f'.returning κ + f'.asked κ)
    (hsent : ∀ msgArr ∈ f'.up, ∀ txn ∈ decode msgArr, txn.type.isRequest = true → router.NoTarget txn)
    (hwaiting : ∀ tx ∈ f'.ledger.waiting, tx.isRequest = true → router.NoTarget tx.txn) :
    f'.Behind router record i where
  answered a _ := by
    have hgiven := h.given_le a.2
    have hstep := hle a.2
    omega
  sent := hsent
  waiting := hwaiting

/-- Only the way to `route` matters, and what was given an id. -/
theorem Trailing.congr (h : f.Trailing router record i) (hup : f'.up = f.up) (hwaiting : f'.ledger.waiting = f.ledger.waiting)
    (hassigned : f'.ledger.assigned = f.ledger.assigned) : f'.Trailing router record i where
  toBehind := by
    refine h.toBehind.of_le (fun κ => ?_) (hup ▸ h.sent) (hwaiting ▸ h.waiting)
    simp only [given, returning, asked, hup, hwaiting, hassigned]
    omega
  last := by
    simp only [path, hup, hwaiting]
    exact h.last

/-- The writer sends an item that is no request. -/
theorem Trailing.send (h : f.Trailing router record i) {tx : Master.Txn} {rest : List Master.Txn} {msgArr : Buf}
    (hw : f.ledger.waiting = tx :: rest) (hmark : mark msgArr = some (decide (tx.type = .termination)))
    (hanswers : ∀ κ, carries false κ msgArr = tx.answers κ) (hno : ∀ txn ∈ decode msgArr, txn.type.isRequest = false) :
    (f.send rest msgArr).Trailing router record i where
  toBehind := by
    refine h.toBehind.of_le (fun κ => ?_) (fun out hout txn htxn hreq => ?_)
      fun x hx => h.waiting x (hw ▸ List.mem_cons_of_mem _ hx)
    · have hnone : carries true κ msgArr = false := by
        cases hdec : decode msgArr with
        | none => simp [carries, hdec]
        | some txn => rw [carries_of_decode hdec, Transaction.matches_of_ne (by simp [hno txn hdec])]
      simp [given, returning, asked, Flow.send, hw, List.countP_append, List.countP_cons, hanswers, hnone]
      omega
    · rcases List.mem_append.mp hout with hout | hout
      · exact h.sent out hout txn htxn hreq
      · rw [List.mem_singleton.mp hout] at htxn
        rw [hno txn htxn] at hreq
        cases hreq
  last := by
    have hsame : (f.send rest msgArr).path = f.path := by
      simp [path, Flow.send, hw, hmark]
    rw [hsame]
    exact h.last

/-- More answers are recorded. -/
theorem Trailing.mono (h : f.Trailing router record i) {router' : Router} {record' : Record}
    (hmap : router'.ipMMap = router.ipMMap)
    (hle : ∀ κ, record.answered.count (i, κ) + record.errored.countP (fun b => b.2 = κ) ≤
      record'.answered.count (i, κ) + record'.errored.countP fun b => b.2 = κ) : f.Trailing router' record' i := by
  have hrefuses : ∀ txn, router.NoTarget txn → router'.NoTarget txn := fun txn hrefused => by
    unfold Router.NoTarget
    rw [hmap]
    exact hrefused
  refine ⟨⟨fun a ha => ?_, fun msgArr hmem txn htxn hreq => hrefuses txn (h.sent msgArr hmem txn htxn hreq),
    fun tx htx hreq => hrefuses _ (h.waiting tx htx hreq)⟩, h.last⟩
  have hanswered := h.answered a ha
  have hmore := hle a.2
  omega

theorem Trailing.deliver (h : f.Trailing router record i) (msgs : List Buf) :
    (f.deliver msgs).Trailing router record i := h.congr rfl rfl rfl

/-- `route` takes the message at the front. -/
theorem Trailing.take (h : f.Trailing router record i) {msgArr : Buf} {rest : List Buf} (hup : f.up = msgArr :: rest)
    {record' : Record} (hpays : ∀ κ, record.answered.count (i, κ) + record.errored.countP (fun b => b.2 = κ) +
      (if carries false κ msgArr then 1 else 0) + (if carries true κ msgArr then 1 else 0) ≤
        record'.answered.count (i, κ) + record'.errored.countP fun b => b.2 = κ) :
    (f.taken rest).Trailing router record' i where
  answered a _ := by
    have hgiven : (f.taken rest).given a.2 = f.given a.2 := rfl
    have hle := h.given_le a.2
    have hpaid := hpays a.2
    rw [hgiven]
    simp only [returning, asked, hup, List.countP_cons] at hle
    simp only [returning, asked, taken]
    omega
  sent out hout := h.sent out (hup ▸ List.mem_cons_of_mem _ hout)
  waiting := h.waiting
  last := by
    have hpath : f.path = (mark msgArr).toList ++ (f.taken rest).path := by
      cases hmark : mark msgArr <;> simp [path, taken, hup, hmark]
    intro hlast
    refine h.last ?_
    rw [hpath, List.getLast?_append, hlast]
    rfl

variable [Slave S] {U : Users}

theorem Step.terminated_eq (hU : ∀ l m, ¬U.terminates l m) (hs : Step U f f') : f'.terminated = f.terminated := by
  cases hs with
  | terminate m huser => exact absurd huser (hU _ m)
  | _ => rfl

/-- Once its last master is terminated, and with nothing to serve, a client adds no transaction. -/
theorem Trailing.step (h : f.Trailing router record i) (hbooked : f.ledger.Booked) (hintact : f.intact = true)
    (hover : ∀ m, f.has m = true → m ∈ f.terminated) (hidle : ∀ txn, f.held = some txn → txn.type.isRequest = false)
    (hs : Step U f f') (hno : f'.terminated = f.terminated) : f'.Trailing router record i := by
  cases hs with
  | stay => exact h
  | issue bytes txn huser hreq hread hhas hactive => exact absurd (hover _ hhas) hactive
  | terminate m => simp at hno
  | termination tx rest hw htype =>
    exact h.send hw (by simp [htype]) (fun κ => by simp [Master.Txn.answers, htype]) (by simp)
  | request tx rest hw hreq =>
    obtain ⟨p, hp, -⟩ : ∃ p, tx.promise = some p ∧ f.ledger.issued[p]? = some tx.txn := by
      simpa [hreq] using hbooked.waiting tx (hw ▸ List.mem_cons_self)
    obtain ⟨htype, htxn⟩ := Master.Txn.type_of_isRequest hreq
    have hrefused := h.waiting tx (hw ▸ List.mem_cons_self) hreq
    refine ⟨h.toBehind.of_le (fun κ => ?_) (fun out hout txn hdec hisreq => ?_)
      fun x hx => h.waiting x (hw ▸ List.mem_cons_of_mem _ hx), ?_⟩
    · rw [assign_given hp]
      by_cases hκ : (tx.txn.initiator, (f.ledger.masters tx.txn.initiator).lastTxnId) = κ
      · simp [returning, asked, assign, Ledger.assign, hw, List.countP_append, Master.Txn.answers_of_isRequest hreq,
          Transaction.matches, Transaction.key, htxn, hκ]
        omega
      · simp [returning, asked, assign, Ledger.assign, hw, List.countP_append, Master.Txn.answers_of_isRequest hreq,
          Transaction.matches, Transaction.key, htxn, hκ]
    · rcases List.mem_append.mp hout with hout | hout
      · exact h.sent out hout txn hdec hisreq
      · rw [List.mem_singleton.mp hout, decode_transactionMessage] at hdec
        cases hdec
        exact hrefused
    · have hsame : (f.assign tx rest).path = f.path := by
        simp [path, assign, Ledger.assign, hw, htype]
      rw [hsame]
      exact h.last
  | response tx rest hw htype hreq =>
    exact h.send hw (by simp [htype]) (fun κ => by simp [Master.Txn.answers, htype]) (by simp [hreq])
  | logout =>
    refine ⟨h.toBehind.of_le (fun κ => ?_) (fun out hout txn hdec hreq => ?_) h.waiting, ?_⟩
    · simp [given, returning, asked]
    · rcases List.mem_append.mp hout with hout | hout
      · exact h.sent out hout txn hdec hreq
      · rw [List.mem_singleton.mp hout, decode_doneMessage] at hdec
        cases hdec
    · simpa [path] using h.last
  | lose up msgArr hup hlost =>
    rw [hintact] at hlost
    cases hlost
  | leave msgArr rest hup htype =>
    have hnone : decode msgArr = none := decode_eq_none (by simp [htype])
    refine ⟨h.toBehind.of_le (fun κ => ?_) (fun out hout => h.sent out (hup ▸ List.mem_cons_of_mem _ hout)) h.waiting, ?_⟩
    · simp [given, returning, asked, hup, carries, hnone]
    · have hlast := h.last
      simpa [path, hup, mark, htype] using hlast
  | receive => exact h.congr rfl rfl rfl
  | finish => exact h.congr rfl rfl rfl
  | reject => exact h.congr rfl rfl rfl
  | serve txn s hheld hreq =>
    rw [hidle txn hheld] at hreq
    cases hreq
  | unknownSlave => exact h.congr rfl rfl rfl
  | unknownRequest => exact h.congr rfl rfl rfl
  | crash => exact h.congr rfl rfl rfl
  | resolve => exact h.congr rfl rfl rfl

end Flow

/-! ### The system -/

namespace System
variable {S Buf : Type} [Flatbuffers Buf] {s t : System S Buf} {ms : List (Nat × UInt64)}

/-- `route` has left its loop. -/
def Left (s : System S Buf) : Prop :=
  match s.route with
  | .sendDone _ | .exited => True
  | _ => False

/-- The next `TERMINATE` ends the loop, or one has ended it. -/
def LastCall (s : System S Buf) : Prop :=
  match s.route with
  | .receiving | .sending _ _ => s.router.masterCount = 1
  | .sendDone _ | .exited => True
  | .aborted => False

/-- A `TERMINATE` that ends the loop is called for behind the answers to all requests of its client. -/
def Timely (s : System S Buf) : Event Buf → Prop
  | .bridge i (.terminate _) => s.LastCall → (s.flow i).Behind s.router s.record i
  | _ => True

/-- No transaction follows the `TERMINATE` that ends the loop. -/
def Tidy (s : System S Buf) : Prop :=
  s.LastCall → ∀ i < s.clients, (s.flow i).terminated ≠ [] → (s.flow i).Trailing s.router s.record i

omit [Flatbuffers Buf] in
theorem Left.lastCall (h : s.Left) : s.LastCall := by
  unfold Left at h
  unfold LastCall
  split at h
  · simp [*]
  · simp [*]
  · exact h.elim

/-- Only the requests of a bridge's own masters are given an id by it. -/
theorem Accounted.owned_of_given (h : s.Accounted ms) {i : Nat} (hi : i < s.clients) {κ : Key}
    (hpos : 0 < (s.flow i).given κ) : (i, κ.1) ∈ ms ∧ (s.flow i).has κ.1 = true := by
  obtain ⟨⟨p, κ'⟩, ha, hκ⟩ := List.countP_pos_iff.mp hpos
  obtain rfl : κ' = κ := by simpa using hκ
  obtain ⟨txn, hget, hini⟩ := (h.sound i hi).booked.owner p κ'.1 κ'.2 ha
  have hhas := (h.sound i hi).issuers txn (List.mem_of_getElem? hget)
  rw [hini] at hhas
  exact ⟨(h.sound i hi).masters _ hhas, hhas⟩

/-- There is one master then. -/
theorem Accounted.oneMaster (h : s.Accounted ms) (hlast : s.LastCall) {i j : Nat} {m m' : UInt64} (hm : (i, m) ∈ ms)
    (hm' : (j, m') ∈ ms) : j = i ∧ m' = m := by
  have hone : ms.length ≤ 1 := by
    have hphase := h.phase
    unfold Phase at hphase
    unfold LastCall at hlast
    split at hlast
    · rename_i hroute
      rw [hroute, hlast] at hphase
      exact hphase.2
    · rename_i hroute
      rw [hroute, hlast] at hphase
      exact hphase.2
    · rename_i hroute
      rw [hroute] at hphase
      exact hphase.2
    · rename_i hroute
      rw [hroute] at hphase
      exact hphase.2
    · exact hlast.elim
  obtain ⟨x, rfl⟩ : ∃ x, ms = [x] := List.length_eq_one_iff.mp (by have := List.length_pos_of_mem hm; omega)
  rw [List.mem_singleton] at hm hm'
  exact Prod.mk.inj (hm'.trans hm.symm)

/-- The client of the master has no other, and no other client gives an id to a request. -/
theorem Accounted.alone (h : s.Accounted ms) (hlast : s.LastCall) {i : Nat} (hi : i < s.clients) {m : UInt64}
    (howned : (i, m) ∈ ms) : (∀ m', (s.flow i).has m' = true → m' = m) ∧
      ∀ κ, total s.clients (Flow.given κ) s.flow = (s.flow i).given κ := by
  refine ⟨fun m' hm' => (h.oneMaster hlast howned ((h.sound i hi).masters m' hm')).2, fun κ => ?_⟩
  refine total_eq_single hi fun j hj hne => Nat.eq_zero_of_not_pos fun hpos => hne ?_
  exact (h.oneMaster hlast howned (h.owned_of_given hj hpos).1).1

theorem Accounted.owned_of_terminated (h : s.Accounted ms) {i : Nat} (hi : i < s.clients) {m : UInt64}
    (hm : m ∈ (s.flow i).terminated) : (i, m) ∈ ms := (h.sound i hi).masters m ((h.sound i hi).ended m hm)

/-- Once the loop is left, the one master has been terminated. -/
theorem Accounted.lastMaster (h : s.Accounted ms) (hleft : s.Left) :
    s.LastCall ∧ ∃ i m, i < s.clients ∧ s.record.terminations = [m] ∧ m ∈ (s.flow i).terminated ∧ (i, m) ∈ ms := by
  obtain ⟨m, hterm⟩ : ∃ m, s.record.terminations = [m] := by
    have hphase := h.phase
    unfold Phase at hphase
    unfold Left at hleft
    split at hleft
    · rename_i hroute
      rw [hroute] at hphase
      exact hphase.1
    · rename_i hroute
      rw [hroute] at hphase
      exact hphase.1
    · exact hleft.elim
  have hending := h.ending m
  rw [hterm, List.count_singleton_self] at hending
  obtain ⟨i, hi, hpos⟩ := exists_pos_of_total_pos (show 0 < total s.clients (Flow.ended m) s.flow by omega)
  have hmem : m ∈ (s.flow i).terminated := List.count_pos_iff.mp hpos
  exact ⟨hleft.lastCall, i, m, hi, hterm, hmem, h.owned_of_terminated hi hmem⟩

/-- Every forwarded request has its response, or this is ahead of the `TERMINATE`. -/
theorem Accounted.trailing_le (h : s.Accounted ms) (hlast : s.LastCall) {i : Nat} (hi : i < s.clients) {m : UInt64}
    (hm : m ∈ (s.flow i).terminated) (htrailing : (s.flow i).Trailing s.router s.record i) (κ : Key) :
    total s.clients (Flow.asked κ) s.flow + s.record.forwarded.count κ ≤
        s.record.answered.count (i, κ) + (s.flow i).returning κ + (s.flow i).asked κ ∧
      total s.clients (Flow.asked κ) s.flow + total s.clients (Flow.serving κ) s.flow ≤
        (s.flow i).returning κ + (s.flow i).asked κ := by
  have htotal := (h.alone hlast hi (h.owned_of_terminated hi hm)).2 κ
  have hasked := h.asked κ
  have hserving := h.serving κ
  have hgiven := htrailing.given_le κ
  have hanswered := Record.count_le_countP s.record.answered i κ
  omega

/-- No reader has a request to serve. -/
theorem Accounted.idle (h : s.Accounted ms) (hlast : s.LastCall) {i : Nat} (hi : i < s.clients) {m : UInt64}
    (hm : m ∈ (s.flow i).terminated) (htrailing : (s.flow i).Trailing s.router s.record i) {j : Nat}
    (hj : j < s.clients) {txn : Transaction} (hheld : (s.flow j).held = some txn) : txn.type.isRequest = false := by
  by_contra hreq
  obtain ⟨-, hle⟩ := h.trailing_le hlast hi hm htrailing txn.key
  have hholds : (s.flow j).returning txn.key + 1 ≤ (s.flow j).serving txn.key := by
    have hmatch : txn.matches true txn.key = true := by simpa [Transaction.matches] using hreq
    simp [Flow.returning, Flow.serving, hheld, hmatch]
  have hasked : (s.flow i).asked txn.key ≤ total s.clients (Flow.asked txn.key) s.flow := le_total hi
  have hback : (s.flow i).returning txn.key ≤ (s.flow i).serving txn.key := by
    simp [Flow.returning, Flow.serving]
  have hserving : (s.flow i).returning txn.key + 1 ≤ total s.clients (Flow.serving txn.key) s.flow := by
    by_cases hij : i = j
    · subst hij
      exact hholds.trans (le_total hi)
    · have hboth : (s.flow i).serving txn.key + (s.flow j).serving txn.key ≤ total s.clients (Flow.serving txn.key) s.flow :=
        add_le_total hi hj hij
      omega
  omega

/-! ### Steps -/

/-- The record is the same, and so are the way of each client to `route` and its requests. -/
theorem Tidy.same (h : s.Tidy) (hlast : t.LastCall → s.LastCall) (hrouter : t.router = s.router)
    (hrecord : t.record = s.record) (hflow : ∀ i, (t.flow i).up = (s.flow i).up ∧
      (t.flow i).ledger = (s.flow i).ledger ∧ (t.flow i).terminated = (s.flow i).terminated) : t.Tidy := by
  intro htlast i hi hended
  obtain ⟨hup, hledger, hterminated⟩ := hflow i
  have hclients : t.clients = s.clients := by rw [clients, clients, hrouter]
  rw [hclients] at hi
  rw [hterminated] at hended
  rw [hrouter, hrecord]
  exact (h (hlast htlast) i hi hended).congr hup (by rw [hledger]) (by rw [hledger])

section
variable [Slave S] {U : Users} {C : Contract S} {own : UInt64 → Prop}

theorem Tidy.endpoint (h : s.Tidy) (ha : s.Accounted ms) (hp : s.Piping C own) (hU : ∀ l m, ¬U.terminates l m)
    {i : Nat} (hstep : Flow.Step U (s.flow i) (t.flow i)) (hothers : ∀ j, j ≠ i → t.flow j = s.flow j)
    (hrouter : t.router = s.router) (hroute : t.route = s.route) (hrecord : t.record = s.record) : t.Tidy := by
  intro htlast j hj hended
  have hclients : t.clients = s.clients := by rw [clients, clients, hrouter]
  have hlast : s.LastCall := by
    unfold LastCall at *
    rwa [hroute, hrouter] at htlast
  rw [hclients] at hj
  rw [hrouter, hrecord]
  by_cases hji : j = i
  · subst hji
    have hsame := hstep.terminated_eq hU
    rw [hsame] at hended
    have htrailing := h hlast j hj hended
    obtain ⟨m, hm⟩ := List.exists_mem_of_ne_nil _ hended
    have hover : ∀ m', (s.flow j).has m' = true → m' ∈ (s.flow j).terminated := fun m' hm' => by
      rwa [(ha.alone hlast hj (ha.owned_of_terminated hj hm)).1 m' hm']
    exact htrailing.step (ha.sound j hj).booked (hp.within.flows j hj).intact hover
      (fun txn hheld => ha.idle hlast hj hm htrailing hj hheld) hstep hsame
  · rw [hothers j hji] at hended ⊢
    exact h hlast j hj hended

/-- A turn that does not abort the process takes the last `TERMINATE`, or passes on what it takes; it records an
    answer for a response, and for a request that it refuses. -/
theorem Accounted.turn_pays (ha : s.Accounted ms) (hp : s.Piping C own) {i : Nat} {order : List IpInfo} {msgArr : Buf}
    {rest : List Buf} {router : Router} {routed : Routed Buf} (hi : i < s.clients)
    (hup : (s.flow i).up = msgArr :: rest) (horder : s.router.IterationOrder order)
    (hturn : s.router.route order msgArr = (router, routed)) (hgoes : routeLoop routed ≠ RouteLoop.aborted) :
    (s.router.masterCount = 1 ∨ router = s.router ∧ ∃ k out, routed = .send k out) ∧
      (∀ j κ, s.record.answered.count (j, κ) + s.record.errored.countP (fun b => b.2 = κ) ≤
        (s.record.turn msgArr routed).answered.count (j, κ) +
          (s.record.turn msgArr routed).errored.countP fun b => b.2 = κ) ∧
      ((∀ txn ∈ decode msgArr, txn.type.isRequest = true → s.router.NoTarget txn) →
        ∀ κ, s.record.answered.count (i, κ) + s.record.errored.countP (fun b => b.2 = κ) +
          (if carries false κ msgArr then 1 else 0) + (if carries true κ msgArr then 1 else 0) ≤
            (s.record.turn msgArr routed).answered.count (i, κ) +
              (s.record.turn msgArr routed).errored.countP fun b => b.2 = κ) := by
  obtain ⟨out, rfl⟩ := (ha.sound i hi).outs msgArr (hup ▸ List.mem_cons_self)
  cases out with
  | transaction txn =>
    have hmsg : (Outgoing.transaction txn).message = (transactionMessage txn : Buf) := rfl
    rw [hmsg] at hturn hup ⊢
    rcases ha.kept.route_transaction horder hturn with
      ⟨target, client, hreq, hfound, -, heq⟩ | ⟨err, ip, hreq, -, -, -, heq⟩ | ⟨ip, hreq, hip, -, heq⟩ | ⟨-, -, heq⟩
    all_goals
      obtain ⟨rfl, rfl⟩ := Prod.mk.inj heq
    · rw [Record.turn_forwarded hreq]
      refine ⟨Or.inr ⟨rfl, _, _, rfl⟩, fun j κ => le_rfl, fun hrefuses => ?_⟩
      exact absurd hfound ((hrefuses txn (by simp) hreq).findTarget_ne horder _)
    · rw [Record.turn_errored hreq]
      refine ⟨Or.inr ⟨rfl, _, _, rfl⟩, fun j κ => ?_, fun _ κ => ?_⟩
      · simp [List.countP_append]
      · simp [List.countP_append, List.countP_singleton, Transaction.matches_iff, hreq]
        omega
    · -- A response is one of the first client, to a request of its own.
      have hfirst : i = 0 ∧ ip.clientId.toNat = 0 := by
        refine ⟨?_, ?_⟩
        · by_contra hne
          have hasks := ((hp.quiet i hi hne).up _ (hup ▸ List.mem_cons_self)).2 txn (by simp)
          rw [hreq] at hasks
          cases hasks
        · rw [hp.owners ip (List.mem_of_getElem? hip)]
          rfl
      obtain ⟨rfl, hclient⟩ := hfirst
      rw [Record.turn_answered hreq, hclient]
      refine ⟨Or.inr ⟨rfl, _, _, rfl⟩, fun j κ => ?_, fun _ κ => ?_⟩
      · simp [List.count_append]
      · simp [List.count_append, List.count_singleton, Transaction.matches_iff, hreq]
        omega
    · exact absurd rfl hgoes
  | termination id =>
    have hmsg : (Outgoing.termination id).message = (terminateMessage id : Buf) := rfl
    rw [hmsg] at hturn ⊢
    rcases Router.route_termination hturn with ⟨hone, heq⟩ | ⟨r', text, heq⟩ | ⟨r', heq⟩
    all_goals
      obtain ⟨rfl, rfl⟩ := Prod.mk.inj heq
    · have hcount : s.router.masterCount = 1 := by
        have hsub : s.router.masterCount - 1 + 1 = 0 + 1 := by rw [hone]
        simpa using hsub
      rw [Record.turn_termination]
      exact ⟨Or.inl hcount, fun j κ => le_rfl, fun _ κ => by simp⟩
    · exact absurd rfl hgoes
    · exact absurd rfl hgoes
  | logout =>
    have hmsg : (Outgoing.logout).message = (doneMessage : Buf) := rfl
    rw [hmsg, Router.route_logout] at hturn
    obtain ⟨-, rfl⟩ := Prod.mk.inj hturn
    exact absurd rfl hgoes

theorem Tidy.take (h : s.Tidy) (ha : s.Accounted ms) (hp : s.Piping C own) {i : Nat} {order : List IpInfo} {msgArr : Buf}
    {rest : List Buf} {routed : Routed Buf} (hi : i < s.clients) (hreceiving : s.route = .receiving)
    (hup : (s.flow i).up = msgArr :: rest) (horder : s.router.IterationOrder order)
    (hturn : s.router.route order msgArr = (t.router, routed)) (hroute : t.route = routeLoop routed)
    (hrecord : t.record = s.record.turn msgArr routed)
    (hflow : t.flow = Flow.pass (Function.update s.flow i ((s.flow i).taken rest)) routed) : t.Tidy := by
  intro htlast j hj hended
  have hgoes : routeLoop routed ≠ RouteLoop.aborted := fun heq => by
    unfold LastCall at htlast
    rw [hroute, heq] at htlast
    exact htlast
  obtain ⟨hloop, hmore, hpays⟩ := ha.turn_pays hp hi hup horder hturn hgoes
  have hlast : s.LastCall := by
    unfold LastCall at *
    rw [hreceiving]
    rcases hloop with hone | ⟨hsame, k, out, rfl⟩
    · exact hone
    · rw [hroute] at htlast
      rwa [← hsame]
  obtain ⟨n, hn⟩ := s.router.route_router order msgArr
  rw [hturn] at hn
  have hrouter : t.router = { s.router with masterCount := n } := hn
  have hclients : t.clients = s.clients := by rw [clients, hrouter, clients]
  have hmap : t.router.ipMMap = s.router.ipMMap := by rw [hrouter]
  rw [hclients] at hj
  rw [hflow, Flow.pass_apply] at hended ⊢
  refine Flow.Trailing.deliver ?_ _
  by_cases hji : j = i
  · subst hji
    rw [Function.update_self] at hended ⊢
    have htrailing := h hlast j hj hended
    have hrefuses := htrailing.sent msgArr (hup ▸ List.mem_cons_self)
    exact (htrailing.take hup (hrecord ▸ hpays hrefuses)).mono hmap fun κ => le_rfl
  · rw [Function.update_of_ne hji] at hended ⊢
    exact (h hlast j hj hended).mono hmap (hrecord ▸ hmore j)

/-- Only a call of `terminate` can take the order away. -/
theorem Tidy.move (h : s.Tidy) (ha : s.Accounted ms) (hp : s.Piping C own) (hU : ∀ l m, ¬U.terminates l m)
    (hm : Move U s t) : t.Tidy := by
  cases hm with
  | endpoint i hi hstep hothers hrouter hroute hrecord => exact h.endpoint ha hp hU hstep hothers hrouter hroute hrecord
  | take i order msgArr rest routed hi hreceiving hup horder hturn hroute hrecord hflow =>
    exact h.take ha hp hi hreceiving hup horder hturn hroute hrecord hflow
  | hand k msgArr hsending hroute hrouter hrecord hflow =>
    refine h.same (fun htlast => ?_) hrouter hrecord fun i => by rw [hflow]; exact ⟨rfl, rfl, rfl⟩
    unfold LastCall at *
    rw [hsending]
    rwa [hroute, hrouter] at htlast
  | handDone k hsending hroute hrouter hrecord hflow =>
    refine h.same (fun _ => by simp [LastCall, hsending]) hrouter hrecord fun i => ?_
    rw [hflow]
    by_cases hik : i = k
    · subst hik
      rw [Function.update_self]
      exact ⟨rfl, rfl, rfl⟩
    · rw [Function.update_of_ne hik]
      exact ⟨rfl, rfl, rfl⟩

theorem Tidy.terminate (h : s.Tidy) {i : Nat} {m : UInt64}
    (hbehind : s.LastCall → (s.flow i).Behind s.router s.record i)
    (hs : s.step (.bridge i (.terminate m)) = some t) : t.Tidy := by
  simp only [System.step] at hs
  obtain ⟨hi, c, hc, rfl⟩ := endpointStep_inv hs
  obtain ⟨-, b, hb, rfl⟩ := Endpoint.local?_inv hc
  cases hb
  intro hlast j hj hended
  have hlast : s.LastCall := hlast
  by_cases hji : j = i
  · subst hji
    have hflow : (s.setEndpoint j { s.endpoints j with bridge := (s.endpoints j).bridge.terminate m }).flow j =
        { (s.flow j).push { type := .termination, txn := { id := m } } with
          terminated := (s.flow j).terminated ++ [m] } := by
      rw [flow, setEndpoint_self, Endpoint.terminate_flow]
      rfl
    have hpush := hbehind hlast
    rw [hflow]
    refine ⟨hpush.of_le (fun κ => ?_) hpush.sent fun tx htx hreq => ?_, ?_⟩
    · simp [Flow.given, Flow.returning, Flow.asked, Flow.push, List.countP_append, Master.Txn.answers]
    · rcases List.mem_append.mp htx with htx | htx
      · exact hpush.waiting tx htx hreq
      · rw [List.mem_singleton.mp htx] at hreq
        cases hreq
    · simp [Flow.path, Flow.push]
  · rw [setEndpoint_flow_ne hji] at hended ⊢
    exact h hlast j hj hended

theorem Tidy.step {e : Event Buf} (h : s.Tidy) (ha : s.Accounted ms) (hp : s.Piping C own) (he : s.Timely e)
    (hs : s.step e = some t) : t.Tidy := by
  by_cases hterminate : ∃ i m, e = .bridge i (.terminate m)
  · obtain ⟨i, m, rfl⟩ := hterminate
    exact h.terminate he hs
  · have hkeeps : s.Keeps { issues := fun _ _ => True, terminates := fun _ _ => False } e := by
      cases e with
      | bridge i e =>
        cases e with
        | terminate m => exact hterminate ⟨i, m, rfl⟩
        | _ => trivial
      | _ => trivial
    exact h.move ha hp (fun _ _ hno => hno) (step_move hkeeps hs)

end

/-! ### Once the loop is left -/

/-- No termination is on its way to `route` any more. -/
theorem Accounted.terminations_left (h : s.Accounted ms) (hleft : s.Left) (m : UInt64) :
    total s.clients (Flow.ending m) s.flow = 0 := by
  obtain ⟨hlast, i, m₀, hi, hterm, hmem, howned⟩ := h.lastMaster hleft
  have howner : ∀ j < s.clients, 0 < (s.flow j).ended m → j = i ∧ m = m₀ := by
    intro j hj hpos
    have hm : m ∈ (s.flow j).terminated := List.count_pos_iff.mp hpos
    exact h.oneMaster hlast howned (h.owned_of_terminated hj hm)
  have hending := h.ending m
  have hothers : ∀ j < s.clients, j ≠ i → (s.flow j).ended m = 0 := fun j hj hne =>
    Nat.eq_zero_of_not_pos fun hpos => hne (howner j hj hpos).1
  rw [total_eq_single hi hothers] at hending
  have hle : (s.flow i).ended m ≤ 1 := List.nodup_iff_count_le_one.mp (h.sound i hi).once m
  rcases Nat.eq_zero_or_pos ((s.flow i).ended m) with hzero | hpos
  · omega
  · obtain ⟨-, rfl⟩ := howner i hi hpos
    rw [hterm, List.count_singleton_self] at hending
    omega

/-- The way of a client whose `TERMINATE` has been taken is clear. -/
theorem Accounted.path_left (h : s.Accounted ms) (hleft : s.Left) {i : Nat} (hi : i < s.clients)
    (htrailing : (s.flow i).Trailing s.router s.record i) : (s.flow i).path = [] := by
  by_contra hne
  -- What comes last on it would be a `TERMINATE`.
  have htrue : true ∈ (s.flow i).path := by
    obtain ⟨b, hb⟩ := Option.ne_none_iff_exists'.mp (mt List.getLast?_eq_none_iff.mp hne)
    cases b with
    | true => exact List.mem_of_getLast? hb
    | false => exact absurd hb htrailing.last
  have hnone : ∀ m, (s.flow i).ending m = 0 := fun m => by
    have hle : (s.flow i).ending m ≤ total s.clients (Flow.ending m) s.flow := le_total hi
    rw [h.terminations_left hleft m] at hle
    exact Nat.le_zero.mp hle
  rcases List.mem_append.mp htrue with hmem | hmem
  · obtain ⟨msgArr, hmsg, hmark⟩ := List.mem_filterMap.mp hmem
    obtain ⟨out, rfl⟩ := (h.sound i hi).outs msgArr hmsg
    cases out with
    | transaction txn => simp [Outgoing.message] at hmark
    | termination id =>
      have hpos : 0 < (s.flow i).up.countP (terminates id) :=
        List.countP_pos_iff.mpr ⟨_, hmsg, by simp [Outgoing.message]⟩
      have hzero := hnone id
      simp only [Flow.ending] at hzero
      omega
    | logout => simp [Outgoing.message] at hmark
  · obtain ⟨tx, htx, htype⟩ := List.mem_map.mp hmem
    have hpos : 0 < (s.flow i).ledger.waiting.countP fun x => x.ends tx.txn.id :=
      List.countP_pos_iff.mpr ⟨tx, htx, by simpa [Master.Txn.ends] using htype⟩
    have hzero := hnone tx.txn.id
    simp only [Flow.ending] at hzero
    omega

/-- No request and no response is under way to `route`, and every forwarded request has its response. -/
theorem Accounted.requests_left (h : s.Accounted ms) (ht : s.Tidy) (hleft : s.Left) (κ : Key) :
    total s.clients (Flow.asked κ) s.flow = 0 ∧ total s.clients (Flow.serving κ) s.flow = 0 ∧
      ∃ i < s.clients, s.record.forwarded.count κ ≤ s.record.answered.count (i, κ) ∧
        (0 < s.record.forwarded.count κ → (s.flow i).has κ.1 = true) := by
  obtain ⟨hlast, i, m, hi, -, hmem, howned⟩ := h.lastMaster hleft
  have htrailing := ht hlast i hi (List.ne_nil_of_mem hmem)
  obtain ⟨hforwarded, hserving⟩ := h.trailing_le hlast hi hmem htrailing κ
  have hpath := h.path_left hleft hi htrailing
  obtain ⟨hup, hwaiting⟩ := List.append_eq_nil_iff.mp hpath
  have hcarries : ∀ req, (s.flow i).up.countP (carries req κ) = 0 := fun req => by
    refine List.countP_eq_zero.mpr fun msgArr hmsg hcarries => ?_
    obtain ⟨out, rfl⟩ := (h.sound i hi).outs msgArr hmsg
    cases out with
    | transaction txn =>
      have hmark := List.filterMap_eq_nil_iff.mp hup _ hmsg
      simp [Outgoing.message] at hmark
    | termination id => simp [Outgoing.message] at hcarries
    | logout => simp [Outgoing.message] at hcarries
  have hasked : (s.flow i).asked κ = 0 := hcarries true
  have hreturning : (s.flow i).returning κ = 0 := by
    simp [Flow.returning, hcarries, List.map_eq_nil_iff.mp hwaiting]
  refine ⟨by omega, by omega, i, hi, by omega, fun hpos => ?_⟩
  have hgiven := (h.alone hlast hi howned).2 κ
  have hle := h.asked κ
  exact (h.owned_of_given hi (by omega)).2

/-- All that is under way to `route` is a `DONE`. -/
theorem Accounted.up_left (h : s.Accounted ms) (ht : s.Tidy) (hleft : s.Left) {i : Nat} (hi : i < s.clients)
    {msgArr : Buf} (hmem : msgArr ∈ (s.flow i).up) : msgArr = doneMessage := by
  obtain ⟨out, rfl⟩ := (h.sound i hi).outs msgArr hmem
  have hnone : ∀ {g : Flow S Buf → Nat} {p : Buf → Bool}, total s.clients g s.flow = 0 →
      (s.flow i).up.countP p ≤ g (s.flow i) → p out.message = true → False := by
    intro g p htotal hle hp
    have hpos : 0 < (s.flow i).up.countP p := List.countP_pos_iff.mpr ⟨_, hmem, hp⟩
    have hg : g (s.flow i) ≤ total s.clients g s.flow := le_total hi
    omega
  cases out with
  | transaction txn =>
    obtain ⟨hasked, hserving, -⟩ := h.requests_left ht hleft txn.key
    have hmsg : (Outgoing.transaction txn).message = (transactionMessage txn : Buf) := rfl
    exfalso
    cases hreq : txn.type.isRequest with
    | true =>
      refine hnone hasked le_rfl (p := carries true txn.key) ?_
      rw [hmsg, carries_transactionMessage, Transaction.matches_iff]
      exact ⟨hreq, rfl⟩
    | false =>
      refine hnone hserving (Nat.le_add_left _ _) (p := carries false txn.key) ?_
      rw [hmsg, carries_transactionMessage, Transaction.matches_iff]
      exact ⟨hreq, rfl⟩
  | termination id =>
    have hmsg : (Outgoing.termination id).message = (terminateMessage id : Buf) := rfl
    exfalso
    refine hnone (h.terminations_left hleft id) (Nat.le_add_left _ _) (p := terminates id) ?_
    rw [hmsg, terminates_terminateMessage]
    simp
  | logout => rfl

end System

end SwAxi
