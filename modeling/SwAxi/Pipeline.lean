import SwAxi.Tickets

/-! The flow of the first client, which all requests and responses go to, as a ring of tickets: a request waits for
the writer, goes to `route` and on to the reader, which has the slave serve it; the response goes the same way
round. The ledger, the buffers and the slaves are what they are to be by the tickets in the pipeline. -/

namespace SwAxi
open Wire (Flatbuffers)
open Wire.Flatbuffers (getRoot)
open RouterClient (decode transactionMessage terminateMessage doneMessage)
open TicketRing (Token)
open List (Forall₂)

section
variable {S Buf : Type} [Slave S] (C : Contract S) (own : UInt64 → Prop)

/-- The request has been resolved, with a refusal or a response to it. -/
structure Settled (f : Flow S Buf) (p : Nat) (st : Status) (x r : Transaction) : Prop where
  issued : f.ledger.issued[p]? = some x
  bears : Bears C own f.ledger.issued (some (.refused p)) r ∨ Bears C own f.ledger.issued (some (.response p)) r
  status : st = Bridge.responseStatus r
  buffer : x.type = .readReq → r.ok = true →
    ∃ bytes, C.issues (some bytes) x ∧ f.buffers p = Bridge.overwrite bytes r.data

structure Tracked (f : Flow S Buf) (tickets : List Nat) (front given : Nat) : Prop where
  has : ∀ m, f.has m = true → own m
  users : ∀ x ∈ f.ledger.issued, x.type.isRequest = true ∧ own x.initiator ∧ ∃ bytes, C.issues bytes x
  slaves : C.slaves (f.ledger.issued.take front) f.slaves
  next : ∀ m, (f.ledger.masters m).lastTxnId = UInt64.ofNat (rank f.ledger.issued given m)
  outstanding : ∀ p ∈ tickets, p < given → ∀ x, f.ledger.issued[p]? = some x →
    (f.ledger.masters x.initiator).txns (sentAs f.ledger.issued p x).id =
      some { type := .transaction, buffer := bufferOf p x, txn := sentAs f.ledger.issued p x, promise := some p }
  strangers : ∀ m, ¬own m → ∀ id, (f.ledger.masters m).txns id = none
  pending : ∀ p ∈ tickets, f.ledger.futures p = none
  buffers : ∀ p x, f.ledger.issued[p]? = some x → x.type = .readReq → f.ledger.futures p = none →
    C.issues (some (f.buffers p)) x
  settled : ∀ p st, f.ledger.futures p = some st → ∃ x r, Settled C own f p st x r

end

theorem two_maxObjects_lt : 2 * maxObjects < 2 ^ 64 := by decide

/-- Two requests of a master in the pipeline have different ids. -/
theorem sentAs_ne {r : TicketRing} (hr : r.Inv maxObjects) {issued : List Transaction} {p q : Nat} {x y : Transaction}
    (hp : p ∈ r.tokens.map Token.ticket) (hq : q ∈ r.tokens.map Token.ticket) (hne : p ≠ q)
    (hx : issued[p]? = some x) (hy : issued[q]? = some y) (hinit : x.initiator = y.initiator) :
    (sentAs issued p x).id ≠ (sentAs issued q y).id := by
  obtain ⟨t, ht, rfl⟩ := List.mem_map.mp hp
  obtain ⟨u, hu, rfl⟩ := List.mem_map.mp hq
  have hlarge := two_maxObjects_lt
  have htnear := hr.near ht
  have hunear := hr.near hu
  have htlt := hr.ticket_lt ht
  have hult := hr.ticket_lt hu
  rcases Nat.lt_or_gt_of_ne hne with hlt | hlt
  · exact sentAs_id_ne hlt (by omega) hx hinit
  · exact (sentAs_id_ne hlt (by omega) hy hinit.symm).symm

section
variable {S Buf : Type} [Slave S] {C : Contract S} {own : UInt64 → Prop} {f f' : Flow S Buf}
  {tickets tickets' : List Nat} {front front' given p : Nat} {x : Transaction}

/-! ### The ledger by the tickets -/

theorem Settled.congr {q : Nat} {st : Status} {z r : Transaction} (h : Settled C own f q st z r)
    (hissued : f'.ledger.issued = f.ledger.issued) (hbuffers : f'.buffers q = f.buffers q) :
    Settled C own f' q st z r where
  issued := by rw [hissued]; exact h.issued
  bears := by rw [hissued]; exact h.bears
  status := h.status
  buffer hread hok := by
    obtain ⟨bytes, hbytes, heq⟩ := h.buffer hread hok
    exact ⟨bytes, hbytes, hbuffers.trans heq⟩

theorem Tracked.congr (h : Tracked C own f tickets front given) (hmasters : f'.ledger.masters = f.ledger.masters)
    (hfutures : f'.ledger.futures = f.ledger.futures) (hissued : f'.ledger.issued = f.ledger.issued)
    (hbuffers : f'.buffers = f.buffers) (hhas : f'.has = f.has) (hsub : ∀ p ∈ tickets', p ∈ tickets)
    (hslaves : C.slaves (f.ledger.issued.take front') f'.slaves) : Tracked C own f' tickets' front' given where
  has := by rw [hhas]; exact h.has
  users := by rw [hissued]; exact h.users
  slaves := by rw [hissued]; exact hslaves
  next := by rw [hmasters, hissued]; exact h.next
  outstanding p hp := by rw [hmasters, hissued]; exact h.outstanding p (hsub p hp)
  strangers := by rw [hmasters]; exact h.strangers
  pending p hp := by rw [hfutures]; exact h.pending p (hsub p hp)
  buffers := by rw [hissued, hfutures, hbuffers]; exact h.buffers
  settled p st hp := by
    rw [hfutures] at hp
    obtain ⟨x, r, hr⟩ := h.settled p st hp
    exact ⟨x, r, hr.congr hissued (by rw [hbuffers])⟩

/-- A resolved request has been issued. -/
theorem Tracked.unissued (h : Tracked C own f tickets front given) (hp : f.ledger.issued.length ≤ p) :
    f.ledger.futures p = none := by
  cases hf : f.ledger.futures p with
  | none => rfl
  | some st =>
    obtain ⟨x, r, hr⟩ := h.settled p st hf
    exact absurd (List.getElem?_eq_some_iff.mp hr.issued).1 (Nat.not_lt.mpr hp)

/-- There are no more tickets than unset futures. -/
theorem Tracked.length_le (h : Tracked C own f tickets front given) (hnodup : tickets.Nodup)
    (hlt : ∀ p ∈ tickets, p < f.ledger.issued.length) : tickets.length ≤ f.ledger.pending := by
  have hsub : tickets ⊆ (List.range f.ledger.issued.length).filter fun p => (f.ledger.futures p).isNone := by
    intro p hp
    refine List.mem_filter.mpr ⟨List.mem_range.mpr (hlt p hp), ?_⟩
    rw [h.pending p hp]
    rfl
  rw [Ledger.pending, List.countP_eq_length_filter]
  exact (List.subperm_of_subset hnodup hsub).length_le

theorem getElem?_issue_cases {issued : List Transaction} {y : Transaction} (hy : (issued ++ [x])[p]? = some y) :
    issued[p]? = some y ∨ (p = issued.length ∧ y = x) := by
  rcases Nat.lt_trichotomy p issued.length with hlt | rfl | hlt
  · exact Or.inl (by rwa [List.getElem?_append_left hlt] at hy)
  · exact Or.inr ⟨rfl, by simpa [eq_comm] using hy⟩
  · rw [List.getElem?_eq_none (by simpa using Nat.succ_le_of_lt hlt)] at hy
    cases hy

omit [Slave S] in
theorem issue_buffers {bytes : Option (List UInt8)} (hne : p ≠ f.ledger.issued.length) :
    (f.issue bytes x).buffers p = f.buffers p := by
  cases bytes with
  | none => rfl
  | some bytes => exact Function.update_of_ne hne _ _

theorem Tracked.issue (h : Tracked C own f tickets front given) {bytes : Option (List UInt8)}
    (huser : C.issues bytes x) (hreq : x.type.isRequest = true)
    (hread : bytes.isSome = decide (x.type = .readReq)) (hhas : f.has x.initiator = true)
    (hfront : front ≤ f.ledger.issued.length) (hgiven : given ≤ f.ledger.issued.length) :
    Tracked C own (f.issue bytes x) (tickets ++ [f.ledger.issued.length]) front given where
  has := h.has
  users y hy := by
    rcases List.mem_append.mp hy with hy | hy
    · exact h.users y hy
    · rw [List.mem_singleton.mp hy]
      exact ⟨hreq, h.has _ hhas, bytes, huser⟩
  slaves := by
    simp only [Flow.issue, take_issue hfront]
    exact h.slaves
  next m := by
    simp only [Flow.issue, rank_issue hgiven]
    exact h.next m
  outstanding p hp hlt y hy := by
    have hold : f.ledger.issued[p]? = some y := by
      have hnew : (f.ledger.issued ++ [x])[p]? = some y := hy
      rwa [List.getElem?_append_left (lt_of_lt_of_le hlt hgiven)] at hnew
    have hp : p ∈ tickets := by
      rcases List.mem_append.mp hp with hp | hp
      · exact hp
      · rw [List.mem_singleton.mp hp] at hlt
        omega
    simp only [Flow.issue, sentAs_issue hold]
    exact h.outstanding p hp hlt y hold
  strangers := h.strangers
  pending p hp := by
    rcases List.mem_append.mp hp with hp | hp
    · exact h.pending p hp
    · rw [List.mem_singleton.mp hp]
      exact h.unissued le_rfl
  buffers p y hy htype hf := by
    rcases getElem?_issue_cases hy with hy | ⟨rfl, rfl⟩
    · rw [issue_buffers (Nat.ne_of_lt (List.getElem?_eq_some_iff.mp hy).1)]
      exact h.buffers p y hy htype hf
    · obtain ⟨bytes, rfl⟩ := Option.isSome_iff_exists.mp (by simpa [htype] using hread)
      simp only [Flow.issue, Function.update_self]
      exact huser
  settled p st hf := by
    obtain ⟨y, r, hr⟩ := h.settled p st hf
    have hlt := (List.getElem?_eq_some_iff.mp hr.issued).1
    refine ⟨y, r, getElem?_issued hr.issued, ?_, hr.status, fun htype hok => ?_⟩
    · exact hr.bears.imp Bears.issue Bears.issue
    · rw [issue_buffers (Nat.ne_of_lt hlt)]
      exact hr.buffer htype hok

/-- The writer gives the next request its id. -/
theorem Tracked.assign [Flatbuffers Buf] {r : TicketRing} (hr : r.Inv maxObjects)
    (h : Tracked C own f (r.tokens.map Token.ticket) front given) {rest : List Master.Txn}
    (hmem : given ∈ r.tokens.map Token.ticket) (hx : f.ledger.issued[given]? = some x) :
    Tracked C own (f.assign { type := .transaction, buffer := bufferOf given x, txn := x, promise := some given } rest)
      (r.tokens.map Token.ticket) front (given + 1) := by
  have hid : (f.ledger.masters x.initiator).lastTxnId = (sentAs f.ledger.issued given x).id := h.next _
  have howned := (h.users x (List.mem_of_getElem? hx)).2.1
  refine
    { h with
      has := fun m hm => ?_
      next := fun m => ?_
      outstanding := fun p hmem' hlt y hy => ?_
      strangers := fun m hm id => ?_
      settled := fun p st hf => ?_ }
  · by_cases hm' : m = x.initiator
    · rw [hm']
      exact howned
    · exact h.has m (by simpa [Flow.assign, hm'] using hm)
  · simp only [Flow.assign, Ledger.assign, rank_succ hx]
    by_cases hm : m = x.initiator
    · subst hm
      rw [Function.update_self, if_pos rfl, UInt64.ofNat_add, h.next]
      rfl
    · rw [Function.update_of_ne hm, if_neg (Ne.symm hm)]
      exact h.next m
  · simp only [Flow.assign, Ledger.assign] at hy ⊢
    rcases Nat.lt_succ_iff_lt_or_eq.mp hlt with hlt | rfl
    · have hold := h.outstanding p hmem' hlt y hy
      by_cases hm : y.initiator = x.initiator
      · -- The new id is none of those that are outstanding.
        have hne : (sentAs f.ledger.issued p y).id ≠ (sentAs f.ledger.issued given x).id :=
          sentAs_ne hr hmem' hmem (Nat.ne_of_lt hlt) hy hx hm
        rw [hm] at hold ⊢
        rw [Function.update_self, hid]
        exact (Function.update_of_ne hne _ _).trans hold
      · rw [Function.update_of_ne hm]
        exact hold
    · obtain rfl : x = y := Option.some.inj (hx.symm.trans hy)
      simp only [Function.update_self, hid]
      rfl
  · have hne : m ≠ x.initiator := by
      rintro rfl
      exact hm howned
    simp only [Flow.assign, Ledger.assign]
    rw [Function.update_of_ne hne]
    exact h.strangers m hm id
  · obtain ⟨y, r, hr⟩ := h.settled p st hf
    exact ⟨y, r, hr.congr rfl rfl⟩

theorem filled_of_ne {buffers : Nat → List UInt8} {tx : Master.Txn} {txn : Transaction} {q : Nat}
    (hbuffer : tx.buffer = bufferOf p x) (hne : q ≠ p) : Bridge.filled buffers tx txn q = buffers q := by
  unfold Bridge.filled
  split
  · cases hb : tx.buffer with
    | none => rfl
    | some q' =>
      rw [hb, bufferOf] at hbuffer
      split at hbuffer
      · cases hbuffer
        exact Function.update_of_ne hne _ _
      · cases hbuffer
  · rfl

/-- What stands for a request that has not got back to its future answers it. -/
theorem Bears.answers {issued : List Transaction} {t : Token} {r : Transaction} (h : Bears C own issued (some t) r)
    (hreq : r.type.isRequest = false) : ∃ x, issued[t.ticket]? = some x ∧ Answers (sentAs issued t.ticket x) r ∧
      (Bears C own issued (some (.refused t.ticket)) r ∨ Bears C own issued (some (.response t.ticket)) r) := by
  cases h with
  | request p x hx hreq' => exact absurd (hreq'.symm.trans hreq) (by simp)
  | refused p x err hx hreq' hrefused =>
    exact ⟨x, hx, errorResponse_answers (y := sentAs issued p x) hreq' err, Or.inl (.refused p x err hx hreq' hrefused)⟩
  | response p x r hx hanswers hadmitted hright =>
    exact ⟨x, hx, hanswers, Or.inr (.response p x r hx hanswers hadmitted hright)⟩

/-- The entry that a response matches is that of the request it answers. -/
theorem Tracked.entry {r : TicketRing} (h : Tracked C own f (r.tokens.map Token.ticket) front given)
    {t : Token} (ht : t ∈ r.tokens) (hlt : t.ticket < given) (hx : f.ledger.issued[t.ticket]? = some x)
    {txn : Transaction} (hanswers : Answers (sentAs f.ledger.issued t.ticket x) txn) :
    (f.ledger.masters txn.initiator).txns txn.id = some
      { type := .transaction, buffer := bufferOf t.ticket x, txn := sentAs f.ledger.issued t.ticket x,
        promise := some t.ticket } := by
  rw [hanswers.initiator, hanswers.id]
  exact h.outstanding _ (List.mem_map_of_mem ht) hlt x hx

/-- A response sets the future of its request and fills its buffer. -/
theorem Tracked.resolve {r : TicketRing} (hr : r.Inv maxObjects)
    (h : Tracked C own f (r.tokens.map Token.ticket) front given) {t : Token} {rest : List Token}
    (hr' : r.tokens = t :: rest) (hlt : t.ticket < given) {txn : Transaction}
    (hbears : Bears C own f.ledger.issued (some t) txn) (hreq : txn.type.isRequest = false)
    (hslaves : C.slaves (f.ledger.issued.take front') f.slaves) {tx : Master.Txn}
    (htx : (f.ledger.masters txn.initiator).txns txn.id = some tx) :
    Tracked C own { f with
        held := none, ledger := f.ledger.resolve t.ticket txn, buffers := Bridge.filled f.buffers tx txn }
      (rest.map Token.ticket) front' given := by
  obtain ⟨x, hx, hanswers, hbears⟩ := hbears.answers hreq
  have hmem : t ∈ r.tokens := hr' ▸ List.mem_cons_self
  rw [h.entry hmem hlt hx hanswers] at htx
  cases htx
  have hkeep : ∀ {q}, q ∈ rest.map Token.ticket → q ∈ r.tokens.map Token.ticket := fun hq => by
    rw [hr']
    exact List.mem_cons_of_mem _ hq
  have hne : ∀ {q}, q ∈ rest.map Token.ticket → q ≠ t.ticket := by
    rintro q hq rfl
    have hnodup := hr.nodup
    rw [hr'] at hnodup
    exact (List.nodup_cons.mp hnodup).1 hq
  refine
    { has := h.has
      users := h.users
      slaves := hslaves
      next := fun m => ?_
      outstanding := fun q hq hqlt z hz => ?_
      strangers := fun m hm id => ?_
      pending := fun q hq => ?_
      buffers := fun q z hz htype hf => ?_
      settled := fun q st hf => ?_ }
  · exact Ledger.erase_lastTxnId.trans (h.next m)
  · refine (Ledger.erase_txns_of_ne fun heq => ?_).trans (h.outstanding q (hkeep hq) hqlt z hz)
    obtain ⟨hinit, hid⟩ := Prod.mk.inj heq
    rw [hanswers.id] at hid
    exact sentAs_ne hr (hkeep hq) (List.mem_map_of_mem hmem) (hne hq) hz hx (hinit.trans hanswers.initiator) hid
  · exact Ledger.erase_txns_none (h.strangers m hm id)
  · exact (Ledger.resolve_futures_of_ne (hne hq)).trans (h.pending q (hkeep hq))
  · have hqp : q ≠ t.ticket := by
      rintro rfl
      cases Ledger.resolve_futures_self.symm.trans hf
    simp only
    rw [filled_of_ne rfl hqp]
    exact h.buffers q z hz htype ((Ledger.resolve_futures_of_ne hqp).symm.trans hf)
  · by_cases hqp : q = t.ticket
    · subst hqp
      have hst : Bridge.responseStatus txn = st := Option.some.inj (Ledger.resolve_futures_self.symm.trans hf)
      refine ⟨x, txn, hx, hbears, hst.symm, fun htype hok => ?_⟩
      have hresp : txn.type = .readResp := by
        rw [hanswers.type, if_neg]
        rw [show (sentAs f.ledger.issued t.ticket x).type = _ from htype]
        simp
      refine ⟨_, h.buffers _ x hx htype (h.pending _ (List.mem_map_of_mem hmem)), ?_⟩
      simp [Bridge.filled, hresp, hok, bufferOf, htype]
    · obtain ⟨z, r, hr⟩ := h.settled q st ((Ledger.resolve_futures_of_ne hqp).symm.trans hf)
      exact ⟨z, r, hr.congr rfl (filled_of_ne rfl hqp)⟩

end

/-! ### The stages -/

/-- Where the tickets are, front to back; `none` stands for what carries none. -/
structure Stages where
  held : List (Option Token) := []
  down : List (Option Token) := []
  up : List (Option Token) := []
  waiting : List (Option Token) := []
  /-- The next request to get to the reader or to be refused there. -/
  front : Nat := 0
  /-- The next request to be given its id. -/
  given : Nat := 0

namespace Stages

/-- The tickets that the writer has dealt with. -/
def sent (k : Stages) : List Token := (k.held ++ k.down ++ k.up).reduceOption

def tokens (k : Stages) : List Token := k.sent ++ k.waiting.reduceOption

def ring (k : Stages) (issued : Nat) : TicketRing := { tokens := k.tokens, front := k.front, issued }

/-- The requests that wait for the writer. -/
def unsent (k : Stages) : List Nat := k.waiting.reduceOption.filterMap Token.fresh

end Stages

section
variable {S Buf : Type} [Slave S] [Flatbuffers Buf] (C : Contract S) (own : UInt64 → Prop)

structure Piped (f : Flow S Buf) (k : Stages) : Prop where
  held : Forall₂ (Admitted C own f.ledger.issued) k.held f.held.toList
  down : Forall₂ (Arrives C own f.ledger.issued) k.down f.down
  up : Forall₂ (Departs C own f.ledger.issued) k.up f.up
  waiting : Forall₂ (Waits C own f.ledger.issued) k.waiting f.ledger.waiting
  ring : (k.ring f.ledger.issued.length).Inv maxObjects
  unsent : k.unsent = List.range' k.given (f.ledger.issued.length - k.given)
  given_le : k.given ≤ f.ledger.issued.length
  tracked : Tracked C own f (k.tokens.map Token.ticket) k.front k.given

end

section
variable {S Buf : Type} [Slave S] [Flatbuffers Buf] {C : Contract S} {own : UInt64 → Prop} {f f' : Flow S Buf}
  {k k' : Stages}

/-- The requests that are sent but have not got to the front. -/
theorem Piped.sent_fresh (h : Piped C own f k) :
    k.front ≤ k.given ∧ k.sent.filterMap Token.fresh = List.range' k.front (k.given - k.front) := by
  have hall : k.sent.filterMap Token.fresh ++ k.unsent = List.range' k.front (f.ledger.issued.length - k.front) := by
    rw [Stages.unsent, ← List.filterMap_append]
    exact h.ring.fresh
  have hle := h.given_le
  have hfront : k.front ≤ f.ledger.issued.length := h.ring.front_le
  rw [h.unsent] at hall
  have hlen := congrArg List.length hall
  simp only [List.length_append, List.length_range'] at hlen
  have hfg : k.front ≤ k.given := by omega
  refine ⟨hfg, ?_⟩
  have hsplit : List.range' k.front (f.ledger.issued.length - k.front) =
      List.range' k.front (k.given - k.front) ++ List.range' k.given (f.ledger.issued.length - k.given) := by
    have happend : List.range' k.front (k.given - k.front) ++
        List.range' (k.front + (k.given - k.front)) (f.ledger.issued.length - k.given) =
          List.range' k.front (k.given - k.front + (f.ledger.issued.length - k.given)) := List.range'_append_1
    rw [show k.front + (k.given - k.front) = k.given by omega,
      show k.given - k.front + (f.ledger.issued.length - k.given) = f.ledger.issued.length - k.front by omega] at happend
    exact happend.symm
  exact List.append_cancel_right (hall.trans hsplit)

/-- What is sent has its id. -/
theorem Piped.sent_lt (h : Piped C own f k) {t : Token} (ht : t ∈ k.sent) : t.ticket < k.given := by
  obtain ⟨hle, hfresh⟩ := h.sent_fresh
  cases hf : t.fresh with
  | none =>
    cases t with
    | response p => exact lt_of_lt_of_le (h.ring.returned p (List.mem_append_left _ ht)) hle
    | request p => cases hf
    | refused p => cases hf
  | some p =>
    have hmem : p ∈ k.sent.filterMap Token.fresh := List.mem_filterMap.mpr ⟨t, ht, hf⟩
    rw [hfresh, List.mem_range'_1] at hmem
    rw [Token.fresh_eq_some hf]
    omega

/-- The tickets are where they were, or in the next stage. -/
theorem Piped.move (h : Piped C own f k) (hissued : f'.ledger.issued = f.ledger.issued)
    (hmasters : f'.ledger.masters = f.ledger.masters) (hfutures : f'.ledger.futures = f.ledger.futures)
    (hbuffers : f'.buffers = f.buffers) (hhas : f'.has = f.has)
    (hslaves : C.slaves (f.ledger.issued.take k.front) f'.slaves)
    (hfront : k'.front = k.front) (hgiven : k'.given = k.given) (htokens : k'.tokens = k.tokens)
    (hunsent : k'.unsent = k.unsent) (held : Forall₂ (Admitted C own f.ledger.issued) k'.held f'.held.toList)
    (down : Forall₂ (Arrives C own f.ledger.issued) k'.down f'.down)
    (up : Forall₂ (Departs C own f.ledger.issued) k'.up f'.up)
    (waiting : Forall₂ (Waits C own f.ledger.issued) k'.waiting f'.ledger.waiting) : Piped C own f' k' where
  held := by rw [hissued]; exact held
  down := by rw [hissued]; exact down
  up := by rw [hissued]; exact up
  waiting := by rw [hissued]; exact waiting
  ring := by
    rw [hissued, Stages.ring, htokens, hfront]
    exact h.ring
  unsent := by rw [hissued, hunsent, hgiven]; exact h.unsent
  given_le := by rw [hissued, hgiven]; exact h.given_le
  tracked := by
    rw [htokens, hfront, hgiven]
    exact h.tracked.congr hmasters hfutures hissued hbuffers hhas (fun _ hp => hp) hslaves

/-! ### Steps of the flow -/

/-- What the users of the client keep to. -/
def Contract.users (C : Contract S) : Users where
  issues := C.issues
  terminates _ _ := True

theorem Piped.issue (h : Piped C own f k) {bytes : Option (List UInt8)} {x : Transaction} (huser : C.issues bytes x)
    (hreq : x.type.isRequest = true) (hread : bytes.isSome = decide (x.type = .readReq))
    (hhas : f.has x.initiator = true) (hpending : f.ledger.pending < maxObjects) :
    Piped C own (f.issue bytes x) { k with waiting := k.waiting ++ [some (.request f.ledger.issued.length)] } := by
  have hlen : (f.issue bytes x).ledger.issued.length = f.ledger.issued.length + 1 := List.length_append
  have htokens : Stages.tokens { k with waiting := k.waiting ++ [some (.request f.ledger.issued.length)] } =
      k.tokens ++ [.request f.ledger.issued.length] := by
    simp [Stages.tokens, Stages.sent, List.reduceOption_append]
  have hroom : k.tokens.length < maxObjects := by
    have hle := h.tracked.length_le h.ring.nodup fun p hp => by
      obtain ⟨t, ht, rfl⟩ := List.mem_map.mp hp
      exact h.ring.ticket_lt ht
    rw [List.length_map] at hle
    exact lt_of_le_of_lt hle hpending
  refine
    { held := h.held.imp fun _ _ ha => ha.issue
      down := h.down.imp fun _ _ ha => ha.issue
      up := h.up.imp fun _ _ hd => hd.issue
      waiting := ?_
      ring := ?_
      unsent := ?_
      given_le := by rw [hlen]; exact Nat.le_succ_of_le h.given_le
      tracked := ?_ }
  · have hnew : (f.ledger.issued ++ [x])[f.ledger.issued.length]? = some x := by simp
    have hbuffer : bytes.map (fun _ => f.ledger.issued.length) = bufferOf f.ledger.issued.length x := by
      unfold bufferOf
      cases bytes with
      | none => simpa [eq_comm] using hread
      | some bytes => simpa [eq_comm] using hread
    refine List.rel_append (h.waiting.imp fun _ _ hw => hw.issue) (.cons ?_ .nil)
    rw [hbuffer]
    exact .request _ x hnew hreq (C.target huser) (h.tracked.has _ hhas)
  · rw [Stages.ring, htokens, hlen]
    exact h.ring.step (.issue _ hroom)
  · rw [hlen, Nat.sub_add_comm h.given_le, List.range'_concat, Stages.unsent, List.reduceOption_append,
      List.filterMap_append, ← Stages.unsent, h.unsent]
    have hle := h.given_le
    simp [List.reduceOption, Nat.add_sub_cancel' hle]
  · rw [htokens, List.map_append]
    exact h.tracked.issue huser hreq hread hhas (h.ring.front_le) h.given_le

/-- Something without a ticket waits for the writer. -/
theorem Piped.push (h : Piped C own f k) {tx : Master.Txn} (htx : Waits C own f.ledger.issued none tx) :
    Piped C own (f.push tx) { k with waiting := k.waiting ++ [none] } :=
  h.move rfl rfl rfl rfl rfl h.tracked.slaves rfl rfl
    (by simp [Stages.tokens, Stages.sent, List.reduceOption])
    (by simp [Stages.unsent, List.reduceOption]) h.held h.down h.up
    (List.rel_append h.waiting (.cons htx .nil))

/-- The writer sends what is no request. -/
theorem Piped.send (h : Piped C own f k) {tx : Master.Txn} {rest : List Master.Txn}
    (hw : f.ledger.waiting = tx :: rest) {msgArr : Buf}
    (hdeparts : ∀ o, Waits C own f.ledger.issued o tx →
      Departs C own f.ledger.issued o msgArr ∧ ∀ t, o = some t → t.fresh = none) :
    ∃ k', Piped C own (f.send rest msgArr) k' := by
  have hwaiting := h.waiting
  rw [hw] at hwaiting
  obtain ⟨o, ws, ho, hws, hk⟩ := List.forall₂_cons_right_iff.mp hwaiting
  obtain ⟨hmsg, hold⟩ := hdeparts o ho
  refine ⟨{ k with waiting := ws, up := k.up ++ [o] }, h.move rfl rfl rfl rfl rfl h.tracked.slaves rfl rfl ?_ ?_
    h.held h.down (List.rel_append h.up (.cons hmsg .nil)) hws⟩
  · cases o <;> simp [Stages.tokens, Stages.sent, hk, List.reduceOption]
  · cases o with
    | none => simp [Stages.unsent, hk, List.reduceOption]
    | some t => simp [Stages.unsent, hk, List.reduceOption_cons_of_some, hold t rfl]

/-- The writer gives the next request its id and sends it. -/
theorem Piped.assign (h : Piped C own f k) {tx : Master.Txn} {rest : List Master.Txn}
    (hw : f.ledger.waiting = tx :: rest) (hreq : tx.isRequest = true) :
    ∃ k', Piped C own (f.assign tx rest) k' := by
  have hwaiting := h.waiting
  rw [hw] at hwaiting
  obtain ⟨o, ws, ho, hws, hk⟩ := List.forall₂_cons_right_iff.mp hwaiting
  obtain ⟨htype, hreq⟩ := Master.Txn.type_of_isRequest hreq
  cases ho with
  | termination tx htype' =>
    rw [htype'] at htype
    cases htype
  | response o tx htype' hreq' => exact absurd (hreq.symm.trans hreq') (by simp)
  | request p x hx hreq' htarget howned =>
    -- The first of the requests without an id is the next to be given one.
    have hunsent := h.unsent
    simp only [Stages.unsent, hk, List.reduceOption_cons_of_some, List.filterMap_cons_some (Token.fresh_request p)]
      at hunsent
    have hlt : p < f.ledger.issued.length := (List.getElem?_eq_some_iff.mp hx).1
    obtain ⟨n, hn⟩ : ∃ n, f.ledger.issued.length - k.given = n + 1 := by
      refine Nat.exists_eq_succ_of_ne_zero fun hzero => ?_
      rw [hzero] at hunsent
      cases hunsent
    rw [hn, List.range'_succ] at hunsent
    obtain ⟨rfl, hrest⟩ := List.cons.inj hunsent
    have htokens : Stages.tokens { k with waiting := ws, up := k.up ++ [some (.request k.given)], given := k.given + 1 } =
        k.tokens := by
      simp [Stages.tokens, Stages.sent, hk, List.reduceOption]
    have hmem : k.given ∈ k.tokens.map Token.ticket := by
      refine List.mem_map.mpr ⟨.request k.given, List.mem_append_right _ ?_, rfl⟩
      rw [hk, List.reduceOption_cons_of_some]
      exact List.mem_cons_self
    have hid : (f.ledger.masters x.initiator).lastTxnId = (sentAs f.ledger.issued k.given x).id := h.tracked.next _
    refine ⟨{ k with waiting := ws, up := k.up ++ [some (.request k.given)], given := k.given + 1 },
      { held := h.held
        down := h.down
        up := List.rel_append h.up (.cons ?_ .nil)
        waiting := hws
        ring := ?_
        unsent := ?_
        given_le := hlt
        tracked := ?_ }⟩
    · rw [hid]
      exact .transaction _ _ (.request k.given x hx hreq htarget)
    · rw [Stages.ring, htokens]
      exact h.ring
    · rw [Stages.unsent, hrest]
      simp only [Flow.assign, Ledger.assign_issued]
      rw [show f.ledger.issued.length - (k.given + 1) = n by omega]
    · rw [htokens]
      exact h.tracked.assign h.ring hmem hx

/-- A message without a ticket is gone from its front. -/
theorem Piped.leave (h : Piped C own f k) {msgArr : Buf} {rest : List Buf} (hup : f.up = msgArr :: rest)
    (hnone : ∀ o, Departs C own f.ledger.issued o msgArr → o = none) : ∃ k', Piped C own { f with up := rest } k' := by
  have hfront := h.up
  rw [hup] at hfront
  obtain ⟨o, us, ho, hus, hk⟩ := List.forall₂_cons_right_iff.mp hfront
  obtain rfl := hnone o ho
  exact ⟨{ k with up := us }, h.move rfl rfl rfl rfl rfl h.tracked.slaves rfl rfl
    (by simp [Stages.tokens, Stages.sent, hk, List.reduceOption]) rfl h.held h.down hus
    h.waiting⟩

/-- The reader takes the next message. -/
theorem Piped.receive (h : Piped C own f k) {msgArr : Buf} {rest : List Buf} (hdown : f.down = msgArr :: rest)
    {held : Option Transaction} (hheld : f.held = none)
    (htakes : ∀ o, Arrives C own f.ledger.issued o msgArr → ∃ os, os.reduceOption = o.toList ∧
      Forall₂ (Admitted C own f.ledger.issued) os held.toList) :
    ∃ k', Piped C own { f with down := rest, held } k' := by
  have hfront := h.down
  rw [hdown] at hfront
  obtain ⟨o, ds, ho, hds, hk⟩ := List.forall₂_cons_right_iff.mp hfront
  obtain ⟨os, htokens, hos⟩ := htakes o ho
  have hnil : k.held = [] := by
    have hempty := h.held
    rw [hheld] at hempty
    exact List.forall₂_nil_right_iff.mp hempty
  refine ⟨{ k with held := os, down := ds }, h.move rfl rfl rfl rfl rfl h.tracked.slaves rfl rfl ?_ rfl hos hds h.up
    h.waiting⟩
  cases o <;> simp [Stages.tokens, Stages.sent, hk, hnil, List.reduceOption_append, List.reduceOption_cons_of_some,
    List.reduceOption_cons_of_none, htokens]

/-! #### What the reader holds -/

theorem Piped.holding (h : Piped C own f k) {txn : Transaction} (hheld : f.held = some txn) :
    ∃ o, k.held = [o] ∧ Admitted C own f.ledger.issued o txn := by
  have hfront := h.held
  rw [hheld] at hfront
  obtain ⟨o, os, ho, hos, hk⟩ := List.forall₂_cons_right_iff.mp hfront
  rw [List.forall₂_nil_right_iff.mp hos] at hk
  exact ⟨o, hk, ho⟩

/-- The ticket of what the reader holds is at the front. -/
theorem Stages.tokens_held {o : Option Token} (hk : k.held = [o]) :
    k.tokens = o.toList ++ Stages.tokens { k with held := [] } := by
  cases o <;> simp [Stages.tokens, Stages.sent, hk, List.reduceOption]

theorem Piped.front_eq (h : Piped C own f k) {t : Token} {rest : List Token} (hr : k.tokens = t :: rest) {p : Nat}
    (ht : t.fresh = some p) : p = k.front := (h.ring.head_fresh hr ht).1

/-- The slave serves the request. -/
theorem Piped.serve (h : Piped C own f k) {txn : Transaction} {s : S} (hheld : f.held = some txn)
    (hreq : txn.type.isRequest = true) (hs : f.slaves txn.target = some s) :
    ∃ k', Piped C own { f.push { type := .transaction, txn := (Bridge.serve s txn).2 } with
      held := none, slaves := Function.update f.slaves txn.target (some (Bridge.serve s txn).1) } k' := by
  obtain ⟨o, hk, hbears, hadmitted⟩ := h.holding hheld
  have hfront := Stages.tokens_held hk
  have hanswers := Bridge.serve_answers s txn
  cases hbears with
  | request p x hx hreq' htarget =>
    obtain rfl := h.front_eq hfront (Token.fresh_request p)
    obtain ⟨-, -, bytes, huser⟩ := h.tracked.users x (List.mem_of_getElem? hx)
    have hzero : (sentAs f.ledger.issued k.front x).target = 0 := htarget
    rw [hzero] at hs
    have hadm : C.admits x := hadmitted k.front x rfl hx
    obtain ⟨hslaves, hright⟩ := C.serve (x := x) (s := s)
      h.tracked.slaves huser hadm hs
    have hnew : Stages.tokens { k with
        held := [], waiting := k.waiting ++ [some (.response k.front)], front := k.front + 1 } =
          Stages.tokens { k with held := [] } ++ [.response k.front] := by
      simp [Stages.tokens, Stages.sent, List.reduceOption]
    refine ⟨{ k with held := [], waiting := k.waiting ++ [some (.response k.front)], front := k.front + 1 },
      { held := .nil
        down := h.down
        up := h.up
        waiting := List.rel_append h.waiting (.cons (.response _ _ rfl hanswers.isRequest ?_
          (.response k.front x _ hx hanswers hadm hright)) .nil)
        ring := ?_
        unsent := ?_
        given_le := h.given_le
        tracked := ?_ }⟩
    · rintro _ ⟨⟩
      rfl
    · rw [Stages.ring, hnew]
      exact h.ring.step (.serve _ _ _ hfront)
    · have hsame : Stages.unsent { k with
          held := [], waiting := k.waiting ++ [some (.response k.front)], front := k.front + 1 } = k.unsent := by
        simp [Stages.unsent, List.reduceOption]
      rw [hsame]
      exact h.unsent
    · refine h.tracked.congr rfl rfl rfl rfl rfl (fun q hq => ?_) ?_
      · rw [hnew, List.map_append, List.mem_append] at hq
        rw [hfront, List.map_append]
        rcases hq with hq | hq
        · exact List.mem_append_right _ hq
        · rw [List.mem_singleton.mp hq]
          exact List.mem_append_left _ (List.mem_singleton_self _)
      · rw [take_succ hx]
        simp only [hzero]
        exact hslaves
  | refused p x err hx hreq' =>
    have hno := (errorResponse_answers (y := sentAs f.ledger.issued p x) hreq' err).isRequest
    exact absurd (hreq.symm.trans hno) (by simp)
  | response p x r hx hanswers' => exact absurd (hreq.symm.trans hanswers'.isRequest) (by simp)
  | stray y hstray =>
    have hserved : C.slaves (f.ledger.issued.take k.front)
        (Function.update f.slaves txn.target (some (Bridge.serve s txn).1)) :=
      C.serveForeign h.tracked.slaves (hstray.request hreq).1 hs
    refine ⟨{ k with held := [], waiting := k.waiting ++ [none] },
      h.move rfl rfl rfl rfl rfl hserved rfl rfl ?_ ?_ .nil h.down h.up
        (List.rel_append h.waiting (.cons (.response _ _ rfl hanswers.isRequest ?_ (.stray _ ?_)) .nil))⟩
    · rw [hfront]
      simp [Stages.tokens, Stages.sent, List.reduceOption]
    · simp [Stages.unsent, List.reduceOption]
    · rintro _ ⟨⟩
    · exact hstray.response hanswers

/-- There is no slave for the request. -/
theorem Piped.unserved (h : Piped C own f k) {txn : Transaction} (hheld : f.held = some txn)
    (hreq : txn.type.isRequest = true) (hs : f.slaves txn.target = none) :
    ∃ k', Piped C own { f with held := none } k' := by
  obtain ⟨o, hk, hbears, -⟩ := h.holding hheld
  have hfront := Stages.tokens_held hk
  cases hbears with
  | request p x hx hreq' htarget =>
    obtain rfl := h.front_eq hfront (Token.fresh_request p)
    have hzero : (sentAs f.ledger.issued k.front x).target = 0 := htarget
    rw [hzero] at hs
    refine ⟨{ k with held := [], front := k.front + 1 },
      { held := .nil
        down := h.down
        up := h.up
        waiting := h.waiting
        ring := h.ring.step (.drop _ _ _ _ hfront (Token.fresh_request _))
        unsent := h.unsent
        given_le := h.given_le
        tracked := h.tracked.congr rfl rfl rfl rfl rfl (fun q hq => ?_) ?_ }⟩
    · rw [hfront]
      exact List.mem_cons_of_mem _ hq
    · rw [take_succ hx]
      exact C.drop h.tracked.slaves (Or.inr hs)
  | refused p x err hx hreq' =>
    have hno := (errorResponse_answers (y := sentAs f.ledger.issued p x) hreq' err).isRequest
    exact absurd (hreq.symm.trans hno) (by simp)
  | response p x r hx hanswers' => exact absurd (hreq.symm.trans hanswers'.isRequest) (by simp)
  | stray y hstray =>
    refine ⟨{ k with held := [] }, h.move rfl rfl rfl rfl rfl h.tracked.slaves rfl rfl ?_ rfl .nil h.down h.up h.waiting⟩
    rw [hfront]
    rfl

/-- A response that the reader holds has an entry if and only if it has a ticket, and then it is resolved as its
    request asks. -/
theorem Piped.matched (h : Piped C own f k) {txn : Transaction} (hheld : f.held = some txn)
    (hreq : txn.type.isRequest = false) :
    (∃ t x, k.held = [some t] ∧ f.ledger.issued[t.ticket]? = some x ∧ Bears C own f.ledger.issued (some t) txn ∧
      Answers (sentAs f.ledger.issued t.ticket x) txn ∧ f.ledger.futures t.ticket = none ∧
      (f.ledger.masters txn.initiator).txns txn.id = some
        { type := .transaction, buffer := bufferOf t.ticket x, txn := sentAs f.ledger.issued t.ticket x,
          promise := some t.ticket }) ∨
    (k.held = [none] ∧ (f.ledger.masters txn.initiator).txns txn.id = none) := by
  obtain ⟨o, hk, hbears, -⟩ := h.holding hheld
  have hfront := Stages.tokens_held hk
  cases o with
  | none =>
    cases hbears with
    | stray y hstray => exact Or.inr ⟨hk, h.tracked.strangers _ hstray.initiator _⟩
  | some t =>
    obtain ⟨x, hx, hanswers, -⟩ := hbears.answers hreq
    have hmem : t ∈ k.tokens := by
      rw [hfront]
      exact List.mem_cons_self
    have hlt : t.ticket < k.given := h.sent_lt (by
      simp only [Stages.sent, hk]
      exact List.mem_cons_self)
    exact Or.inl ⟨t, x, hk, hx, hbears, hanswers, h.tracked.pending _ (List.mem_map_of_mem hmem),
      h.tracked.entry (r := k.ring f.ledger.issued.length) hmem hlt hx hanswers⟩

/-- A response resolves its request. -/
theorem Piped.resolve (h : Piped C own f k) {txn : Transaction} (hheld : f.held = some txn)
    (hreq : txn.type.isRequest = false) {tx : Master.Txn} (htx : (f.ledger.masters txn.initiator).txns txn.id = some tx)
    {p : Nat} (hp : tx.promise = some p) :
    ∃ k', Piped C own { f with
      held := none, ledger := f.ledger.resolve p txn, buffers := Bridge.filled f.buffers tx txn } k' := by
  rcases h.matched hheld hreq with ⟨t, x, hk, hx, hbears, hanswers, -, hentry⟩ | ⟨-, hnone⟩
  · have hfront : k.tokens = t :: Stages.tokens { k with held := [] } := Stages.tokens_held hk
    obtain rfl : t.ticket = p := by
      rw [hentry] at htx
      cases htx
      exact Option.some.inj hp
    have hlt : t.ticket < k.given := h.sent_lt (by
      simp only [Stages.sent, hk]
      exact List.mem_cons_self)
    have hresolved {front'} (hslaves : C.slaves (f.ledger.issued.take front') f.slaves) :=
      h.tracked.resolve (r := k.ring f.ledger.issued.length) h.ring hfront hlt hbears hreq hslaves htx
    cases hbears with
    | request p x hx' hreq' => exact absurd (hreq'.symm.trans hreq) (by simp)
    | refused p x err hx' hreq' hrefused =>
      obtain rfl := h.front_eq hfront (Token.fresh_refused p)
      refine ⟨{ k with held := [], front := k.front + 1 },
        { held := .nil
          down := h.down
          up := h.up
          waiting := h.waiting
          ring := h.ring.step (.drop _ _ _ _ hfront (Token.fresh_refused _))
          unsent := h.unsent
          given_le := h.given_le
          tracked := hresolved ?_ }⟩
      rw [take_succ hx']
      exact C.drop h.tracked.slaves (Or.inl hrefused)
    | response p x r hx' =>
      exact ⟨{ k with held := [] },
        { held := .nil
          down := h.down
          up := h.up
          waiting := h.waiting
          ring := h.ring.step (.leave _ _ _ hfront)
          unsent := h.unsent
          given_le := h.given_le
          tracked := hresolved h.tracked.slaves }⟩
  · rw [hnone] at htx
    cases htx

/-- A response that finds no entry has no ticket. -/
theorem Piped.unmatched (h : Piped C own f k) {txn : Transaction} (hheld : f.held = some txn)
    (hreq : txn.type.isRequest = false) (htx : (f.ledger.masters txn.initiator).txns txn.id = none) :
    ∃ k', Piped C own { f with held := none } k' := by
  rcases h.matched hheld hreq with ⟨t, x, -, -, -, -, -, hentry⟩ | ⟨hk, -⟩
  · rw [htx] at hentry
    cases hentry
  · refine ⟨{ k with held := [] }, h.move rfl rfl rfl rfl rfl h.tracked.slaves rfl rfl ?_ rfl .nil h.down h.up h.waiting⟩
    rw [Stages.tokens_held hk]
    rfl

/-- No response makes the reader crash. -/
theorem Piped.sound (h : Piped C own f k) {txn : Transaction} (hheld : f.held = some txn)
    (hreq : txn.type.isRequest = false) {tx : Master.Txn}
    (htx : (f.ledger.masters txn.initiator).txns txn.id = some tx) :
    (∃ p, tx.promise = some p ∧ f.ledger.futures p = none) ∧ (txn.type = .readResp → tx.buffer ≠ none) := by
  rcases h.matched hheld hreq with ⟨t, x, -, hx, -, hanswers, hpending, hentry⟩ | ⟨-, hnone⟩
  · rw [hentry] at htx
    cases htx
    refine ⟨⟨_, rfl, hpending⟩, fun hread => ?_⟩
    have hreq' := (h.tracked.users x (List.mem_of_getElem? hx)).1
    have hx' : x.type = .readReq := hanswers.readReq hreq' hread
    simp [bufferOf, hx']
  · rw [hnone] at htx
    cases htx

/-! #### The steps together -/

theorem Piped.step (h : Piped C own f k) (hintact : f.intact = true) (hs : Flow.Step C.users f f') :
    ∃ k', Piped C own f' k' := by
  cases hs with
  | stay => exact ⟨k, h⟩
  | issue bytes x huser hreq hread hhas hactive hpending => exact ⟨_, h.issue huser hreq hread hhas hpending⟩
  | terminate m huser hhas hactive =>
    have hpush := h.push (.termination { type := .termination, txn := { id := m } } rfl)
    exact ⟨_, { hpush with
      tracked := hpush.tracked.congr rfl rfl rfl rfl rfl (fun _ hp => hp) hpush.tracked.slaves }⟩
  | termination tx rest hw htype =>
    refine h.send hw fun o ho => ?_
    cases ho with
    | termination => exact ⟨.termination _, fun t ht => nomatch ht⟩
    | request p x => cases htype
    | response o tx htype' =>
      rw [htype'] at htype
      cases htype
  | request tx rest hw hreq => exact h.assign hw hreq
  | response tx rest hw htype hreq =>
    refine h.send hw fun o ho => ?_
    cases ho with
    | termination tx htype' =>
      rw [htype'] at htype
      cases htype
    | request p x hx hreq' => exact absurd (hreq'.symm.trans hreq) (by simp)
    | response o tx htype' hreq' hold hbears => exact ⟨.transaction o _ hbears, hold⟩
  | logout =>
    exact ⟨{ k with up := k.up ++ [none] }, h.move rfl rfl rfl rfl rfl h.tracked.slaves rfl rfl
      (by simp [Stages.tokens, Stages.sent, List.reduceOption]) rfl h.held h.down
      (List.rel_append h.up (.cons .logout .nil)) h.waiting⟩
  | lose up msgArr hup hintact' =>
    rw [hintact] at hintact'
    cases hintact'
  | leave msgArr rest hup htype =>
    refine h.leave hup fun o ho => ?_
    cases ho with
    | termination id => rfl
    | logout => rfl
    | transaction o y hbears => simp at htype
  | receive msgArr rest txn hdown hdec hheld =>
    refine h.receive hdown hheld fun o ho => ?_
    cases ho with
    | done msgArr htype =>
      rw [decode_eq_none (by simp [htype])] at hdec
      cases hdec
    | transaction o msgArr y hdec' hadmitted =>
      rw [hdec] at hdec'
      cases hdec'
      exact ⟨[o], List.reduceOption_singleton o, .cons hadmitted .nil⟩
  | finish msgArr rest hdown htype =>
    have hfront := h.down
    rw [hdown] at hfront
    obtain ⟨o, ds, ho, hds, hk⟩ := List.forall₂_cons_right_iff.mp hfront
    cases ho with
    | done =>
      exact ⟨{ k with down := ds }, h.move rfl rfl rfl rfl rfl h.tracked.slaves rfl rfl
        (by simp [Stages.tokens, Stages.sent, hk, List.reduceOption]) rfl h.held hds h.up h.waiting⟩
    | transaction o msgArr y hdec =>
      rw [decode_eq_none (by simp [htype])] at hdec
      cases hdec
  | reject msgArr rest intact hdown hdec htype =>
    have hfront := h.down
    rw [hdown] at hfront
    obtain ⟨o, ds, ho, -, -⟩ := List.forall₂_cons_right_iff.mp hfront
    cases ho with
    | done msgArr htype' => exact absurd htype' htype
    | transaction o msgArr y hdec' =>
      rw [hdec] at hdec'
      cases hdec'
  | serve txn s hheld hreq hs => exact h.serve hheld hreq hs
  | unknownSlave txn hheld hreq hs => exact h.unserved hheld hreq hs
  | unknownRequest txn hheld hreq htx => exact h.unmatched hheld hreq htx
  | crash txn tx buffers hheld hreq htx hbad =>
    obtain ⟨⟨p, hp, hpending⟩, hbuffer⟩ := h.sound hheld hreq htx
    rcases hbad with hset | ⟨hnull, hread, -⟩
    · exact absurd hpending (hset p hp)
    · exact absurd hnull (hbuffer hread)
  | resolve txn tx p hheld hreq htx hp hf => exact h.resolve hheld hreq htx hp

/-! ### Turns of `route` -/

/-- `route` puts what it makes of the next message on its way to the reader. -/
theorem Piped.pass (h : Piped C own f k) {msgArr out : Buf} {rest : List Buf} (hup : f.up = msgArr :: rest)
    (hpasses : ∀ o, Departs C own f.ledger.issued o msgArr →
      ∃ o', Arrives C own f.ledger.issued o' out ∧ Passes o o') :
    ∃ k', Piped C own ((f.taken rest).deliver [out]) k' := by
  have hfront := h.up
  rw [hup] at hfront
  obtain ⟨o, us, ho, hus, hk⟩ := List.forall₂_cons_right_iff.mp hfront
  obtain ⟨o', hout, hpass⟩ := hpasses o ho
  have hdown := List.rel_append h.down (.cons hout .nil)
  cases hpass with
  | same =>
    refine ⟨{ k with down := k.down ++ [o], up := us },
      h.move rfl rfl rfl rfl rfl h.tracked.slaves rfl rfl ?_ rfl h.held hdown hus h.waiting⟩
    cases o <;> simp [Stages.tokens, Stages.sent, hk, List.reduceOption]
  | refused p =>
    have hbefore : k.tokens = (k.held ++ k.down).reduceOption ++ .request p :: (us ++ k.waiting).reduceOption := by
      simp [Stages.tokens, Stages.sent, hk, List.reduceOption]
    have hafter : Stages.tokens { k with down := k.down ++ [some (.refused p)], up := us } =
        (k.held ++ k.down).reduceOption ++ .refused p :: (us ++ k.waiting).reduceOption := by
      simp [Stages.tokens, Stages.sent, List.reduceOption]
    refine ⟨{ k with down := k.down ++ [some (.refused p)], up := us },
      { held := h.held
        down := hdown
        up := hus
        waiting := h.waiting
        ring := ?_
        unsent := h.unsent
        given_le := h.given_le
        tracked := h.tracked.congr rfl rfl rfl rfl rfl (fun q hq => ?_) h.tracked.slaves }⟩
    · rw [Stages.ring, hafter]
      exact h.ring.step (.refuse _ _ _ p hbefore)
    · rw [hbefore]
      rw [hafter] at hq
      simpa using hq

/-- Something without a ticket comes from another client. -/
theorem Piped.deliver (h : Piped C own f k) {out : Buf} (hout : Arrives C own f.ledger.issued none out) :
    ∃ k', Piped C own (f.deliver [out]) k' :=
  ⟨{ k with down := k.down ++ [none] }, h.move rfl rfl rfl rfl rfl h.tracked.slaves rfl rfl
    (by simp [Stages.tokens, Stages.sent, List.reduceOption]) rfl h.held (List.rel_append h.down (.cons hout .nil)) h.up
    h.waiting⟩

end

/-! ### The other clients -/

section
variable {S Buf : Type} [Slave S] [Flatbuffers Buf] (C : Contract S) (own : UInt64 → Prop)

/-- Nothing but the end of the session comes to the client. -/
structure Quiet (f : Flow S Buf) : Prop where
  has : ∀ m, f.has m = true → ¬own m
  waiting : ∀ tx ∈ f.ledger.waiting, tx.type = .transaction →
    tx.txn.type.isRequest = true ∧ ∀ id, Stray C own { tx.txn with id }
  up : ∀ msgArr ∈ f.up, Departs C own [] none msgArr ∧ ∀ txn ∈ decode msgArr, txn.type.isRequest = true
  down : ∀ msgArr ∈ f.down, (getRoot msgArr).getType = .done
  held : f.held = none

end

section
variable {S Buf : Type} [Slave S] [Flatbuffers Buf] {C : Contract S} {own : UInt64 → Prop} {f f' : Flow S Buf}

theorem Quiet.send (h : Quiet C own f) {tx : Master.Txn} {rest : List Master.Txn} (hw : f.ledger.waiting = tx :: rest)
    {msgArr : Buf} (hmsg : Departs C own [] none msgArr) (hreq : ∀ txn ∈ decode msgArr, txn.type.isRequest = true) :
    Quiet C own (f.send rest msgArr) :=
  { h with
    waiting := fun x hx => h.waiting x (hw ▸ List.mem_cons_of_mem _ hx)
    up := fun out hmem => by
      rcases List.mem_append.mp hmem with hmem | hmem
      · exact h.up out hmem
      · rw [List.mem_singleton.mp hmem]
        exact ⟨hmsg, hreq⟩ }

theorem Quiet.step (h : Quiet C own f) (hintact : f.intact = true)
    (hforeign : ∀ bytes x id, C.issues bytes x → C.foreign { x with id }) (hs : Flow.Step C.users f f') :
    Quiet C own f' := by
  cases hs with
  | stay => exact h
  | issue bytes x huser hreq hread hhas =>
    have htarget : x.target = 0 := C.target huser
    exact { h with
            waiting := fun tx htx htype => by
              rcases List.mem_append.mp htx with htx | htx
              · exact h.waiting tx htx htype
              · rw [List.mem_singleton.mp htx]
                exact ⟨hreq, fun id => ⟨h.has _ hhas, fun _ => ⟨hforeign bytes x id huser, htarget⟩⟩⟩ }
  | terminate m huser hhas =>
    exact { h with
            waiting := fun tx htx htype => by
              rcases List.mem_append.mp htx with htx | htx
              · exact h.waiting tx htx htype
              · rw [List.mem_singleton.mp htx] at htype
                cases htype }
  | termination tx rest hw htype => exact h.send hw (.termination _) (by simp)
  | request tx rest hw hreq =>
    obtain ⟨htype, htxn⟩ := Master.Txn.type_of_isRequest hreq
    obtain ⟨-, hstray⟩ := h.waiting tx (hw ▸ List.mem_cons_self) htype
    have hsent := h.send hw (.transaction none _ (.stray _ (hstray (f.ledger.masters tx.txn.initiator).lastTxnId)))
      (by simpa using htxn)
    exact { hsent with
            has := fun m hm => by
              by_cases hm' : m = tx.txn.initiator
              · rw [hm']
                exact (hstray 0).initiator
              · exact h.has m (by simpa [Flow.assign, hm'] using hm) }
  | response tx rest hw htype hreq =>
    obtain ⟨hreq', -⟩ := h.waiting tx (hw ▸ List.mem_cons_self) htype
    exact absurd (hreq'.symm.trans hreq) (by simp)
  | logout =>
    exact { h with
            up := fun msgArr hmem => by
              rcases List.mem_append.mp hmem with hmem | hmem
              · exact h.up msgArr hmem
              · rw [List.mem_singleton.mp hmem]
                exact ⟨.logout, by simp⟩ }
  | lose up msgArr hup hintact' =>
    rw [hintact] at hintact'
    cases hintact'
  | leave msgArr rest hup htype =>
    exact { h with up := fun out hmem => h.up out (hup ▸ List.mem_cons_of_mem _ hmem) }
  | receive msgArr rest txn hdown hdec =>
    rw [decode_eq_none (by simp [h.down msgArr (hdown ▸ List.mem_cons_self)])] at hdec
    cases hdec
  | finish msgArr rest hdown =>
    exact { h with down := fun out hmem => h.down out (hdown ▸ List.mem_cons_of_mem _ hmem) }
  | reject msgArr rest intact hdown hdec htype => exact absurd (h.down msgArr (hdown ▸ List.mem_cons_self)) htype
  | serve txn s hheld =>
    rw [h.held] at hheld
    cases hheld
  | unknownSlave txn hheld =>
    rw [h.held] at hheld
    cases hheld
  | unknownRequest txn hheld =>
    rw [h.held] at hheld
    cases hheld
  | crash txn tx buffers hheld =>
    rw [h.held] at hheld
    cases hheld
  | resolve txn tx p hheld =>
    rw [h.held] at hheld
    cases hheld

theorem Quiet.deliver (h : Quiet C own f) {msgArr : Buf} (htype : (getRoot msgArr).getType = .done) :
    Quiet C own (f.deliver [msgArr]) :=
  { h with
    down := fun out hmem => by
      rcases List.mem_append.mp hmem with hmem | hmem
      · exact h.down out hmem
      · rw [List.mem_singleton.mp hmem]
        exact htype }

theorem Quiet.taken (h : Quiet C own f) {msgArr : Buf} {rest : List Buf} (hup : f.up = msgArr :: rest) :
    Quiet C own (f.taken rest) :=
  { h with up := fun out hmem => h.up out (hup ▸ List.mem_cons_of_mem _ hmem) }

end

/-! ### The system -/

namespace System
variable {S Buf : Type} [Slave S] [Flatbuffers Buf] (C : Contract S) (own : UInt64 → Prop)

/-- The first client has the pipeline, and the others are quiet. -/
structure Piping (s : System S Buf) : Prop where
  within : s.Within
  owners : ∀ ip ∈ s.router.ips, ip.clientId = 0
  routed : C.Routed s.router
  foreign : ∀ i < s.clients, i ≠ 0 → ∀ bytes x id, C.issues bytes x → C.foreign { x with id }
  served : ∃ k, Piped C own (s.flow 0) k
  quiet : ∀ i < s.clients, i ≠ 0 → Quiet C own (s.flow i)

variable {C own} {s t : System S Buf}

/-- A turn of `route` sends something to the first client, or to none. -/
theorem Piping.turn (h : s.Piping C own) {i : Nat} {order : List IpInfo} {msgArr : Buf} {rest : List Buf}
    {turn : Router × Routed Buf} (hi : i < s.clients) (hup : (s.flow i).up = msgArr :: rest)
    (horder : s.router.IterationOrder order) (hturn : s.router.route order msgArr = turn) (o : Option Token)
    (ho : Departs C own (s.flow 0).ledger.issued o msgArr) :
    (∃ msgArr o', turn.2 = .send 0 msgArr ∧ Arrives C own (s.flow 0).ledger.issued o' msgArr ∧ Passes o o') ∨
    (o = none ∧ ∀ k msgArr, turn.2 ≠ .send k msgArr) := by
  obtain ⟨k, hk⟩ := h.served
  obtain ⟨out, rfl, hout⟩ := (h.within.flows i hi).up msgArr (hup ▸ List.mem_cons_self)
  exact ho.route h.within.kept h.owners h.routed horder (fun x hx => (hk.tracked.users x hx).2.2) hout hturn

/-- What is at the front of a flow bears some ticket, or none. -/
theorem Piping.departs (h : s.Piping C own) {i : Nat} {msgArr : Buf} {rest : List Buf} (hi : i < s.clients)
    (hup : (s.flow i).up = msgArr :: rest) : ∃ o, Departs C own (s.flow 0).ledger.issued o msgArr := by
  by_cases hi0 : 0 = i
  · subst hi0
    obtain ⟨k, hk⟩ := h.served
    have hfront := hk.up
    rw [hup] at hfront
    obtain ⟨o, -, ho, -, -⟩ := List.forall₂_cons_right_iff.mp hfront
    exact ⟨o, ho⟩
  · exact ⟨none, ((h.quiet i hi (Ne.symm hi0)).up _ (hup ▸ List.mem_cons_self)).1.stray _⟩

/-- The pipeline once `route` has taken a message. -/
theorem Piping.served_take (h : s.Piping C own) {i : Nat} {order : List IpInfo} {msgArr : Buf} {rest : List Buf}
    {router : Router} {routed : Routed Buf} (hi : i < s.clients) (hup : (s.flow i).up = msgArr :: rest)
    (horder : s.router.IterationOrder order) (hturn : s.router.route order msgArr = (router, routed)) :
    ∃ k, Piped C own (Flow.pass (Function.update s.flow i ((s.flow i).taken rest)) routed 0) k := by
  have hpasses := h.turn hi hup horder hturn
  obtain ⟨k, hk⟩ := h.served
  by_cases hi0 : 0 = i
  · subst hi0
    by_cases hsend : ∃ msgArr, routed = .send 0 msgArr
    · obtain ⟨out, rfl⟩ := hsend
      rw [Flow.pass, Function.update_self, Function.update_self]
      refine hk.pass hup fun o ho => ?_
      rcases hpasses o ho with ⟨out', o', hsend', harrives, hpass⟩ | ⟨-, hno⟩
      · cases hsend'
        exact ⟨o', harrives, hpass⟩
      · exact absurd rfl (hno 0 out)
    · rw [Flow.pass_of_ne fun k out heq hk => hsend ⟨out, by rw [heq, hk]⟩, Function.update_self]
      refine hk.leave hup fun o ho => ?_
      rcases hpasses o ho with ⟨out', o', hsend', -⟩ | ⟨hnone, -⟩
      · exact absurd ⟨out', hsend'⟩ hsend
      · exact hnone
  · -- It comes from another client, which has nothing of the first.
    have hstray := ((h.quiet i hi (Ne.symm hi0)).up _ (hup ▸ List.mem_cons_self)).1.stray (s.flow 0).ledger.issued
    rcases hpasses none hstray with ⟨out, o', hsend, harrives, hpass⟩ | ⟨-, hno⟩
    · cases hpass
      cases hsend
      rw [Flow.pass, Function.update_self, Function.update_of_ne hi0]
      exact hk.deliver harrives
    · rw [Flow.pass_of_ne fun k out heq => absurd heq (hno k out), Function.update_of_ne hi0]
      exact ⟨k, hk⟩

/-- The other clients once `route` has taken a message: it has nothing for them. -/
theorem Piping.quiet_take (h : s.Piping C own) {i : Nat} {order : List IpInfo} {msgArr : Buf} {rest : List Buf}
    {router : Router} {routed : Routed Buf} (hi : i < s.clients) (hup : (s.flow i).up = msgArr :: rest)
    (horder : s.router.IterationOrder order) (hturn : s.router.route order msgArr = (router, routed)) {j : Nat}
    (hj : j < s.clients) (hj0 : j ≠ 0) :
    Quiet C own (Flow.pass (Function.update s.flow i ((s.flow i).taken rest)) routed j) := by
  have hto : ∀ k out, routed = .send k out → j ≠ k := by
    rintro k out hsend rfl
    obtain ⟨o, ho⟩ := h.departs hi hup
    rcases h.turn hi hup horder hturn o ho with ⟨out', o', hsend', -⟩ | ⟨-, hno⟩
    · rw [hsend] at hsend'
      cases hsend'
      exact hj0 rfl
    · exact hno _ _ hsend
  rw [Flow.pass_of_ne hto]
  by_cases hji : j = i
  · subst hji
    rw [Function.update_self]
    exact (h.quiet j hj hj0).taken hup
  · rw [Function.update_of_ne hji]
    exact h.quiet j hj hj0

theorem Piping.move (h : s.Piping C own) (hm : Move C.users s t) : t.Piping C own := by
  have hwithin := h.within.move hm
  cases hm with
  | endpoint i hi hstep hothers hrouter hroute hrecord =>
    obtain ⟨k, hk⟩ := h.served
    have hclients : t.clients = s.clients := congrArg (fun r : Router => r.clients.length) hrouter
    have hintact := (h.within.flows i hi).intact
    refine
      { within := hwithin
        owners := hrouter ▸ h.owners
        routed := hrouter ▸ h.routed
        foreign := hclients ▸ h.foreign
        served := ?_
        quiet := fun j hj hj0 => ?_ }
    · by_cases hi0 : 0 = i
      · subst hi0
        exact hk.step hintact hstep
      · rw [hothers 0 hi0]
        exact h.served
    · rw [hclients] at hj
      by_cases hji : j = i
      · subst hji
        exact (h.quiet j hj hj0).step hintact (h.foreign j hj hj0) hstep
      · rw [hothers j hji]
        exact h.quiet j hj hj0
  | take i order msgArr rest routed hi hreceiving hup horder hturn hroute hrecord hflow =>
    obtain ⟨n, hn⟩ := s.router.route_router order msgArr
    rw [hturn] at hn
    have hrouter : t.router = { s.router with masterCount := n } := hn
    have hclients : t.clients = s.clients := by rw [clients, hrouter, clients]
    exact
      { within := hwithin
        owners := hrouter ▸ h.owners
        routed := by
          rw [hrouter]
          exact fun order horder => h.routed order horder
        foreign := hclients ▸ h.foreign
        served := hflow ▸ h.served_take hi hup horder hturn
        quiet := fun j hj hj0 => hflow ▸ h.quiet_take hi hup horder hturn (hclients ▸ hj) hj0 }
  | hand k msgArr hsending hroute hrouter hrecord hflow =>
    have hclients : t.clients = s.clients := congrArg (fun r : Router => r.clients.length) hrouter
    exact
      { within := hwithin
        owners := hrouter ▸ h.owners
        routed := hrouter ▸ h.routed
        foreign := hclients ▸ h.foreign
        served := hflow ▸ h.served
        quiet := hflow ▸ hclients ▸ h.quiet }
  | handDone k hsending hroute hrouter hrecord hflow =>
    have hclients : t.clients = s.clients := congrArg (fun r : Router => r.clients.length) hrouter
    obtain ⟨k', hk'⟩ := h.served
    refine
      { within := hwithin
        owners := hrouter ▸ h.owners
        routed := hrouter ▸ h.routed
        foreign := hclients ▸ h.foreign
        served := ?_
        quiet := fun j hj hj0 => ?_ }
    · rw [hflow]
      by_cases hk0 : 0 = k
      · subst hk0
        rw [Function.update_self]
        exact hk'.deliver (.done _ getType_doneMessage)
      · rw [Function.update_of_ne hk0]
        exact h.served
    · rw [hclients] at hj
      rw [hflow]
      by_cases hjk : j = k
      · subst hjk
        rw [Function.update_self]
        exact (h.quiet j hj hj0).deliver getType_doneMessage
      · rw [Function.update_of_ne hjk]
        exact h.quiet j hj hj0

theorem Piping.step {e : Event Buf} (h : s.Piping C own) (hk : s.Keeps C.users e) (hs : s.step e = some t) :
    t.Piping C own := h.move (step_move hk hs)

/-- The pipeline is empty at the start. -/
theorem Ready.piping (h : s.Ready) (hrouted : C.Routed s.router)
    (hforeign : ∀ i < s.clients, i ≠ 0 → ∀ bytes x id, C.issues bytes x → C.foreign { x with id })
    (hslaves : C.slaves [] (s.endpoints 0).bridge.slaveMap) :
    s.Piping C fun m => ((s.endpoints 0).bridge.masterMap m).isSome = true := by
  have hflow : ∀ j, s.flow j = (s.endpoints j).flow := flow_of_ne (by simp [h.route])
  obtain ⟨hwaiting, hup, hdown, hheld, -⟩ := h.flow_eq h.pos
  have hb := h.bridges 0 h.pos
  have hissued : (s.flow 0).ledger.issued = [] := by
    rw [hflow]
    simp [Endpoint.flow, Bridge.ledger, hb.history]
  have hmasters : ∀ m, (s.flow 0).ledger.masters m = {} := by
    intro m
    rw [hflow]
    cases hm : (s.endpoints 0).bridge.masterMap m with
    | none => simp [Endpoint.flow, Bridge.ledger, hm]
    | some md => simp [Endpoint.flow, Bridge.ledger, hm, hb.masters m md hm]
  have hfutures : ∀ p, (s.flow 0).ledger.futures p = none := fun p => by
    rw [hflow]
    exact congrFun hb.futures p
  refine
    { within := h.within
      owners := h.owners
      routed := hrouted
      foreign := hforeign
      served := ⟨{}, ?_⟩
      quiet := fun i hi hi0 => ?_ }
  · exact
      { held := by
          rw [hheld]
          exact .nil
        down := by
          rw [hdown]
          exact .nil
        up := by
          rw [hup]
          exact .nil
        waiting := by
          rw [hwaiting]
          exact .nil
        ring := by
          rw [hissued]
          exact TicketRing.Inv.empty
        unsent := by
          rw [hissued]
          rfl
        given_le := Nat.zero_le _
        tracked :=
          { has := fun m hm => by rwa [hflow] at hm
            users := by simp [hissued]
            slaves := by
              rw [hissued, hflow]
              exact hslaves
            next := fun m => by
              rw [hmasters, hissued]
              rfl
            outstanding := fun p hp => by cases hp
            strangers := fun m _ id => by rw [hmasters]
            pending := fun p hp => by cases hp
            buffers := by simp [hissued]
            settled := fun p st hp => by
              rw [hfutures] at hp
              cases hp } }
  · obtain ⟨hwaiting, hup, hdown, hheld, -⟩ := h.flow_eq hi
    refine ⟨fun m hm hm0 => ?_, by simp [hwaiting], by simp [hup], by simp [hdown], hheld⟩
    rw [hflow] at hm
    exact hi0 (h.apart i hi 0 h.pos m hm hm0)

end System

end SwAxi
