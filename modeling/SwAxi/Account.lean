import SwAxi.Census
import SwAxi.Turn
import SwAxi.Lib.Total

/-! The account of a system: what is under way between the clients and the router stems from the requests that
were given an id and the masters that were terminated. -/

namespace SwAxi
open Wire (Flatbuffers)
open Wire.Flatbuffers (getRoot mutateTarget)
open Transition
open Total
open RouterClient (decode transactionMessage terminateMessage doneMessage)

/-- Every request that the master has issued has its promise set. -/
def Ledger.Resolved (l : Ledger) (m : UInt64) : Prop :=
  ∀ p txn, l.issued[p]? = some txn → txn.initiator = m → l.futures p ≠ none

/-- The error response to a request is a response of its key. -/
theorem carries_createErrorTxn {Buf : Type} [Flatbuffers Buf] {txn : Transaction} (hreq : txn.type.isRequest = true)
    (err : String) (req : Bool) (κ : Key) :
    carries req κ (createErrorTxn txn.initiator txn.id (RouterClient.wireTransactionType txn.type) err : Buf) =
      txn.matches (!req) κ := by
  have hresp : (errorResponse txn err).type.isRequest = false := by
    unfold errorResponse
    split <;> rfl
  rw [carries_of_decode (decode_createErrorTxn hreq err)]
  cases req with
  | true =>
    simp [Transaction.matches, hreq, hresp]
  | false =>
    simp [Transaction.matches, hreq, hresp]
    rfl

/-! ### The flow of one client -/

namespace Flow
variable {S Buf : Type} [Flatbuffers Buf]

structure Sound (owned : UInt64 → Prop) (f : Flow S Buf) : Prop where
  booked : f.ledger.Booked
  masters : ∀ m, f.has m = true → owned m
  issuers : ∀ txn ∈ f.ledger.issued, f.has txn.initiator = true
  ended : ∀ m ∈ f.terminated, f.has m = true
  once : f.terminated.Nodup
  /-- What is on its way to `route` is what a bridge sends. -/
  outs : ∀ msgArr ∈ f.up, ∃ out : Outgoing, msgArr = out.message

variable [Slave S] {U : Users} {f f' : Flow S Buf} {owned : UInt64 → Prop}

theorem Step.ledger (h : Step U f f') : Ledger.Step f.ledger f'.ledger := by
  cases h with
  | stay => exact .work (.stay _)
  | issue bytes txn huser hreq => exact .work (.issue _ txn _ hreq)
  | terminate m => exact .work (.push _ _ rfl rfl)
  | termination tx rest hw htype => exact .work (.drop _ tx rest hw (by simp [Master.Txn.isRequest, htype]))
  | request tx rest hw hreq => exact .work (.assign _ tx rest hw hreq)
  | response tx rest hw htype hreq => exact .work (.drop _ tx rest hw (by simp [Master.Txn.isRequest, hreq]))
  | logout => exact .work (.stay _)
  | lose => exact .work (.stay _)
  | leave => exact .work (.stay _)
  | receive => exact .work (.stay _)
  | finish => exact .work (.stay _)
  | reject => exact .work (.stay _)
  | serve txn s hheld hreq =>
    have hresp : (Bridge.serve s txn).2.type.isRequest = false := by
      rw [Bridge.serve_type]
      split <;> rfl
    exact .work (.push _ _ (by simp [Master.Txn.isRequest, hresp]) rfl)
  | unknownSlave => exact .work (.stay _)
  | unknownRequest => exact .work (.stay _)
  | crash => exact .erase _ _ _
  | resolve txn tx p hheld hreq htx hp hf => exact .resolve _ p txn tx htx hp hf

/-- Only the front of what waits, or a `DONE`, joins what is on its way to `route`. -/
theorem Step.mem_up (h : Step U f f') {msgArr : Buf} (hmem : msgArr ∈ f'.up) :
    msgArr ∈ f.up ∨ ∃ out : Outgoing, msgArr = out.message := by
  have hnew : ∀ out : Outgoing, msgArr ∈ f.up ++ [out.message] →
      msgArr ∈ f.up ∨ ∃ out : Outgoing, msgArr = out.message := by
    intro out hmem
    rcases List.mem_append.mp hmem with hmem | hmem
    · exact Or.inl hmem
    · exact Or.inr ⟨out, List.mem_singleton.mp hmem⟩
  cases h with
  | termination tx => exact hnew (.termination tx.txn.id) hmem
  | request tx => exact hnew (.transaction _) hmem
  | response tx => exact hnew (.transaction tx.txn) hmem
  | logout => exact hnew .logout hmem
  | lose up out hup =>
    rw [hup]
    exact Or.inl (List.mem_append_left _ hmem)
  | leave out rest hup =>
    rw [hup]
    exact Or.inl (List.mem_cons_of_mem _ hmem)
  | _ => exact Or.inl hmem

theorem Step.has_mono (h : Step U f f') {m : UInt64} (hm : f.has m = true) : f'.has m = true := by
  cases h with
  | request tx =>
    by_cases heq : m = tx.txn.initiator
    · subst heq
      simp [assign]
    · simpa [assign, heq] using hm
  | _ => exact hm

/-- A request is issued by a master that is there and goes on. -/
theorem Step.requests (h : Step U f f') :
    f'.ledger.issued = f.ledger.issued ∨
      ∃ txn, f'.ledger.issued = f.ledger.issued ++ [txn] ∧ f.has txn.initiator = true ∧ txn.initiator ∉ f.terminated := by
  cases h with
  | issue bytes txn huser hreq hread hhas hactive => exact Or.inr ⟨txn, rfl, hhas, hactive⟩
  | _ => exact Or.inl rfl

theorem Step.terminations (h : Step U f f') : f'.terminated = f.terminated ∨
    ∃ m, f'.terminated = f.terminated ++ [m] ∧ f.has m = true ∧ m ∉ f.terminated := by
  cases h with
  | terminate m huser hhas hactive => exact Or.inr ⟨m, rfl, hhas, hactive⟩
  | _ => exact Or.inl rfl

theorem Sound.step (hs : f.Sound owned) (h : Step U f f') : f'.Sound owned := by
  have hhas : ∀ {m}, f.has m = true → f'.has m = true := fun hm => h.has_mono hm
  refine ⟨hs.booked.step h.ledger, fun m hm => ?_, fun txn htxn => ?_, fun m hm => ?_, ?_, fun msgArr hmem => ?_⟩
  · cases h with
    | request tx rest hw hreq =>
      by_cases heq : m = tx.txn.initiator
      · -- A waiting request is one of those issued.
        obtain ⟨p, -, hget⟩ : ∃ p, tx.promise = some p ∧ f.ledger.issued[p]? = some tx.txn := by
          simpa [hreq] using hs.booked.waiting tx (hw ▸ List.mem_cons_self)
        rw [heq]
        exact hs.masters _ (hs.issuers _ (List.mem_of_getElem? hget))
      · exact hs.masters m (by simpa [assign, heq] using hm)
    | _ => exact hs.masters m hm
  · rcases h.requests with heq | ⟨txn', heq, hini, -⟩
    · rw [heq] at htxn
      exact hhas (hs.issuers txn htxn)
    · rw [heq] at htxn
      rcases List.mem_append.mp htxn with htxn | htxn
      · exact hhas (hs.issuers txn htxn)
      · rw [List.mem_singleton.mp htxn]
        exact hhas hini
  · rcases h.terminations with heq | ⟨m', heq, hini, -⟩
    · rw [heq] at hm
      exact hhas (hs.ended m hm)
    · rw [heq] at hm
      rcases List.mem_append.mp hm with hm | hm
      · exact hhas (hs.ended m hm)
      · rw [List.mem_singleton.mp hm]
        exact hhas hini
  · rcases h.terminations with heq | ⟨m, heq, -, hactive⟩
    · rw [heq]
      exact hs.once
    · rw [heq]
      exact (List.perm_append_singleton _ _).nodup_iff.mpr (List.nodup_cons.mpr ⟨hactive, hs.once⟩)
  · rcases h.mem_up hmem with hmem | hout
    · exact hs.outs msgArr hmem
    · exact hout

omit [Slave S] in
/-- Every request given the key of a master with nothing outstanding has had its response. -/
theorem Sound.given_le (hs : f.Sound owned) {κ : Key} (hres : f.ledger.Resolved κ.1) : f.given κ ≤ f.settled κ := by
  have hnodup : ((f.ledger.assigned.filter fun a => a.2 = κ).map Prod.fst).Nodup :=
    (List.Nodup.of_append_right hs.booked.promises).sublist (List.filter_sublist.map _)
  have hsubset : (f.ledger.assigned.filter fun a => a.2 = κ).map Prod.fst ⊆
      (f.ledger.fulfilled.filter fun a => a.2.key = κ).map Prod.fst := by
    intro p hp
    obtain ⟨⟨p, κ'⟩, hmem, rfl⟩ := List.mem_map.mp hp
    obtain ⟨ha, hκ⟩ := List.mem_filter.mp hmem
    obtain rfl : κ' = κ := by simpa using hκ
    obtain ⟨txn, hget, hini⟩ := hs.booked.owner p κ'.1 κ'.2 ha
    obtain ⟨st, hst⟩ := Option.ne_none_iff_exists'.mp (hres p txn hget hini)
    obtain ⟨response, hr, -⟩ := hs.booked.resolved p st hst
    -- The promise is in one entry only, so the response has the key.
    have hpair := (hs.booked.matched p response hr).1
    have heq := List.inj_on_of_nodup_map (List.Nodup.of_append_right hs.booked.promises) ha hpair rfl
    have hkey : response.key = κ' := (Prod.mk.inj heq).2.symm
    exact List.mem_map.mpr ⟨(p, response), List.mem_filter.mpr ⟨hr, by simp [hkey]⟩, rfl⟩
  have hle := (List.subperm_of_subset hnodup hsubset).length_le
  simpa [given, settled, List.countP_eq_length_filter] using hle

/-! #### The ends of a flow -/

section
omit [Slave S]
variable {msgArr : Buf} {rest : List Buf}

theorem Sound.take (hs : f.Sound owned) (hup : f.up = msgArr :: rest) :
    (f.taken rest).Sound owned :=
  { hs with outs := fun out hout => hs.outs out (hup ▸ List.mem_cons_of_mem _ hout) }

theorem Sound.deliver (hs : f.Sound owned) (msgs : List Buf) : (f.deliver msgs).Sound owned := { hs with }

theorem asked_take (hup : f.up = msgArr :: rest) (κ : Key) :
    f.asked κ = (f.taken rest).asked κ + if carries true κ msgArr then 1 else 0 := by
  simp [asked, taken, hup, List.countP_cons]

theorem serving_take (hup : f.up = msgArr :: rest) (κ : Key) :
    f.serving κ = (f.taken rest).serving κ + if carries false κ msgArr then 1 else 0 := by
  simp [serving, taken, hup, List.countP_cons]
  omega

theorem ending_take (hup : f.up = msgArr :: rest) (m : UInt64) :
    f.ending m = (f.taken rest).ending m + if terminates m msgArr then 1 else 0 := by
  simp [ending, taken, hup, List.countP_cons]
  omega

theorem serving_deliver (κ : Key) :
    (f.deliver [msgArr]).serving κ = f.serving κ + if carries true κ msgArr then 1 else 0 := by
  simp [serving, Flow.deliver, List.countP_append, List.countP_singleton]
  omega

theorem due_deliver (κ : Key) :
    (f.deliver [msgArr]).due κ = f.due κ + if carries false κ msgArr then 1 else 0 := by
  simp [due, Flow.deliver, List.countP_append, List.countP_singleton]
  omega

end

/-! #### What `route` passes on -/

section
omit [Slave S]
variable {F : Nat → Flow S Buf} {routed : Routed Buf}

/-- A turn puts a message of the key on a channel. -/
def passed (req : Bool) (κ : Key) : Routed Buf → Nat
  | .send _ out => if carries req κ out then 1 else 0
  | _ => 0

/-- A turn puts a response of the key on the channel of client `j`. -/
def passedTo (j : Nat) (κ : Key) : Routed Buf → Nat
  | .send k out => if k = j ∧ carries false κ out = true then 1 else 0
  | _ => 0

omit [Flatbuffers Buf] in
theorem total_pass {n : Nat} {g : Flow S Buf → Nat} (hg : ∀ f msgs, g (f.deliver msgs) = g f) :
    total n g (pass F routed) = total n g F :=
  total_congr fun j _ => by rw [pass_apply, hg]

theorem total_pass_serving {n : Nat} {κ : Key} :
    total n (serving κ) (pass F routed) ≤ total n (serving κ) F + passed true κ routed := by
  cases routed with
  | send k out =>
    rcases Nat.lt_or_ge k n with hlt | hge
    · have htotal : total n (serving κ) (Function.update F k ((F k).deliver [out])) + (F k).serving κ =
          total n (serving κ) F + ((F k).deliver [out]).serving κ := total_update hlt _
      rw [serving_deliver] at htotal
      simp only [pass, passed]
      omega
    · have htotal : total n (serving κ) (pass F (.send k out)) = total n (serving κ) F :=
        total_congr fun j hj => by rw [pass, Function.update_of_ne (by omega)]
      omega
  | next => exact le_rfl
  | done => exact le_rfl
  | fatal text => exact le_rfl
  | panic => exact le_rfl

theorem pass_due {j : Nat} {κ : Key} : (pass F routed j).due κ = (F j).due κ + passedTo j κ routed := by
  cases routed with
  | send k out =>
    by_cases hk : k = j
    · subst hk
      simp [pass, due_deliver, passedTo]
    · simp [pass, Function.update_of_ne (Ne.symm hk), passedTo, hk]
  | next => rfl
  | done => rfl
  | fatal text => rfl
  | panic => rfl

omit [Flatbuffers Buf] in
theorem pass_settled {j : Nat} {κ : Key} : (pass F routed j).settled κ = (F j).settled κ := by
  rw [pass_apply]
  rfl

end

end Flow

/-! ### What a turn of `route` records -/

namespace Record
variable {Buf : Type} [Flatbuffers Buf]

/-- What is recorded of a client is recorded. -/
theorem count_le_countP (l : List (Nat × Key)) (i : Nat) (κ : Key) : l.count (i, κ) ≤ l.countP fun a => a.2 = κ :=
  List.countP_mono_left fun a _ ha => by
    rw [beq_iff_eq] at ha
    simp [ha]

/-- What a turn of `route` adds to the record accounts for the message it took and the one it passed on. -/
structure Balances (r r' : Record) (msgArr : Buf) (routed : Routed Buf) : Prop where
  asked : ∀ κ, r'.forwarded.count κ + r'.errored.countP (fun a => a.2 = κ) ≤
    r.forwarded.count κ + r.errored.countP (fun a => a.2 = κ) + if carries true κ msgArr then 1 else 0
  serving : ∀ κ, Flow.passed true κ routed + r'.answered.countP (fun a => a.2 = κ) + r.forwarded.count κ ≤
    r.answered.countP (fun a => a.2 = κ) + r'.forwarded.count κ + if carries false κ msgArr then 1 else 0
  due : ∀ j κ, Flow.passedTo j κ routed + r.answered.count (j, κ) + r.errored.count (j, κ) ≤
    r'.answered.count (j, κ) + r'.errored.count (j, κ)
  ending : ∀ m, r'.terminations.count m ≤ r.terminations.count m + if terminates m msgArr then 1 else 0

variable {r : Record} {routed : Routed Buf}

/-- A turn that passes nothing on may add a termination, and no more. -/
theorem Balances.quiet {r' : Record} {msgArr : Buf} (hno : ∀ k out, routed ≠ .send k out)
    (hforwarded : r'.forwarded = r.forwarded) (hanswered : r'.answered = r.answered) (herrored : r'.errored = r.errored)
    (hending : ∀ m, r'.terminations.count m ≤ r.terminations.count m + if terminates m msgArr then 1 else 0) :
    r.Balances r' msgArr routed := by
  have hpassed : ∀ req κ, Flow.passed req κ routed = 0 := fun req κ => by
    unfold Flow.passed
    split
    · exact absurd rfl (hno _ _)
    · rfl
  have hpassedTo : ∀ j κ, Flow.passedTo j κ routed = 0 := fun j κ => by
    unfold Flow.passedTo
    split
    · exact absurd rfl (hno _ _)
    · rfl
  refine ⟨fun κ => ?_, fun κ => ?_, fun j κ => ?_, hending⟩
  · rw [hforwarded, herrored]
    omega
  · rw [hforwarded, hanswered, hpassed]
    omega
  · rw [hanswered, herrored, hpassedTo]
    omega

theorem turn_balances {router router' : Router} {order : List IpInfo} {out : Outgoing} (hk : router.Kept)
    (horder : router.IterationOrder order) (hturn : router.route order (out.message : Buf) = (router', routed)) :
    r.Balances (r.turn (out.message : Buf) routed) (out.message : Buf) routed := by
  cases out with
  | transaction txn =>
    have hmsg : (Outgoing.transaction txn).message = (transactionMessage txn : Buf) := rfl
    rw [hmsg] at hturn ⊢
    rcases hk.route_transaction horder hturn with
      ⟨target, client, hreq, -, -, heq⟩ | ⟨err, ip, hreq, -, -, -, heq⟩ | ⟨ip, hreq, -, -, heq⟩ | ⟨-, -, heq⟩
    all_goals
      obtain ⟨-, rfl⟩ := Prod.mk.inj heq
    · rw [turn_forwarded hreq]
      refine ⟨fun κ => ?_, fun κ => ?_, fun j κ => ?_, fun m => ?_⟩
      · simp [List.count_append, List.count_singleton, Transaction.matches_iff, hreq]
        omega
      · simp [Flow.passed, List.count_append, List.count_singleton, Transaction.matches_iff, hreq]
        omega
      · simp [Flow.passedTo, Transaction.matches_iff, hreq]
      · simp
    · rw [turn_errored hreq]
      refine ⟨fun κ => ?_, fun κ => ?_, fun j κ => ?_, fun m => ?_⟩
      · simp [List.countP_append, List.countP_singleton, Transaction.matches_iff, hreq]
        omega
      · simp [Flow.passed, carries_createErrorTxn hreq, Transaction.matches_iff, hreq]
      · simp [Flow.passedTo, carries_createErrorTxn hreq, List.count_append, List.count_singleton,
          Transaction.matches_iff, hreq]
        omega
      · simp
    · rw [turn_answered hreq]
      refine ⟨fun κ => ?_, fun κ => ?_, fun j κ => ?_, fun m => ?_⟩
      · simp
      · simp [Flow.passed, List.countP_append, List.countP_singleton, Transaction.matches_iff, hreq]
        omega
      · simp [Flow.passedTo, List.count_append, List.count_singleton, Transaction.matches_iff, hreq]
        omega
      · simp
    · rw [turn_panic]
      exact .quiet (by simp) rfl rfl rfl fun m => by omega
  | termination id =>
    have hmsg : (Outgoing.termination id).message = (terminateMessage id : Buf) := rfl
    rw [hmsg] at hturn ⊢
    rw [turn_termination]
    have hno : ∀ k out, routed ≠ .send k out := by
      rcases Router.route_termination hturn with ⟨-, heq⟩ | ⟨r', text, heq⟩ | ⟨r', heq⟩
      all_goals
        obtain ⟨-, rfl⟩ := Prod.mk.inj heq
        simp
    exact .quiet hno rfl rfl rfl fun m => by simp [List.count_append, List.count_singleton]
  | logout =>
    have hmsg : (Outgoing.logout).message = (doneMessage : Buf) := rfl
    rw [hmsg] at hturn ⊢
    rw [Router.route_logout] at hturn
    obtain ⟨-, rfl⟩ := Prod.mk.inj hturn
    exact .quiet (by simp) (by simp [turn]) (by simp [turn]) (by simp [turn]) fun m => by simp [turn]

end Record

/-! ### The whole system -/

namespace System
variable {S Buf : Type} [Flatbuffers Buf]

/-- The loop is left at the first termination, and only if there is one master. -/
def Phase (masters : Nat) (s : System S Buf) : Prop :=
  match s.route with
  | .receiving | .sending _ _ => s.record.terminations = [] ∧ masters ≤ s.router.masterCount.toNat
  | .sendDone _ | .exited => (∃ m, s.record.terminations = [m]) ∧ masters ≤ 1
  | .aborted => True

/-- Nothing comes out of nothing: what is under way, and what is recorded, stems from the requests given an id
    and the masters terminated. -/
structure Accounted (ms : List (Nat × UInt64)) (s : System S Buf) : Prop where
  kept : s.router.Kept
  sound : ∀ i < s.clients, (s.flow i).Sound fun m => (i, m) ∈ ms
  asked : ∀ κ, total s.clients (Flow.asked κ) s.flow + s.record.forwarded.count κ +
    s.record.errored.countP (fun a => a.2 = κ) ≤ total s.clients (Flow.given κ) s.flow
  serving : ∀ κ, total s.clients (Flow.serving κ) s.flow + s.record.answered.countP (fun a => a.2 = κ) ≤
    s.record.forwarded.count κ
  due : ∀ i < s.clients, ∀ κ, (s.flow i).due κ + (s.flow i).settled κ ≤
    s.record.answered.count (i, κ) + s.record.errored.count (i, κ)
  ending : ∀ m, total s.clients (Flow.ending m) s.flow + s.record.terminations.count m ≤
    total s.clients (Flow.ended m) s.flow
  phase : s.Phase ms.length

variable {s t : System S Buf} {ms : List (Nat × UInt64)}

theorem Accounted.endpoint [Slave S] {U : Users} (h : s.Accounted ms) {i : Nat} (hi : i < s.clients)
    (hstep : Flow.Step U (s.flow i) (t.flow i)) (hothers : ∀ j, j ≠ i → t.flow j = s.flow j)
    (hrouter : t.router = s.router) (hroute : t.route = s.route) (hrecord : t.record = s.record) :
    t.Accounted ms := by
  have hclients : t.clients = s.clients := by rw [clients, clients, hrouter]
  have htotal : ∀ g : Flow S Buf → Nat, total s.clients g t.flow + g (s.flow i) = total s.clients g s.flow + g (t.flow i) :=
    fun g => total_of_others hi hothers
  have hbooked := (h.sound i hi).booked
  refine ⟨hrouter ▸ h.kept, fun j hj => ?_, fun κ => ?_, fun κ => ?_, fun j hj κ => ?_, fun m => ?_, ?_⟩
  · rw [hclients] at hj
    by_cases hji : j = i
    · subst hji
      exact (h.sound j hj).step hstep
    · rw [hothers j hji]
      exact h.sound j hj
  · rw [hclients, hrecord]
    have hle := hstep.asked_le hbooked κ
    have hκ := h.asked κ
    have ha := htotal (Flow.asked κ)
    have hg := htotal (Flow.given κ)
    omega
  · rw [hclients, hrecord]
    have hle := hstep.serving_le κ
    have hκ := h.serving κ
    have hs := htotal (Flow.serving κ)
    omega
  · rw [hclients] at hj
    rw [hrecord]
    by_cases hji : j = i
    · subst hji
      exact (hstep.due_le κ).trans (h.due j hj κ)
    · rw [hothers j hji]
      exact h.due j hj κ
  · rw [hclients, hrecord]
    have hle := hstep.ending_le m
    have hm := h.ending m
    have he := htotal (Flow.ending m)
    have hd := htotal (Flow.ended m)
    omega
  · unfold Phase
    rw [hroute, hrecord, hrouter]
    exact h.phase

/-- A turn of `route` that accounts for the message it takes. -/
theorem Accounted.turn (h : s.Accounted ms) {i : Nat} (hi : i < s.clients) {msgArr : Buf} {rest : List Buf}
    {routed : Routed Buf} (hup : (s.flow i).up = msgArr :: rest)
    (hflow : t.flow = Flow.pass (Function.update s.flow i ((s.flow i).taken rest)) routed)
    (hkept : t.router.Kept) (hclients : t.clients = s.clients)
    (hphase : t.Phase ms.length) (hrecord : s.record.Balances t.record msgArr routed) : t.Accounted ms := by
  have hrest : ∀ g : Flow S Buf → Nat, total s.clients g (Function.update s.flow i ((s.flow i).taken rest)) +
      g (s.flow i) = total s.clients g s.flow + g ((s.flow i).taken rest) := fun g => total_update hi _
  refine ⟨hkept, fun j hj => ?_, fun κ => ?_, fun κ => ?_, fun j hj κ => ?_, fun m => ?_, hphase⟩
  · rw [hclients] at hj
    rw [hflow, Flow.pass_apply]
    refine Flow.Sound.deliver ?_ _
    by_cases hji : j = i
    · subst hji
      rw [Function.update_self]
      exact (h.sound j hj).take hup
    · rw [Function.update_of_ne hji]
      exact h.sound j hj
  · rw [hclients, hflow, Flow.total_pass fun f msgs => rfl, Flow.total_pass fun f msgs => rfl]
    have hκ := h.asked κ
    have ha := hrest (Flow.asked κ)
    have hg := hrest (Flow.given κ)
    have htake := Flow.asked_take hup κ
    have hgiven : ((s.flow i).taken rest).given κ = (s.flow i).given κ := rfl
    have hturn := hrecord.asked κ
    omega
  · rw [hclients, hflow]
    have hpass : total s.clients (Flow.serving κ) (Flow.pass (Function.update s.flow i ((s.flow i).taken rest)) routed) ≤
        total s.clients (Flow.serving κ) (Function.update s.flow i ((s.flow i).taken rest)) +
          Flow.passed true κ routed := Flow.total_pass_serving
    have hκ := h.serving κ
    have hs := hrest (Flow.serving κ)
    have htake := Flow.serving_take hup κ
    have hturn := hrecord.serving κ
    omega
  · rw [hclients] at hj
    have hκ := h.due j hj κ
    have hturn := hrecord.due j κ
    have hpass : (t.flow j).due κ + (t.flow j).settled κ =
        (s.flow j).due κ + (s.flow j).settled κ + Flow.passedTo j κ routed := by
      rw [hflow, Flow.pass_due, Flow.pass_settled]
      by_cases hji : j = i
      · subst hji
        rw [Function.update_self]
        exact Nat.add_right_comm _ _ _
      · rw [Function.update_of_ne hji]
        exact Nat.add_right_comm _ _ _
    omega
  · rw [hclients, hflow, Flow.total_pass fun f msgs => rfl, Flow.total_pass fun f msgs => rfl]
    have hm := h.ending m
    have he := hrest (Flow.ending m)
    have hd := hrest (Flow.ended m)
    have htake := Flow.ending_take hup m
    have hended : ((s.flow i).taken rest).ended m = (s.flow i).ended m := rfl
    have hturn := hrecord.ending m
    omega

/-- Where a turn leaves `route`. -/
theorem Accounted.turn_phase (h : s.Accounted ms) {order : List IpInfo} {out : Outgoing} {routed : Routed Buf}
    (hreceiving : s.route = .receiving) (horder : s.router.IterationOrder order)
    (hturn : s.router.route order (out.message : Buf) = (t.router, routed)) (hroute : t.route = routeLoop routed)
    (hrecord : t.record = s.record.turn (out.message : Buf) routed) : t.Phase ms.length := by
  obtain ⟨hnone, hmasters⟩ : s.record.terminations = [] ∧ ms.length ≤ s.router.masterCount.toNat := by
    have hphase := h.phase
    unfold Phase at hphase
    rwa [hreceiving] at hphase
  have hfatal : t.route = .aborted → t.Phase ms.length := fun heq => by
    unfold Phase
    rw [heq]
    trivial
  cases out with
  | transaction txn =>
    have hmsg : (Outgoing.transaction txn).message = (transactionMessage txn : Buf) := rfl
    rw [hmsg] at hturn hrecord
    rcases h.kept.route_transaction horder hturn with
      ⟨target, client, hreq, -, -, heq⟩ | ⟨err, ip, hreq, -, -, -, heq⟩ | ⟨ip, hreq, -, -, heq⟩ | ⟨-, -, heq⟩
    all_goals
      obtain ⟨hrouter, rfl⟩ := Prod.mk.inj heq
    · rw [Record.turn_forwarded hreq] at hrecord
      unfold Phase
      rw [hroute, hrecord, hrouter]
      exact ⟨hnone, hmasters⟩
    · rw [Record.turn_errored hreq] at hrecord
      unfold Phase
      rw [hroute, hrecord, hrouter]
      exact ⟨hnone, hmasters⟩
    · rw [Record.turn_answered hreq] at hrecord
      unfold Phase
      rw [hroute, hrecord, hrouter]
      exact ⟨hnone, hmasters⟩
    · exact hfatal hroute
  | termination id =>
    have hmsg : (Outgoing.termination id).message = (terminateMessage id : Buf) := rfl
    rw [hmsg] at hturn hrecord
    rw [Record.turn_termination] at hrecord
    rcases Router.route_termination hturn with ⟨hlast, heq⟩ | ⟨r', text, heq⟩ | ⟨r', heq⟩
    all_goals
      obtain ⟨-, rfl⟩ := Prod.mk.inj heq
    · have hone : s.router.masterCount = 1 := by
        have hsub : s.router.masterCount - 1 + 1 = 0 + 1 := by rw [hlast]
        simpa using hsub
      rw [hone] at hmasters
      unfold Phase
      rw [hroute, hrecord, hnone]
      exact ⟨⟨id, rfl⟩, hmasters⟩
    · exact hfatal hroute
    · exact hfatal hroute
  | logout =>
    have hmsg : (Outgoing.logout).message = (doneMessage : Buf) := rfl
    rw [hmsg, Router.route_logout] at hturn
    obtain ⟨-, rfl⟩ := Prod.mk.inj hturn
    exact hfatal hroute

theorem Accounted.take (h : s.Accounted ms) {i : Nat} {order : List IpInfo} {msgArr : Buf} {rest : List Buf}
    {routed : Routed Buf} (hi : i < s.clients) (hreceiving : s.route = .receiving)
    (hup : (s.flow i).up = msgArr :: rest) (horder : s.router.IterationOrder order)
    (hturn : s.router.route order msgArr = (t.router, routed)) (hroute : t.route = routeLoop routed)
    (hrecord : t.record = s.record.turn msgArr routed)
    (hflow : t.flow = Flow.pass (Function.update s.flow i ((s.flow i).taken rest)) routed) : t.Accounted ms := by
  obtain ⟨out, rfl⟩ := (h.sound i hi).outs msgArr (hup ▸ List.mem_cons_self)
  have hphase := h.turn_phase hreceiving horder hturn hroute hrecord
  have hbalances : s.record.Balances t.record out.message routed :=
    hrecord ▸ Record.turn_balances h.kept horder hturn
  obtain ⟨n, hn⟩ := s.router.route_router order (out.message : Buf)
  rw [hturn] at hn
  have hclients : t.clients = s.clients := by
    unfold clients
    rw [show t.router = _ from hn]
  have hkept : t.router.Kept := by
    rw [show t.router = _ from hn]
    exact { h.kept with }
  exact h.turn hi hup hflow hkept hclients hphase hbalances

theorem Accounted.same (h : s.Accounted ms) (hflow : t.flow = s.flow) (hrouter : t.router = s.router)
    (hrecord : t.record = s.record) (hphase : t.Phase ms.length) : t.Accounted ms := by
  have hclients : t.clients = s.clients := by rw [clients, clients, hrouter]
  exact
    { kept := hrouter ▸ h.kept
      sound := by rw [hclients, hflow]; exact h.sound
      asked := by rw [hclients, hflow, hrecord]; exact h.asked
      serving := by rw [hclients, hflow, hrecord]; exact h.serving
      due := by rw [hclients, hflow, hrecord]; exact h.due
      ending := by rw [hclients, hflow, hrecord]; exact h.ending
      phase := hphase }

/-- A `DONE` is handed to a client. -/
theorem Accounted.handDone (h : s.Accounted ms) {k : Nat} (hrouter : t.router = s.router)
    (hrecord : t.record = s.record) (hflow : t.flow = Flow.pass s.flow (.send k doneMessage))
    (hphase : t.Phase ms.length) : t.Accounted ms := by
  have hclients : t.clients = s.clients := by rw [clients, clients, hrouter]
  refine ⟨hrouter ▸ h.kept, fun j hj => ?_, fun κ => ?_, fun κ => ?_, fun j hj κ => ?_, fun m => ?_, hphase⟩
  · rw [hclients] at hj
    rw [hflow, Flow.pass_apply]
    exact (h.sound j hj).deliver _
  · rw [hclients, hflow, hrecord, Flow.total_pass fun f msgs => rfl, Flow.total_pass fun f msgs => rfl]
    exact h.asked κ
  · rw [hclients, hflow, hrecord]
    have hpass : total s.clients (Flow.serving κ) (Flow.pass s.flow (.send k doneMessage)) ≤
        total s.clients (Flow.serving κ) s.flow + Flow.passed true κ (.send k doneMessage) := Flow.total_pass_serving
    have hnone : Flow.passed true κ (.send k doneMessage : Routed Buf) = 0 := by simp [Flow.passed]
    have hκ := h.serving κ
    omega
  · rw [hclients] at hj
    rw [hflow, hrecord, Flow.pass_due, Flow.pass_settled]
    have hnone : Flow.passedTo j κ (.send k doneMessage : Routed Buf) = 0 := by simp [Flow.passedTo]
    have hκ := h.due j hj κ
    omega
  · rw [hclients, hflow, hrecord, Flow.total_pass fun f msgs => rfl, Flow.total_pass fun f msgs => rfl]
    exact h.ending m

theorem Accounted.move [Slave S] {U : Users} (h : s.Accounted ms) (hm : Move U s t) : t.Accounted ms := by
  have hphase := h.phase
  unfold Phase at hphase
  cases hm with
  | endpoint i hi hstep hothers hrouter hroute hrecord => exact h.endpoint hi hstep hothers hrouter hroute hrecord
  | take i order msgArr rest routed hi hreceiving hup horder hturn hroute hrecord hflow =>
    exact h.take hi hreceiving hup horder hturn hroute hrecord hflow
  | hand k msgArr hsending hroute hrouter hrecord hflow =>
    refine h.same hflow hrouter hrecord ?_
    unfold Phase
    rw [hsending] at hphase
    rw [hroute, hrecord, hrouter]
    exact hphase
  | handDone k hsending hroute hrouter hrecord hflow =>
    refine h.handDone hrouter hrecord hflow ?_
    unfold Phase
    rw [hsending] at hphase
    rw [hroute, hrecord]
    by_cases hlast : k + 1 < s.clients
    · rw [if_pos hlast]
      exact hphase
    · rw [if_neg hlast]
      exact hphase

end System

end SwAxi
