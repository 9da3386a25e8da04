import SwAxi.Pipeline

/-! The sizes of the data that the requests and responses carry, in every run of a router with its clients. -/

namespace SwAxi
open Wire (Flatbuffers)
open Transition

/-- The request asks for as many bytes as it has room for, or brings as many as it says. -/
structure Sized (buffer : Option (List UInt8)) (x : Transaction) : Prop where
  target : x.target = 0
  data : x.type = .writeReq → x.data.length = x.size.toNat
  room : ∀ bytes, buffer = some bytes → bytes.length = x.size.toNat

/-- Requests with data of the stated size, whatever their slaves make of them. -/
def sized (S : Type) [Slave S] : Contract S where
  issues := Sized
  foreign y := y.type = .writeReq → y.data.length = y.size.toNat
  admits _ := True
  refuses _ := True
  slaves _ _ := True
  answers _ _ _ := True
  target h := h.target
  serve _ _ _ _ := ⟨trivial, trivial⟩
  drop _ _ := trivial
  serveForeign _ _ _ := trivial

/-- The users pass buffers of the size that they state. -/
def System.Event.ValidBuffers {Buf : Type} : System.Event Buf → Prop
  | .bridge _ (.read _ buffer) | .bridge _ (.write _ buffer) => buffer.data.length = buffer.size.toNat
  | _ => True

instance {Buf : Type} (e : System.Event Buf) : Decidable e.ValidBuffers :=
  match e with
  | .bridge _ (.read _ _) | .bridge _ (.write _ _) => inferInstanceAs (Decidable (_ = _))
  | .bridge _ (.terminate _) | .bridge _ .notify | .bridge _ .spurious | .bridge _ .pop | .bridge _ .resume
  | .bridge _ .dispatch | .bridge _ (.sent _) | .bridge _ (.receive _) | .bridge _ .process
  | .sent _ | .receive _ | .readMsg _ | .take _ _ | .hand | .writeMsg _ => isTrue trivial

/-- The reader has as many bytes to hand to the slave, or to copy into the buffer, as the request has. -/
structure Endpoint.Sized {S Buf : Type} [Slave S] (c : Endpoint S Buf) : Prop where
  write : ∀ txn, c.bridge.readerThread = some (.holding txn) → txn.type = .writeReq → txn.data.length = txn.size.toNat
  read : ∀ txn md mTxn, c.bridge.readerThread = some (.holding txn) → txn.type = .readResp → txn.ok = true →
    c.bridge.masterMap txn.initiator = some md → md.txns txn.id = some mTxn →
      ∃ p x, c.bridge.history.issued[p]? = some x ∧ c.bridge.futures p = none ∧ mTxn.promise = some p ∧
        mTxn.txn = { x with id := txn.id } ∧ x.type = .readReq ∧ x.initiator = txn.initiator ∧
        txn.data.length = x.size.toNat ∧ mTxn.buffer = some p ∧ (c.bridge.buffers p).length = x.size.toNat ∧
        (c.bridge.readerProcess txn).buffers = Function.update c.bridge.buffers p txn.data

/-- Only the buffer of a matched response changes. -/
theorem Bridge.readerProcess_buffers {S : Type} [Slave S] {b : Bridge S} {txn : Transaction} {md : MasterMd}
    {mTxn : Master.Txn} {p : Nat} (hresp : txn.type.isRequest = false) (hm : b.masterMap txn.initiator = some md)
    (hid : md.txns txn.id = some mTxn) (hbuffer : mTxn.buffer = some p) :
    (b.readerProcess txn).buffers = filled b.buffers mTxn txn := by
  have hset : ∀ (b : Bridge S) promise st response, (b.setPromise promise st response).buffers = b.buffers := by
    intro b promise st response
    unfold setPromise
    split
    · rfl
    · split <;> rfl
  have hprocess : b.readerProcess txn = b.resolve md mTxn txn := by
    simp [readerProcess, hresp, readerResponse, hm, hid]
  rw [hprocess, resolve_eq, if_neg (by simp [hbuffer]), hset]

namespace System
variable {S Buf : Type} [Slave S] [Flatbuffers Buf] {s : System S Buf} {own : UInt64 → Prop}

omit [Flatbuffers Buf] in
theorem Event.ValidBuffers.keeps {e : Event Buf} (h : e.ValidBuffers) : s.Keeps (sized S).users e := by
  cases e with
  | bridge i e =>
    cases e with
    | read m buffer => exact ⟨rfl, fun hw => (nomatch hw), fun _ heq => Option.some.inj heq ▸ h⟩
    | write m buffer =>
      have hlen : buffer.data.length = buffer.size.toNat := h
      refine ⟨rfl, fun _ => ?_, fun _ heq => (nomatch heq)⟩
      simp only
      rw [List.length_take, hlen, Nat.min_self]
    | _ => trivial
  | _ => trivial

omit [Slave S] in
theorem flow_held {i : Nat} {txn : Transaction} (h : (s.endpoints i).bridge.readerThread = some (.holding txn)) :
    (s.flow i).held = some txn := by
  simp [flow, Flow.deliver, Endpoint.flow, Endpoint.held, h]

theorem Piping.sized (h : s.Piping (sized S) own) : ∀ i < s.clients, (s.endpoints i).Sized := by
  intro i hi
  by_cases hi0 : i = 0
  · subst hi0
    obtain ⟨k, hk⟩ := h.served
    refine ⟨fun txn hholding hwrite => ?_, fun txn md mTxn hholding hread hok hm hid => ?_⟩
    · obtain ⟨o, -, hbears, -⟩ := hk.holding (flow_held hholding)
      cases hbears with
      | request p x hx hreq htarget =>
        obtain ⟨-, -, bytes, hsized⟩ := hk.tracked.users x (List.mem_of_getElem? hx)
        exact hsized.data hwrite
      | refused p x err hx hreq =>
        have hno := (errorResponse_answers (y := sentAs (s.flow 0).ledger.issued p x) hreq err).isRequest
        rw [hwrite] at hno
        cases hno
      | response p x r hx hanswers =>
        have hno := hanswers.isRequest
        rw [hwrite] at hno
        cases hno
      | stray y hstray => exact (hstray.request (by rw [hwrite]; rfl)).1 hwrite
    · have hentry : ((s.flow 0).ledger.masters txn.initiator).txns txn.id = some mTxn :=
        Bridge.outstanding_masters hm hid
      rcases hk.matched (flow_held hholding) (by rw [hread]; rfl) with
        ⟨t, x, -, hx, -, hanswers, hpending, hentry'⟩ | ⟨-, hnone⟩
      · rw [hentry'] at hentry
        cases hentry
        have hreadReq : x.type = .readReq :=
          hanswers.readReq (hk.tracked.users x (List.mem_of_getElem? hx)).1 hread
        have hsize : txn.data.length = x.size.toNat := hanswers.data hok hreadReq
        have hroom := (hk.tracked.buffers _ x hx hreadReq hpending).room _ rfl
        have hroom : ((s.endpoints 0).bridge.buffers t.ticket).length = x.size.toNat := hroom
        refine ⟨t.ticket, x, hx, hpending, rfl, ?_, hreadReq, hanswers.initiator.symm, hsize, ?_, hroom, ?_⟩
        · rw [hanswers.id]
          rfl
        · simp [bufferOf, hreadReq]
        · rw [Bridge.readerProcess_buffers (by rw [hread]; rfl) hm hid (p := t.ticket) (by simp [bufferOf, hreadReq])]
          simp [Bridge.filled, hread, hok, bufferOf, hreadReq, Bridge.overwrite, hsize, ← hroom]
      · rw [hnone] at hentry
        cases hentry
  · have hnone := (h.quiet i hi hi0).held
    refine ⟨fun txn hholding => ?_, fun txn md mTxn hholding => ?_⟩
    · rw [flow_held hholding] at hnone
      cases hnone
    · rw [flow_held hholding] at hnone
      cases hnone

/-- In every run of a router with its clients whose users pass buffers of the size that they state: what is handed to
    a slave to write has the stated size, and what is copied for a read fills the buffer of the read. -/
theorem payloads_sized (hs : s.Opened) {es : List (Event Buf)} (hes : ∀ e ∈ es, e.ValidBuffers) :
    EveryState step (fun t => ∀ i < t.clients, (t.endpoints i).Sized) s es := by
  have hpiping : s.Piping (SwAxi.sized S) _ := hs.ready.piping
    (fun order _ bytes x _ => by split <;> trivial) (fun _ _ _ _ _ _ h => h.data) trivial
  exact everyState_of_everyStep (C := fun _ e => e.ValidBuffers) (fun _ _ _ h he hs => h.step he.keeps hs)
    (fun _ h => h.sized) hpiping (everyStep_of_forall fun e he _ => hes e he)

/-- The master reads two bytes, and the reader of its bridge deals with the response. -/
def readBack : List (Event Wire.Message) :=
  let writes := [.bridge 0 .pop, .bridge 0 .dispatch, .sent 0, .readMsg 0]
  let routes := [.take 0 (opened.router.ipMMap.map Prod.snd), .hand, .writeMsg 0]
  .bridge 0 (.read 1 { data := [7, 7], size := 2, address := 0x1000 }) :: writes ++ routes ++
    [.receive 0, .bridge 0 .process] ++ writes ++ routes ++ [.receive 0, .bridge 0 .process]

theorem payloads_sized_readBack :
    ((run step opened readBack).map fun s => ((s.endpoints 0).bridge.futures 0, (s.endpoints 0).bridge.buffers 0)) =
        some (some {}, [0, 0]) ∧
      EveryState step (fun t => ∀ i < t.clients, (t.endpoints i).Sized) opened readBack :=
  ⟨by decide, payloads_sized opened_opened (by decide)⟩

end System

end SwAxi
