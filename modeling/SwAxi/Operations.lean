import SwAxi.RouterClient
import SwAxi.Lib.Transition

/-! The states of a `RouterClient` over any sequence of calls of its public operations. What a call that returns can
    do is said once, in `Op.Outcome`; the relation of the state to the socket and the URI, the moves between states
    and the treatment of errors follow from it. A call that throws leaves the client as it is at its read. -/

namespace SwAxi
open Wire (MsgType Flatbuffers)
open Wire.Flatbuffers (getRoot)

namespace RouterClient

/-! ### Operations and the calls they make -/

/-- A public operation with its arguments and what the system calls it makes give. -/
inductive Op (Buf : Type) where
  | connect (uri : String) (info : SystemInfo) (x : ConnectCalls Buf)
  | registerIp (config : IpConfig) (x : Exchange Buf)
  | commitIp (x : Exchange Buf)
  | retrievePeerInfo (read : Received Buf)
  | retrieveIpConfig (read : Received Buf)
  | receiveTransaction (read : Received Buf)
  | sendTransaction (txn : Transaction) (write : Except String Unit)
  | sendTermination (id : UInt64) (write : Except String Unit)
  | sendLogout (write : Except String Unit)
  | disconnect

/-- A use of the socket and what it gave. Closing it is left to `disconnect`, which clears all fields. -/
inductive SocketCall (Buf : Type) where
  | socket (result : Except String Nat)
  | connect (path : String) (result : Except String Unit)
  | write (data : Buf) (result : Except String Unit)
  | read (result : Received Buf)

section Calls
variable {Buf : Type} [Flatbuffers Buf]

def Exchange.calls (x : Exchange Buf) (request : Buf) : List (SocketCall Buf) :=
  .write request x.write :: match x.write with
    | .error _ => []
    | .ok () => [.read x.read]

def ConnectCalls.calls (x : ConnectCalls Buf) (uri : String) (info : SystemInfo) : List (SocketCall Buf) :=
  .socket x.socket :: match x.socket with
    | .error _ => []
    | .ok _ => .connect (sunPath uri) (x.connect (sunPath uri)) :: match x.connect (sunPath uri) with
      | .error _ => []
      | .ok () => x.toExchange.calls (systemInfoMessage info)

/-- The state an operation asks for; `disconnect` asks for none. -/
def Op.required : Op Buf → Option State
  | .connect _ _ _ => some .disconnected
  | .registerIp _ _ | .commitIp _ => some .connected
  | .retrievePeerInfo _ => some .committed
  | .retrieveIpConfig _ => some .peerInfoReceived
  | .receiveTransaction _ | .sendTransaction _ _ | .sendTermination _ _ | .sendLogout _ => some .started
  | .disconnect => none

/-- The uses of the socket that a call of the operation makes. -/
def Op.calls (c : RouterClient) : Op Buf → List (SocketCall Buf)
  | .connect uri info x =>
    if c.state ≠ .disconnected then []
    else if uri.length < 8 ∨ startsWith uri unixPrefix = false then []
    else x.calls uri info
  | .registerIp config x => if c.state ≠ .connected then [] else x.calls (ipInfoMessage config)
  | .commitIp x => if c.state ≠ .connected then [] else x.calls commitMessage
  | .retrievePeerInfo read => if c.state ≠ .committed then [] else [.read read]
  | .retrieveIpConfig read => if c.state ≠ .peerInfoReceived then [] else [.read read]
  | .receiveTransaction read => if c.state ≠ .started then [] else [.read read]
  | .sendTransaction txn write => if c.state ≠ .started then [] else [.write (transactionMessage txn) write]
  | .sendTermination id write => if c.state ≠ .started then [] else [.write (terminateMessage id) write]
  | .sendLogout write => if c.state ≠ .started then [] else [.write doneMessage write]
  | .disconnect => []

/-- The types of message an operation is prepared for. -/
def Op.expected : Op Buf → List MsgType
  | .connect _ _ _ => [.systemInfo]
  | .registerIp _ _ => [.ipAck]
  | .commitIp _ => [.ack]
  | .retrievePeerInfo _ => [.systemInfo, .ack]
  | .retrieveIpConfig _ => [.ipInfo, .ack]
  | .receiveTransaction _ => [.done, .transaction]
  | .sendTransaction _ _ | .sendTermination _ _ | .sendLogout _ | .disconnect => []

/-- The use of the socket failed, or gave a message of another type than those expected. -/
def SocketCall.Bad (expected : List MsgType) : SocketCall Buf → Prop
  | .socket (.error _) | .connect _ (.error _) | .write _ (.error _) | .read (.error _) | .read .oversized => True
  | .socket (.ok _) | .connect _ (.ok _) | .write _ (.ok _) => False
  | .read (.ok data) => (getRoot data).getType ∉ expected

/-- The call, with the client it leaves and the status it returns. -/
def Op.call (c : RouterClient) : Op Buf → Option (RouterClient × Status)
  | .connect uri _ x => (c.connect uri x).map fun r => (r.1, r.2.2)
  | .registerIp config x => (c.registerIp config x).map fun r => (r.1, r.2.2)
  | .commitIp x => (c.commitIp x).map fun r => (r.1, r.2.2)
  | .retrievePeerInfo read => (c.retrievePeerInfo read).map fun r => (r.1, r.2.2)
  | .retrieveIpConfig read => (c.retrieveIpConfig read).map fun r => (r.1, r.2.2)
  | .receiveTransaction read => (c.receiveTransaction read).map fun r => (r.1, r.2.2)
  | .sendTransaction _ write => some (c.sendTransaction write)
  | .sendTermination _ write => some (c.sendTermination write)
  | .sendLogout write => some (c.sendLogout write)
  | .disconnect => some (c.disconnect, {})

/-- One call after another on the same client. -/
def next (c : RouterClient) (op : Op Buf) : Option RouterClient := (op.call c).map (·.1)

/-- The read that throws. -/
def SocketCall.throws : SocketCall Buf → Bool
  | .read .oversized => true
  | _ => false

def Op.throws (c : RouterClient) (op : Op Buf) : Bool := (op.calls c).any SocketCall.throws

/-- The client that a call which throws leaves behind: what `connect` set before its read stays set. -/
def Op.unwound (c : RouterClient) : Op Buf → RouterClient
  | .connect uri _ x =>
    match c.dial uri x with
    | .error r => r.1
    | .ok c => c
  | _ => c

/-- How a call ends: with the client then, and the status if it returns. -/
def Op.ended (c : RouterClient) (op : Op Buf) : Option (RouterClient × Option Status) :=
  if op.throws c then some (op.unwound c, none) else (op.call c).map fun r => (r.1, some r.2)

/-- One call after another by a user who catches what is thrown. -/
def after (c : RouterClient) (op : Op Buf) : Option RouterClient := (op.ended c).map (·.1)

end Calls

/-! ### States -/

/-- The state after a state in the order in which a client goes through them. -/
def State.succ : State → Option State
  | .disconnected => some .connected
  | .connected => some .committed
  | .committed => some .peerInfoReceived
  | .peerInfoReceived => some .started
  | .started => some .loggedOut
  | .loggedOut => none

/-- State, socket and URI agree on whether there is a connection. -/
structure Consistent (c : RouterClient) : Prop where
  sock : c.state = .disconnected ↔ c.sock = -1
  uri : c.sock = -1 ↔ c.connectedUri = ""

theorem Consistent.new : Consistent {} where
  sock := by simp
  uri := by simp

theorem disconnect_of_open {c : RouterClient} (h : c.sock ≠ -1) : c.disconnect = {} := if_neg h

theorem Consistent.eq_new {c : RouterClient} (h : Consistent c) (hstate : c.state = .disconnected) : c = {} := by
  have hsock : c.sock = -1 := h.sock.mp hstate
  have huri : c.connectedUri = "" := h.uri.mp hsock
  cases c
  simp_all

theorem Consistent.disconnect {c : RouterClient} (h : Consistent c) : c.disconnect = {} := by
  by_cases hsock : c.sock = -1
  · have hnew := h.eq_new (h.sock.mpr hsock)
    subst hnew
    rfl
  · exact disconnect_of_open hsock

theorem Consistent.after_disconnect {c : RouterClient} (h : Consistent c) : Consistent c.disconnect := by
  rw [h.disconnect]
  exact Consistent.new

/-! ### What a call can do -/

section Outcomes
variable {Buf : Type} [Flatbuffers Buf]

/-- A call is refused in another state than it asks for; it drops the connection; or it leaves the client as it
    is, or one state further, and then nothing went wrong on the socket. -/
inductive Op.Outcome (op : Op Buf) (c : RouterClient) : RouterClient → Status → Prop where
  | refused {s : State} {st : Status} (required : op.required = some s) (state : c.state ≠ s) (calls : op.calls c = [])
      (error : st.isError = true) : Outcome op c c st
  | dropped {st : Status} (state : ∀ s, op.required = some s → c.state = s) : Outcome op c {} st
  | kept {st : Status} (state : ∀ s, op.required = some s → c.state = s)
      (calls : ∀ call ∈ op.calls c, ¬ call.Bad op.expected) : Outcome op c c st
  | advanced {t : RouterClient} {st : Status} (state : ∀ s, op.required = some s → c.state = s)
      (calls : ∀ call ∈ op.calls c, ¬ call.Bad op.expected) (succ : c.state.succ = some t.state) (sock : t.sock ≠ -1)
      (uri : t.connectedUri ≠ "") : Outcome op c t st

variable {c c' : RouterClient} {op : Op Buf} {α : Type} {bad : α} {text : String}

theorem Op.Outcome.of_fail (hdisconnect : c'.disconnect = {}) (hstate : ∀ s, op.required = some s → c.state = s) :
    op.Outcome c (c'.fail bad text).1 (c'.fail bad text).2.2 := by
  show op.Outcome c c'.disconnect _
  rw [hdisconnect]
  exact .dropped hstate

omit [Flatbuffers Buf] in
theorem fail_of_open (h : c.sock ≠ -1) : (c.fail bad text).1 = {} := disconnect_of_open h

theorem failWith_inv {msg : Wire.Message} {r : RouterClient × α × Status} (h : c.failWith bad text msg = some r) :
    ∃ text', r = c.fail bad text' := by
  unfold failWith at h
  obtain ⟨errorMessage, -, hr⟩ := Option.bind_eq_some_iff.mp h
  exact ⟨_, (Option.some.inj hr).symm⟩

theorem receive_inv {read : Received Buf} {k : Wire.Message → Option (RouterClient × α × Status)}
    {r : RouterClient × α × Status} (h : c.receive bad text read k = some r) :
    (∃ text', r = c.fail bad text') ∨ ∃ data, read = .ok data ∧ k (getRoot data) = some r := by
  cases read with
  | error err => exact Or.inl ⟨_, (Option.some.inj h).symm⟩
  | ok data => exact Or.inr ⟨data, rfl, h⟩
  | oversized => cases h

omit [Flatbuffers Buf] in
theorem exchange_inv {write : Except String Unit} {reply : Option (RouterClient × α × Status)}
    {r : RouterClient × α × Status} (h : c.exchange bad text write reply = some r) :
    (∃ text', r = c.fail bad text') ∨ (write = .ok () ∧ reply = some r) := by
  cases write with
  | error err => exact Or.inl ⟨_, (Option.some.inj h).symm⟩
  | ok _ => exact Or.inr ⟨rfl, h⟩

/-! ### What the client makes of a reply -/

/-- The read failed, or gave a message of another type. -/
def Received.Other (type : Wire.MsgType) : Received Buf → Prop
  | .error _ => True
  | .ok data => (getRoot data).getType ≠ type
  | .oversized => False

section Reply
variable {read : Received Buf}

theorem connectReply_inv {r : RouterClient × Option SystemInfo × Status} (h : c.connectReply read = some r) :
    (read.Other .systemInfo ∧ ∃ text, r = c.fail none text) ∨
    (∃ data, read = .ok data ∧ (getRoot data).getType = .systemInfo ∧
      ∃ si, r = ({ c with state := .connected }, some si, {})) := by
  cases read with
  | error err => exact Or.inl ⟨trivial, _, (Option.some.inj h).symm⟩
  | ok data =>
    unfold connectReply receive at h
    simp only at h
    split at h
    · exact Or.inl ⟨‹_›, _, (Option.some.inj h).symm⟩
    · rename_i htype
      obtain ⟨table, -, h⟩ := Option.bind_eq_some_iff.mp h
      obtain ⟨si, -, h⟩ := Option.bind_eq_some_iff.mp h
      exact Or.inr ⟨data, rfl, not_not.mp htype, si, (Option.some.inj h).symm⟩
  | oversized => cases h

theorem registerIpReply_inv {config : IpConfig} {r : RouterClient × UInt64 × Status}
    (h : c.registerIpReply config read = some r) :
    (read.Other .ipAck ∧ ∃ text, r = c.fail 0 text) ∨
    (∃ data, read = .ok data ∧ (getRoot data).getType = .ipAck ∧ r = (c, (getRoot data).getIpId, {})) := by
  cases read with
  | error err => exact Or.inl ⟨trivial, _, (Option.some.inj h).symm⟩
  | ok data =>
    unfold registerIpReply receive at h
    simp only at h
    split at h
    · rename_i herror
      obtain ⟨text, rfl⟩ := failWith_inv h
      exact Or.inl ⟨by simp [Received.Other, herror], text, rfl⟩
    · split at h
      · exact Or.inl ⟨‹_›, _, (Option.some.inj h).symm⟩
      · rename_i htype
        exact Or.inr ⟨data, rfl, not_not.mp htype, (Option.some.inj h).symm⟩
  | oversized => cases h

theorem commitIpReply_inv {r : RouterClient × Unit × Status} (h : c.commitIpReply read = some r) :
    (read.Other .ack ∧ ∃ text, r = c.fail () text) ∨
    (∃ data, read = .ok data ∧ (getRoot data).getType = .ack ∧ r = ({ c with state := .committed }, (), {})) := by
  cases read with
  | error err => exact Or.inl ⟨trivial, _, (Option.some.inj h).symm⟩
  | ok data =>
    unfold commitIpReply receive at h
    simp only at h
    split at h
    · rename_i herror
      obtain ⟨text, rfl⟩ := failWith_inv h
      exact Or.inl ⟨by simp [Received.Other, herror], text, rfl⟩
    · split at h
      · exact Or.inl ⟨‹_›, _, (Option.some.inj h).symm⟩
      · rename_i htype
        exact Or.inr ⟨data, rfl, not_not.mp htype, (Option.some.inj h).symm⟩
  | oversized => cases h

/-- What comes for a list is an entry, the `ACK` that ends it, or a failure. -/
theorem retrieve_inv {type : MsgType} {what list : String} {next : State}
    {entry : Wire.Message → Option (RouterClient × Option α × Status)} {r : RouterClient × Option α × Status}
    (h : c.retrieve type what list next entry read = some r) :
    (∃ data, read = .ok data ∧ (getRoot data).getType = type ∧ entry (getRoot data) = some r) ∨
    (∃ data, read = .ok data ∧ (getRoot data).getType ≠ type ∧ (getRoot data).getType = .ack ∧
      r = ({ c with state := next }, none, {})) ∨
    (read.Other type ∧ read.Other .ack ∧ ∃ text, r = c.fail none text) := by
  cases read with
  | error err => exact Or.inr (Or.inr ⟨trivial, trivial, _, (Option.some.inj h).symm⟩)
  | ok data =>
    unfold retrieve receive at h
    simp only at h
    split at h
    · exact Or.inl ⟨data, rfl, ‹_›, h⟩
    · rename_i htype
      split at h
      · rename_i herror
        obtain ⟨text, rfl⟩ := failWith_inv h
        exact Or.inr (Or.inr ⟨htype, by simp [Received.Other, herror], text, rfl⟩)
      · split at h
        · exact Or.inr (Or.inr ⟨htype, ‹_›, _, (Option.some.inj h).symm⟩)
        · rename_i hack
          exact Or.inr (Or.inl ⟨data, rfl, htype, not_not.mp hack, (Option.some.inj h).symm⟩)
  | oversized => cases h

end Reply

/-! ### Replies in which nothing is wrong -/

theorem Exchange.calls_fine {x : Exchange Buf} {request data : Buf} {expected : List MsgType} (hwrite : x.write = .ok ())
    (hread : x.read = .ok data) (htype : (getRoot data).getType ∈ expected) :
    ∀ call ∈ x.calls request, ¬ call.Bad expected := by
  have hcalls : x.calls request = [.write request (.ok ()), .read (.ok data)] := by
    rw [Exchange.calls, hwrite, hread]
  intro call hmem
  rw [hcalls] at hmem
  rcases List.mem_pair.mp hmem with rfl | rfl
  · exact fun hbad => hbad
  · exact fun hbad => hbad htype

/-- Where nothing goes wrong, a reply of an expected type is there. -/
theorem Exchange.reply_of_fine {x : Exchange Buf} {request : Buf} {expected : List MsgType}
    (h : ∀ call ∈ x.calls request, ¬ call.Bad expected) :
    ∃ data, x.write = .ok () ∧ x.read = .ok data ∧ (getRoot data).getType ∈ expected := by
  unfold Exchange.calls at h
  cases hwrite : x.write with
  | error err =>
    rw [hwrite] at h
    exact absurd trivial (h _ List.mem_cons_self)
  | ok _ =>
    rw [hwrite] at h
    have hread := h (.read x.read) (by simp)
    cases hdata : x.read with
    | error err =>
      rw [hdata] at hread
      exact absurd trivial hread
    | ok data =>
      rw [hdata] at hread
      exact ⟨data, rfl, rfl, not_not.mp hread⟩
    | oversized =>
      rw [hdata] at hread
      exact absurd trivial hread

theorem reply_of_read_fine {read : Received Buf} {expected : List MsgType}
    (h : ∀ call ∈ [SocketCall.read read], ¬ call.Bad expected) :
    ∃ data, read = .ok data ∧ (getRoot data).getType ∈ expected := by
  have hread := h _ (List.mem_singleton_self _)
  cases read with
  | error err => exact absurd trivial hread
  | ok data => exact ⟨data, rfl, not_not.mp hread⟩
  | oversized => exact absurd trivial hread

theorem read_fine {data : Buf} {expected : List MsgType} (htype : (getRoot data).getType ∈ expected) :
    ∀ call ∈ [SocketCall.read (.ok data)], ¬ call.Bad expected := by
  intro call hmem
  obtain rfl := List.mem_singleton.mp hmem
  exact fun hbad => hbad htype

/-! ### The operations one by one -/

theorem registerIp_outcome {config : IpConfig} {x : Exchange Buf} {r : RouterClient × UInt64 × Status} (hc : Consistent c)
    (h : c.registerIp config x = some r) : (Op.registerIp config x).Outcome c r.1 r.2.2 := by
  unfold registerIp at h
  by_cases hstate : c.state = .connected
  · have hrequired : ∀ s, (Op.registerIp config x).required = some s → c.state = s := fun s hs =>
      hstate.trans (Option.some.inj hs)
    rw [if_neg (not_not.mpr hstate)] at h
    rcases exchange_inv h with ⟨text, rfl⟩ | ⟨hwrite, hreply⟩
    · exact .of_fail hc.disconnect hrequired
    · rcases registerIpReply_inv hreply with ⟨-, text, rfl⟩ | ⟨data, hread, htype, rfl⟩
      · exact .of_fail hc.disconnect hrequired
      · have hcalls : (Op.registerIp config x).calls c = x.calls (ipInfoMessage config) := if_neg (not_not.mpr hstate)
        refine .kept hrequired ?_
        rw [hcalls]
        exact Exchange.calls_fine hwrite hread (List.mem_singleton.mpr htype)
  · rw [if_pos hstate] at h
    cases h
    exact .refused rfl hstate (if_pos hstate) rfl

theorem commitIp_outcome {x : Exchange Buf} {r : RouterClient × Unit × Status} (hc : Consistent c)
    (h : c.commitIp x = some r) : (Op.commitIp x).Outcome c r.1 r.2.2 := by
  unfold commitIp at h
  by_cases hstate : c.state = .connected
  · have hrequired : ∀ s, (Op.commitIp x).required = some s → c.state = s := fun s hs =>
      hstate.trans (Option.some.inj hs)
    rw [if_neg (not_not.mpr hstate)] at h
    rcases exchange_inv h with ⟨text, rfl⟩ | ⟨hwrite, hreply⟩
    · exact .of_fail hc.disconnect hrequired
    · rcases commitIpReply_inv hreply with ⟨-, text, rfl⟩ | ⟨data, hread, htype, rfl⟩
      · exact .of_fail hc.disconnect hrequired
      · have hcalls : (Op.commitIp x).calls c = x.calls commitMessage := if_neg (not_not.mpr hstate)
        have hopen := hc.sock.not.mp (by rw [hstate]; decide)
        refine .advanced hrequired ?_ (by rw [hstate]; rfl) hopen (hc.uri.not.mp hopen)
        rw [hcalls]
        exact Exchange.calls_fine hwrite hread (List.mem_singleton.mpr htype)
  · rw [if_pos hstate] at h
    cases h
    exact .refused rfl hstate (if_pos hstate) rfl

/-- The two operations that retrieve a list: an entry keeps the client, the `ACK` moves it on. -/
theorem retrieve_outcome {type : MsgType} {what list : String} {succ : State}
    {entry : Wire.Message → Option (RouterClient × Option α × Status)} {read : Received Buf}
    {r : RouterClient × Option α × Status} (hc : Consistent c) (hstate : ∀ s, op.required = some s → c.state = s)
    (hcalls : op.calls c = [.read read]) (hexpected : op.expected = [type, .ack]) (hsucc : c.state.succ = some succ)
    (hopen : c.state ≠ .disconnected) (hentry : ∀ msg r, entry msg = some r → r.1 = c)
    (h : c.retrieve type what list succ entry read = some r) : op.Outcome c r.1 r.2.2 := by
  have hfine : ∀ {data}, read = .ok data → (getRoot data).getType = type ∨ (getRoot data).getType = .ack →
      ∀ call ∈ op.calls c, ¬ call.Bad op.expected := by
    rintro data rfl htype
    rw [hcalls, hexpected]
    exact read_fine (List.mem_pair.mpr htype)
  rcases retrieve_inv h with ⟨data, hread, htype, hk⟩ | ⟨data, hread, -, hack, rfl⟩ | ⟨-, -, text, rfl⟩
  · obtain ⟨t, v, st⟩ := r
    obtain rfl : t = c := hentry _ _ hk
    exact .kept hstate (hfine hread (Or.inl htype))
  · have hsock := hc.sock.not.mp hopen
    exact .advanced hstate (hfine hread (Or.inr hack)) hsucc hsock (hc.uri.not.mp hsock)
  · exact .of_fail hc.disconnect hstate

theorem retrievePeerInfo_outcome {read : Received Buf} {r : RouterClient × Option SystemInfo × Status}
    (hc : Consistent c) (h : c.retrievePeerInfo read = some r) :
    (Op.retrievePeerInfo read).Outcome c r.1 r.2.2 := by
  unfold retrievePeerInfo at h
  by_cases hstate : c.state = .committed
  · rw [if_neg (not_not.mpr hstate)] at h
    refine retrieve_outcome hc (fun s hs => hstate.trans (Option.some.inj hs)) (if_neg (not_not.mpr hstate)) rfl
      (by rw [hstate]; rfl) (by rw [hstate]; decide) ?_ h
    intro msg r hentry
    obtain ⟨table, -, hentry⟩ := Option.bind_eq_some_iff.mp hentry
    obtain ⟨si, -, hentry⟩ := Option.bind_eq_some_iff.mp hentry
    rw [← Option.some.inj hentry]
  · rw [if_pos hstate] at h
    cases h
    exact .refused rfl hstate (if_pos hstate) rfl

theorem retrieveIpConfig_outcome {read : Received Buf} {r : RouterClient × Option IpConfig × Status}
    (hc : Consistent c) (h : c.retrieveIpConfig read = some r) :
    (Op.retrieveIpConfig read).Outcome c r.1 r.2.2 := by
  unfold retrieveIpConfig at h
  by_cases hstate : c.state = .peerInfoReceived
  · rw [if_neg (not_not.mpr hstate)] at h
    refine retrieve_outcome hc (fun s hs => hstate.trans (Option.some.inj hs)) (if_neg (not_not.mpr hstate)) rfl
      (by rw [hstate]; rfl) (by rw [hstate]; decide) ?_ h
    intro msg r hentry
    obtain ⟨table, -, hentry⟩ := Option.bind_eq_some_iff.mp hentry
    obtain ⟨name, -, hentry⟩ := Option.bind_eq_some_iff.mp hentry
    split at hentry
    · rw [← Option.some.inj hentry]
    · rw [← Option.some.inj hentry]
  · rw [if_pos hstate] at h
    cases h
    exact .refused rfl hstate (if_pos hstate) rfl

theorem receiveTransaction_outcome {read : Received Buf} {r : RouterClient × Option Transaction × Status}
    (hc : Consistent c) (h : c.receiveTransaction read = some r) :
    (Op.receiveTransaction read).Outcome c r.1 r.2.2 := by
  unfold receiveTransaction at h
  by_cases hstate : c.state = .started
  · have hrequired : ∀ s, (Op.receiveTransaction read).required = some s → c.state = s := fun s hs =>
      hstate.trans (Option.some.inj hs)
    have hcalls : (Op.receiveTransaction read).calls c = [.read read] := if_neg (not_not.mpr hstate)
    rw [if_neg (not_not.mpr hstate)] at h
    rcases receive_inv h with ⟨text, rfl⟩ | ⟨data, rfl, hk⟩
    · exact .of_fail hc.disconnect hrequired
    · have hfine : (getRoot data).getType = .done ∨ (getRoot data).getType = .transaction →
          ∀ call ∈ (Op.receiveTransaction (.ok data)).calls c,
            ¬ call.Bad (Op.receiveTransaction (.ok data)).expected := by
        intro htype
        rw [hcalls]
        exact read_fine (List.mem_pair.mpr htype)
      split at hk
      · cases hk
        exact .kept hrequired (hfine (Or.inl ‹_›))
      · split at hk
        · cases hk
          exact .of_fail hc.disconnect hrequired
        · rename_i htype
          have hfine := hfine (Or.inr (not_not.mp htype))
          obtain ⟨table, -, hk⟩ := Option.bind_eq_some_iff.mp hk
          split at hk
          · rw [← Option.some.inj hk]
            exact .kept hrequired hfine
          · obtain ⟨txn, -, hk⟩ := Option.bind_eq_some_iff.mp hk
            rw [← Option.some.inj hk]
            exact .kept hrequired hfine
  · rw [if_pos hstate] at h
    cases h
    exact .refused rfl hstate (if_pos hstate) rfl

theorem write_fine {request : Buf} {expected : List MsgType} :
    ∀ call ∈ [SocketCall.write request (Except.ok ())], ¬ call.Bad expected := by
  intro call hmem
  obtain rfl := List.mem_singleton.mp hmem
  exact fun hbad => hbad

/-- The three messages without reply; only the last changes the state. -/
theorem send_outcome {refused text : String} {succ : Option State} {write : Except String Unit} {request : Buf}
    (hc : Consistent c) (hrequired : op.required = some .started)
    (hcalls : op.calls c = if c.state ≠ .started then [] else [.write request write])
    (hsucc : succ = none ∨ succ = some .loggedOut) {r : RouterClient × Status}
    (h : c.send refused (c.written text succ write) = r) : op.Outcome c r.1 r.2 := by
  subst h
  unfold send
  by_cases hstate : c.state = .started
  · have hstates : ∀ s, op.required = some s → c.state = s := fun s hs =>
      hstate.trans (Option.some.inj (hrequired.symm.trans hs))
    rw [if_neg (not_not.mpr hstate)] at hcalls ⊢
    cases write with
    | error err =>
      show op.Outcome c c.disconnect _
      rw [hc.disconnect]
      exact .dropped hstates
    | ok _ =>
      have hfine : ∀ call ∈ op.calls c, ¬ call.Bad op.expected := by
        rw [hcalls]
        exact write_fine
      rcases hsucc with rfl | rfl
      · exact .kept hstates hfine
      · have hsock := hc.sock.not.mp (by rw [hstate]; decide)
        exact .advanced hstates hfine (by rw [hstate]; rfl) hsock (hc.uri.not.mp hsock)
  · rw [if_pos hstate] at hcalls ⊢
    exact .refused hrequired hstate hcalls rfl

/-! #### `connect` -/

section Connect
variable {uri : String} {info : SystemInfo} {x : ConnectCalls Buf}

omit [Flatbuffers Buf] in
/-- A client that has dialled waits for the reply on its new socket. -/
theorem dial_ok {t : RouterClient} (h : c.dial uri x = .ok t) : c.state = .disconnected ∧
    ¬(uri.length < 8 ∨ startsWith uri unixPrefix = false) ∧ ∃ fd, x.socket = .ok fd ∧
      x.connect (sunPath uri) = .ok () ∧ x.write = .ok () ∧ t = { c with sock := (fd : Int), connectedUri := uri } := by
  unfold dial at h
  split at h
  · cases h
  · rename_i hstate
    split at h
    · cases h
    · rename_i huri
      refine ⟨not_not.mp hstate, huri, ?_⟩
      split at h
      · cases h
      · rename_i fd hsocket
        split at h
        · cases h
        · rename_i hconnect
          split at h
          · cases h
          · rename_i hwrite
            cases h
            exact ⟨fd, hsocket, hconnect, hwrite, rfl⟩

theorem calls_of_dial {t : RouterClient} (info : SystemInfo) (h : c.dial uri x = .ok t) :
    ∃ fd, (Op.connect uri info x).calls c =
      [.socket (.ok fd), .connect (sunPath uri) (.ok ()), .write (systemInfoMessage info) (.ok ()), .read x.read] := by
  obtain ⟨hstate, huri, fd, hsocket, hconnect, hwrite, -⟩ := dial_ok h
  have hcalls : (Op.connect uri info x).calls c = x.calls uri info := (if_neg (not_not.mpr hstate)).trans (if_neg huri)
  refine ⟨fd, hcalls.trans ?_⟩
  simp only [ConnectCalls.calls, Exchange.calls, hsocket, hconnect, hwrite]

/-- What `connect` returns without a reply. -/
theorem dial_outcome {r : RouterClient × Option SystemInfo × Status} (hc : Consistent c) (h : c.dial uri x = .error r) :
    (Op.connect uri info x).Outcome c r.1 r.2.2 := by
  unfold dial at h
  by_cases hstate : c.state = .disconnected
  · have hrequired : ∀ s, (Op.connect uri info x).required = some s → c.state = s := fun s hs =>
      hstate.trans (Option.some.inj hs)
    rw [if_neg (not_not.mpr hstate)] at h
    by_cases huri : uri.length < 8 ∨ startsWith uri unixPrefix = false
    · have hcalls : (Op.connect uri info x).calls c = [] := (if_neg (not_not.mpr hstate)).trans (if_pos huri)
      rw [if_pos huri] at h
      cases h
      exact .kept hrequired (by simp [hcalls])
    · rw [if_neg huri] at h
      split at h
      · cases h
        obtain rfl := hc.eq_new hstate
        exact .dropped hrequired
      · rename_i fd hsocket
        have hopen : (fd : Int) ≠ -1 := by omega
        split at h
        · cases h
          exact .of_fail (disconnect_of_open hopen) hrequired
        · split at h
          · cases h
            exact .of_fail (disconnect_of_open hopen) hrequired
          · cases h
  · rw [if_pos hstate] at h
    cases h
    exact .refused rfl hstate (if_pos hstate) rfl

theorem connect_outcome {r : RouterClient × Option SystemInfo × Status} (hc : Consistent c)
    (h : c.connect uri x = some r) : (Op.connect uri info x).Outcome c r.1 r.2.2 := by
  unfold connect at h
  split at h
  · cases h
    exact dial_outcome hc ‹_›
  · rename_i t hdial
    obtain ⟨hstate, huri, fd, -, -, -, rfl⟩ := dial_ok hdial
    have hrequired : ∀ s, (Op.connect uri info x).required = some s → c.state = s := fun s hs =>
      hstate.trans (Option.some.inj hs)
    have hopen : (fd : Int) ≠ -1 := by omega
    rcases connectReply_inv h with ⟨-, text, rfl⟩ | ⟨data, hread, htype, si, rfl⟩
    · exact .of_fail (disconnect_of_open hopen) hrequired
    · refine .advanced hrequired ?_ (by rw [hstate]; rfl) hopen ?_
      · obtain ⟨fd', hcalls⟩ := calls_of_dial info hdial
        rw [hread] at hcalls
        intro call hmem
        rw [hcalls] at hmem
        simp only [List.mem_cons, List.not_mem_nil, or_false] at hmem
        rcases hmem with rfl | rfl | rfl | rfl
        · exact fun hbad => hbad
        · exact fun hbad => hbad
        · exact fun hbad => hbad
        · exact fun hbad => hbad (List.mem_singleton.mpr htype)
      · rintro rfl
        exact huri (Or.inl (by decide))

end Connect

omit [Flatbuffers Buf] in
/-- What `connect` returns without a reply is an error, and the client is as it was. -/
theorem dial_error {uri : String} {x : ConnectCalls Buf} {r : RouterClient × Option SystemInfo × Status}
    (hc : Consistent c) (h : c.dial uri x = .error r) : r.2.2.isError = true ∧ r.2.1 = none ∧ r.1 = c := by
  unfold dial at h
  split at h
  · cases h
    exact ⟨rfl, rfl, rfl⟩
  · rename_i hstate
    have hnew : c = {} := hc.eq_new (not_not.mp hstate)
    split at h
    · cases h
      exact ⟨rfl, rfl, rfl⟩
    · split at h
      · cases h
        subst hnew
        exact ⟨rfl, rfl, rfl⟩
      · rename_i fd _
        have hopen : (fd : Int) ≠ -1 := by omega
        split at h
        · cases h
          exact ⟨rfl, rfl, (fail_of_open hopen).trans hnew.symm⟩
        · split at h
          · cases h
            exact ⟨rfl, rfl, (fail_of_open hopen).trans hnew.symm⟩
          · cases h

/-- A `connect` that fails leaves the client as it was. -/
theorem connect_cases {uri : String} {x : ConnectCalls Buf} {r : RouterClient × Option SystemInfo × Status}
    (hc : Consistent c) (h : c.connect uri x = some r) :
    (r.2.2.isError = true ∧ r.1 = c) ∨
    (r.2.2.isError = false ∧ c.state = .disconnected ∧ r.1.state = .connected ∧ r.2.1.isSome = true) := by
  unfold connect at h
  split at h
  · cases h
    obtain ⟨hst, -, heq⟩ := dial_error hc ‹_›
    exact Or.inl ⟨hst, heq⟩
  · rename_i t hdial
    obtain ⟨hstate, -, fd, -, -, -, rfl⟩ := dial_ok hdial
    have hopen : (fd : Int) ≠ -1 := by omega
    have hfail (text : String) :
        (fail { c with sock := (fd : Int), connectedUri := uri } (none : Option SystemInfo) text).1 = c :=
      (fail_of_open hopen).trans (hc.eq_new hstate).symm
    rcases connectReply_inv h with ⟨-, text, rfl⟩ | ⟨data, -, -, si, rfl⟩
    · exact Or.inl ⟨rfl, hfail _⟩
    · exact Or.inr ⟨rfl, hstate, rfl, rfl⟩

/-- A registration that goes well leaves the client as it was; one that fails may have dropped the connection. -/
theorem registerIp_cases {config : IpConfig} {x : Exchange Buf} {r : RouterClient × UInt64 × Status} (hc : Consistent c)
    (h : c.registerIp config x = some r) :
    (r.2.2.isError = true ∧ (r.1 = c ∨ r.1 = {})) ∨
    (r.2.2.isError = false ∧ c.state = .connected ∧ r.1 = c ∧
      ∃ data, x.read = .ok data ∧ (getRoot data).getType = .ipAck ∧ r.2.1 = (getRoot data).getIpId) := by
  unfold registerIp at h
  split at h
  · cases h
    exact Or.inl ⟨rfl, Or.inl rfl⟩
  · rename_i hstate
    rcases exchange_inv h with ⟨text, rfl⟩ | ⟨-, hreply⟩
    · exact Or.inl ⟨rfl, Or.inr hc.disconnect⟩
    · rcases registerIpReply_inv hreply with ⟨-, text, rfl⟩ | ⟨data, hread, htype, rfl⟩
      · exact Or.inl ⟨rfl, Or.inr hc.disconnect⟩
      · exact Or.inr ⟨rfl, not_not.mp hstate, rfl, data, hread, htype, rfl⟩

theorem commitIp_cases {x : Exchange Buf} {r : RouterClient × Unit × Status} (hc : Consistent c)
    (h : c.commitIp x = some r) :
    (r.2.2.isError = true ∧ (r.1 = c ∨ r.1 = {})) ∨
    (r.2.2.isError = false ∧ c.state = .connected ∧ r.1 = { c with state := .committed }) := by
  unfold commitIp at h
  split at h
  · cases h
    exact Or.inl ⟨rfl, Or.inl rfl⟩
  · rename_i hstate
    rcases exchange_inv h with ⟨text, rfl⟩ | ⟨-, hreply⟩
    · exact Or.inl ⟨rfl, Or.inr hc.disconnect⟩
    · rcases commitIpReply_inv hreply with ⟨-, text, rfl⟩ | ⟨data, -, -, rfl⟩
      · exact Or.inl ⟨rfl, Or.inr hc.disconnect⟩
      · exact Or.inr ⟨rfl, not_not.mp hstate, rfl⟩

/-- What a call of any operation can do to a client that agrees with itself. -/
theorem call_outcome {t : RouterClient} {st : Status} (hc : Consistent c) (h : op.call c = some (t, st)) :
    op.Outcome c t st := by
  have split_pair : ∀ {α : Type} {o : Option (RouterClient × α × Status)},
      o.map (fun r => (r.1, r.2.2)) = some (t, st) → ∃ r, o = some r ∧ r.1 = t ∧ r.2.2 = st := by
    intro α o ho
    obtain ⟨r, hr, hpair⟩ := Option.map_eq_some_iff.mp ho
    exact ⟨r, hr, (Prod.mk.inj hpair).1, (Prod.mk.inj hpair).2⟩
  cases op with
  | connect uri info x =>
    obtain ⟨r, hr, rfl, rfl⟩ := split_pair h
    exact connect_outcome hc hr
  | registerIp config x =>
    obtain ⟨r, hr, rfl, rfl⟩ := split_pair h
    exact registerIp_outcome hc hr
  | commitIp x =>
    obtain ⟨r, hr, rfl, rfl⟩ := split_pair h
    exact commitIp_outcome hc hr
  | retrievePeerInfo read =>
    obtain ⟨r, hr, rfl, rfl⟩ := split_pair h
    exact retrievePeerInfo_outcome hc hr
  | retrieveIpConfig read =>
    obtain ⟨r, hr, rfl, rfl⟩ := split_pair h
    exact retrieveIpConfig_outcome hc hr
  | receiveTransaction read =>
    obtain ⟨r, hr, rfl, rfl⟩ := split_pair h
    exact receiveTransaction_outcome hc hr
  | sendTransaction txn write =>
    exact send_outcome hc rfl rfl (Or.inl rfl) (Option.some.inj h)
  | sendTermination id write =>
    exact send_outcome hc rfl rfl (Or.inl rfl) (Option.some.inj h)
  | sendLogout write =>
    exact send_outcome hc rfl rfl (Or.inr rfl) (Option.some.inj h)
  | disconnect =>
    cases h
    rw [hc.disconnect]
    exact .dropped fun s hs => nomatch hs

/-! ### Sequences of calls -/

theorem Op.Outcome.consistent {t : RouterClient} {st : Status} (hc : Consistent c) (h : op.Outcome c t st) : Consistent t := by
  cases h with
  | refused => exact hc
  | dropped => exact Consistent.new
  | kept => exact hc
  | advanced hstate hcalls hsucc hsock huri =>
    have hstate : t.state ≠ .disconnected := by
      intro hdisc
      rw [hdisc] at hsucc
      cases hs : c.state with
      | _ => rw [hs] at hsucc; cases hsucc
    exact ⟨iff_of_false hstate hsock, iff_of_false hsock huri⟩

/-- A call keeps the state, moves it one on, or drops the connection, as it does after anything bad on the
    socket; outside its state an operation only returns an error. -/
structure Conducted (c : RouterClient) (op : Op Buf) (t : RouterClient) (st : Option Status) : Prop where
  move : t.state = c.state ∨ c.state.succ = some t.state ∨ t.state = .disconnected
  bad : (∃ call ∈ op.calls c, call.Bad op.expected) → t.state = .disconnected
  refused : ∀ s, op.required = some s → c.state ≠ s → (st.any Status.isError = true) ∧ t = c ∧ op.calls c = []

theorem Op.Outcome.conducted {t : RouterClient} {st : Status} (h : op.Outcome c t st) : Conducted c op t (some st) := by
  cases h with
  | refused hrequired hstate hcalls herror =>
    exact {
      move := Or.inl rfl
      bad := fun ⟨call, hmem, _⟩ => absurd (hcalls ▸ hmem) List.not_mem_nil
      refused := fun _ _ _ => ⟨herror, rfl, hcalls⟩ }
  | dropped hstate =>
    exact {
      move := Or.inr (Or.inr rfl)
      bad := fun _ => rfl
      refused := fun s hs hne => absurd (hstate s hs) hne }
  | kept hstate hcalls =>
    exact {
      move := Or.inl rfl
      bad := fun ⟨call, hmem, hbad⟩ => absurd hbad (hcalls call hmem)
      refused := fun s hs hne => absurd (hstate s hs) hne }
  | advanced hstate hcalls hsucc =>
    exact {
      move := Or.inr (Or.inl hsucc)
      bad := fun ⟨call, hmem, hbad⟩ => absurd hbad (hcalls call hmem)
      refused := fun s hs hne => absurd (hstate s hs) hne }

/-! ### Connections that stay -/

theorem registerIp_stays {config : IpConfig} {x : Exchange Buf} {r : RouterClient × UInt64 × Status}
    (hopen : c.state ≠ .disconnected)
    (hfine : ∀ call ∈ (Op.registerIp config x).calls c, ¬ call.Bad (Op.registerIp config x : Op Buf).expected)
    (h : c.registerIp config x = some r) : r.1.state ≠ .disconnected := by
  simp only [Op.calls] at hfine
  unfold registerIp at h
  split at h
  · cases h
    exact hopen
  · rename_i hstate
    rw [if_neg hstate] at hfine
    obtain ⟨data, hwrite, hread, htype⟩ := Exchange.reply_of_fine hfine
    have htype : (getRoot data).getType = .ipAck := List.mem_singleton.mp htype
    simp only [exchange, registerIpReply, receive, hwrite, hread, htype] at h
    cases h
    exact hopen

theorem commitIp_stays {x : Exchange Buf} {r : RouterClient × Unit × Status} (hopen : c.state ≠ .disconnected)
    (hfine : ∀ call ∈ (Op.commitIp x).calls c, ¬ call.Bad (Op.commitIp x : Op Buf).expected)
    (h : c.commitIp x = some r) : r.1.state ≠ .disconnected := by
  simp only [Op.calls] at hfine
  unfold commitIp at h
  split at h
  · cases h
    exact hopen
  · rename_i hstate
    rw [if_neg hstate] at hfine
    obtain ⟨data, hwrite, hread, htype⟩ := Exchange.reply_of_fine hfine
    have htype : (getRoot data).getType = .ack := List.mem_singleton.mp htype
    simp only [exchange, commitIpReply, receive, hwrite, hread, htype] at h
    cases h
    simp

theorem receiveTransaction_stays {read : Received Buf} {r : RouterClient × Option Transaction × Status}
    (hopen : c.state ≠ .disconnected)
    (hfine : ∀ call ∈ (Op.receiveTransaction read).calls c, ¬ call.Bad (Op.receiveTransaction read).expected)
    (h : c.receiveTransaction read = some r) : r.1.state ≠ .disconnected := by
  simp only [Op.calls] at hfine
  unfold receiveTransaction at h
  split at h
  · cases h
    exact hopen
  · rename_i hstate
    rw [if_neg hstate] at hfine
    obtain ⟨data, hread, htype⟩ := reply_of_read_fine hfine
    simp only [transactionReply, receive, hread] at h
    split at h
    · cases h
      exact hopen
    · rename_i hdone
      rw [if_neg (not_not.mpr ((List.mem_pair.mp htype).resolve_left hdone))] at h
      obtain ⟨table, -, h⟩ := Option.bind_eq_some_iff.mp h
      split at h
      · cases h
        exact hopen
      · obtain ⟨txn, -, h⟩ := Option.bind_eq_some_iff.mp h
        cases h
        exact hopen

theorem send_stays {refused text : String} {succ : Option State} {write : Except String Unit} {request : Buf}
    (hopen : c.state ≠ .disconnected) (hsucc : succ.getD c.state ≠ .disconnected)
    (hfine : ∀ call ∈ (if c.state ≠ .started then [] else [SocketCall.write request write]), ¬ call.Bad []) :
    (c.send refused (c.written text succ write)).1.state ≠ .disconnected := by
  unfold send
  by_cases hstate : c.state = .started
  · rw [if_neg (not_not.mpr hstate)] at hfine ⊢
    cases write with
    | error err => exact absurd trivial (hfine _ (List.mem_singleton_self _))
    | ok _ => exact hsucc
  · rw [if_pos hstate]
    exact hopen

/-- While a client registers or is started, nothing but something bad on the socket drops the connection. -/
theorem stays_of_fine {t : RouterClient} {st : Status} {s : State} (hrequired : op.required = some s)
    (hs : s = .connected ∨ s = .started) (hopen : c.state ≠ .disconnected)
    (hfine : ∀ call ∈ op.calls c, ¬ call.Bad op.expected) (h : op.call c = some (t, st)) : t.state ≠ .disconnected := by
  cases op with
  | connect uri info x => rcases hs with rfl | rfl <;> cases hrequired
  | registerIp config x =>
    obtain ⟨r, hr, hpair⟩ := Option.map_eq_some_iff.mp h
    cases hpair
    exact registerIp_stays hopen hfine hr
  | commitIp x =>
    obtain ⟨r, hr, hpair⟩ := Option.map_eq_some_iff.mp h
    cases hpair
    exact commitIp_stays hopen hfine hr
  | retrievePeerInfo read => rcases hs with rfl | rfl <;> cases hrequired
  | retrieveIpConfig read => rcases hs with rfl | rfl <;> cases hrequired
  | receiveTransaction read =>
    obtain ⟨r, hr, hpair⟩ := Option.map_eq_some_iff.mp h
    cases hpair
    exact receiveTransaction_stays hopen hfine hr
  | sendTransaction txn write =>
    obtain ⟨rfl, -⟩ := Prod.mk.inj (Option.some.inj h)
    exact send_stays hopen hopen hfine
  | sendTermination id write =>
    obtain ⟨rfl, -⟩ := Prod.mk.inj (Option.some.inj h)
    exact send_stays hopen hopen hfine
  | sendLogout write =>
    obtain ⟨rfl, -⟩ := Prod.mk.inj (Option.some.inj h)
    have hloggedOut : (some State.loggedOut).getD c.state ≠ .disconnected := by simp
    exact send_stays hopen hloggedOut hfine
  | disconnect => cases hrequired

omit [Flatbuffers Buf] in
/-- No operation is prepared for an `ERROR`. -/
theorem error_unexpected (op : Op Buf) : MsgType.error ∉ op.expected := by
  cases op <;> simp [Op.expected]

theorem Consistent.next {t : RouterClient} (hc : Consistent c) (h : RouterClient.next c op = some t) : Consistent t := by
  obtain ⟨r, hr, rfl⟩ := Option.map_eq_some_iff.mp h
  exact (call_outcome hc hr).consistent hc

end Outcomes

/-! ### Calls that throw -/

section Throws
variable {Buf : Type} [Flatbuffers Buf] {c t : RouterClient} {op op' : Op Buf} {r : RouterClient × Option Status}

/-- The same operation with the same arguments, whatever its socket calls give. -/
inductive Op.Alike : Op Buf → Op Buf → Prop where
  | connect (uri : String) (info : SystemInfo) (x x' : ConnectCalls Buf) : Alike (.connect uri info x) (.connect uri info x')
  | registerIp (config : IpConfig) (x x' : Exchange Buf) : Alike (.registerIp config x) (.registerIp config x')
  | commitIp (x x' : Exchange Buf) : Alike (.commitIp x) (.commitIp x')
  | retrievePeerInfo (read read' : Received Buf) : Alike (.retrievePeerInfo read) (.retrievePeerInfo read')
  | retrieveIpConfig (read read' : Received Buf) : Alike (.retrieveIpConfig read) (.retrieveIpConfig read')
  | receiveTransaction (read read' : Received Buf) : Alike (.receiveTransaction read) (.receiveTransaction read')
  | sendTransaction (txn : Transaction) (write write' : Except String Unit) :
      Alike (.sendTransaction txn write) (.sendTransaction txn write')
  | sendTermination (id : UInt64) (write write' : Except String Unit) :
      Alike (.sendTermination id write) (.sendTermination id write')
  | sendLogout (write write' : Except String Unit) : Alike (.sendLogout write) (.sendLogout write')
  | disconnect : Alike .disconnect .disconnect

omit [Flatbuffers Buf] in
theorem Exchange.eq_of_calls {α : Type} {bad : α} {text : String} {request : Buf} {x x' : Exchange Buf}
    {reply : Received Buf → Option (RouterClient × α × Status)} (h : x.calls request = x'.calls request) :
    c.exchange bad text x.write (reply x.read) = c.exchange bad text x'.write (reply x'.read) := by
  unfold Exchange.calls at h
  obtain ⟨hwrite, hrest⟩ := List.cons.inj h
  have hwrite : x.write = x'.write := (SocketCall.write.inj hwrite).2
  rw [← hwrite] at hrest ⊢
  unfold exchange
  cases hw : x.write with
  | error err => rfl
  | ok _ =>
    rw [hw] at hrest
    rw [SocketCall.read.inj (List.cons.inj hrest).1]

theorem connect_eq_of_calls {uri : String} {info : SystemInfo} {x x' : ConnectCalls Buf}
    (h : x.calls uri info = x'.calls uri info) : c.connect uri x = c.connect uri x' := by
  unfold ConnectCalls.calls at h
  obtain ⟨hsocket, hrest⟩ := List.cons.inj h
  have hsocket : x.socket = x'.socket := SocketCall.socket.inj hsocket
  unfold connect dial
  rw [← hsocket] at hrest ⊢
  cases hs : x.socket with
  | error err => split_ifs <;> rfl
  | ok fd =>
    simp only [hs] at hrest
    obtain ⟨hconnect, hrest⟩ := List.cons.inj hrest
    have hconnect : x.connect (sunPath uri) = x'.connect (sunPath uri) := (SocketCall.connect.inj hconnect).2
    simp only [← hconnect] at hrest ⊢
    cases hd : x.connect (sunPath uri) with
    | error err => split_ifs <;> rfl
    | ok _ =>
      simp only [hd, Exchange.calls] at hrest
      obtain ⟨hwrite, hrest⟩ := List.cons.inj hrest
      have hwrite : x.write = x'.write := (SocketCall.write.inj hwrite).2
      simp only [← hwrite] at hrest ⊢
      cases hw : x.write with
      | error err => split_ifs <;> rfl
      | ok _ =>
        simp only [hw] at hrest
        rw [SocketCall.read.inj (List.cons.inj hrest).1]

/-- What a call does depends on the uses of the socket that it makes, and on nothing else that its socket could give. -/
theorem call_eq_of_calls (h : op.Alike op') (hcalls : op.calls c = op'.calls c) : op.call c = op'.call c := by
  cases h with
  | connect uri info x x' =>
    simp only [Op.calls] at hcalls
    split_ifs at hcalls with hstate huri
    · simp [Op.call, connect, dial, hstate]
    · simp only [Op.call, connect, dial, hstate, huri, if_true, if_false]
    · rw [Op.call, Op.call, connect_eq_of_calls hcalls]
  | registerIp config x x' =>
    simp only [Op.calls] at hcalls
    simp only [Op.call, registerIp]
    split_ifs at hcalls ⊢ with hstate
    · rfl
    · rw [Exchange.eq_of_calls hcalls]
  | commitIp x x' =>
    simp only [Op.calls] at hcalls
    simp only [Op.call, commitIp]
    split_ifs at hcalls ⊢ with hstate
    · rfl
    · rw [Exchange.eq_of_calls hcalls]
  | retrievePeerInfo read read' =>
    simp only [Op.calls] at hcalls
    simp only [Op.call, retrievePeerInfo]
    split_ifs at hcalls ⊢ with hstate
    · rfl
    · rw [SocketCall.read.inj (List.cons.inj hcalls).1]
  | retrieveIpConfig read read' =>
    simp only [Op.calls] at hcalls
    simp only [Op.call, retrieveIpConfig]
    split_ifs at hcalls ⊢ with hstate
    · rfl
    · rw [SocketCall.read.inj (List.cons.inj hcalls).1]
  | receiveTransaction read read' =>
    simp only [Op.calls] at hcalls
    simp only [Op.call, receiveTransaction]
    split_ifs at hcalls ⊢ with hstate
    · rfl
    · rw [SocketCall.read.inj (List.cons.inj hcalls).1]
  | sendTransaction txn write write' =>
    simp only [Op.calls] at hcalls
    simp only [Op.call, sendTransaction, send]
    split_ifs at hcalls ⊢ with hstate
    · rfl
    · rw [(SocketCall.write.inj (List.cons.inj hcalls).1).2]
  | sendTermination id write write' =>
    simp only [Op.calls] at hcalls
    simp only [Op.call, sendTermination, send]
    split_ifs at hcalls ⊢ with hstate
    · rfl
    · rw [(SocketCall.write.inj (List.cons.inj hcalls).1).2]
  | sendLogout write write' =>
    simp only [Op.calls] at hcalls
    simp only [Op.call, sendLogout, send]
    split_ifs at hcalls ⊢ with hstate
    · rfl
    · rw [(SocketCall.write.inj (List.cons.inj hcalls).1).2]
  | disconnect => rfl

theorem throws_connect {uri : String} {info : SystemInfo} {x : ConnectCalls Buf}
    (h : (Op.connect uri info x).throws c = true) : ∃ t, c.dial uri x = .ok t := by
  cases hdial : c.dial uri x with
  | ok t => exact ⟨t, rfl⟩
  | error r =>
    have hno : (Op.connect uri info x).throws c = false := by
      unfold dial at hdial
      simp only [Op.throws, Op.calls]
      split_ifs at hdial ⊢
      · rfl
      · rfl
      · unfold ConnectCalls.calls
        cases hs : x.socket with
        | error err => rfl
        | ok fd =>
          simp only [hs] at hdial
          cases hd : x.connect (sunPath uri) with
          | error err => rfl
          | ok _ =>
            simp only [hd] at hdial
            cases hw : x.write with
            | error err => simp [SocketCall.throws, Exchange.calls, hw]
            | ok _ =>
              rw [hw] at hdial
              cases hdial
    rw [hno] at h
    cases h

/-- A call that throws is one of a client that has the state it asks for; only `connect` has set anything. -/
theorem throws_cases (h : op.throws c = true) :
    (∃ fd uri, (fd : Int) ≠ -1 ∧ op.unwound c = { c with sock := fd, connectedUri := uri } ∧ c.state = .disconnected) ∨
    (op.unwound c = c ∧ c.state ≠ .disconnected) := by
  have hread {s : State} {calls : List (SocketCall Buf)} (hs : s ≠ .disconnected)
      (hany : (if c.state ≠ s then [] else calls).any SocketCall.throws = true) : c.state ≠ .disconnected := by
    split_ifs at hany with hstate
    · cases hany
    · exact not_not.mp hstate ▸ hs
  cases op with
  | connect uri info x =>
    obtain ⟨t, hdial⟩ := throws_connect h
    obtain ⟨hstate, -, fd, -, -, -, rfl⟩ := dial_ok hdial
    exact Or.inl ⟨fd, uri, by omega, by simp [Op.unwound, hdial], hstate⟩
  | registerIp config x => exact Or.inr ⟨rfl, hread (by decide) h⟩
  | commitIp x => exact Or.inr ⟨rfl, hread (by decide) h⟩
  | retrievePeerInfo read => exact Or.inr ⟨rfl, hread (by decide) h⟩
  | retrieveIpConfig read => exact Or.inr ⟨rfl, hread (by decide) h⟩
  | receiveTransaction read => exact Or.inr ⟨rfl, hread (by decide) h⟩
  | sendTransaction txn write => exact Or.inr ⟨rfl, hread (by decide) h⟩
  | sendTermination id write => exact Or.inr ⟨rfl, hread (by decide) h⟩
  | sendLogout write => exact Or.inr ⟨rfl, hread (by decide) h⟩
  | disconnect => cases h

/-- Such a call does not return. -/
theorem call_of_throws (h : op.throws c = true) : op.call c = none := by
  have hread {s : State} {calls : List (SocketCall Buf)}
      (hany : (if c.state ≠ s then [] else calls).any SocketCall.throws = true) :
      c.state = s ∧ calls.any SocketCall.throws = true := by
    split_ifs at hany with hstate
    · cases hany
    · exact ⟨not_not.mp hstate, hany⟩
  have hexchange {x : Exchange Buf} {request : Buf} (hany : (x.calls request).any SocketCall.throws = true) :
      x.write = .ok () ∧ x.read = .oversized := by
    unfold Exchange.calls at hany
    cases hw : x.write with
    | error err => simp [hw, SocketCall.throws] at hany
    | ok _ => cases hr : x.read <;> simp [hw, hr, SocketCall.throws] at hany ⊢
  have hsingle {read : Received Buf} (hany : [SocketCall.read read].any SocketCall.throws = true) : read = .oversized := by
    cases read <;> simp [SocketCall.throws] at hany ⊢
  cases op with
  | connect uri info x =>
    obtain ⟨t, hdial⟩ := throws_connect h
    obtain ⟨fd, hcalls⟩ := calls_of_dial info hdial
    rw [Op.throws, hcalls] at h
    have hover : x.read = .oversized := hsingle (by simpa [SocketCall.throws] using h)
    simp [Op.call, connect, hdial, connectReply, receive, hover]
  | registerIp config x =>
    obtain ⟨hstate, hany⟩ := hread h
    obtain ⟨hwrite, hover⟩ := hexchange hany
    simp [Op.call, registerIp, hstate, exchange, hwrite, registerIpReply, receive, hover]
  | commitIp x =>
    obtain ⟨hstate, hany⟩ := hread h
    obtain ⟨hwrite, hover⟩ := hexchange hany
    simp [Op.call, commitIp, hstate, exchange, hwrite, commitIpReply, receive, hover]
  | retrievePeerInfo read =>
    obtain ⟨hstate, hany⟩ := hread h
    simp [Op.call, retrievePeerInfo, hstate, peerInfoReply, retrieve, receive, hsingle hany]
  | retrieveIpConfig read =>
    obtain ⟨hstate, hany⟩ := hread h
    simp [Op.call, retrieveIpConfig, hstate, ipConfigReply, retrieve, receive, hsingle hany]
  | receiveTransaction read =>
    obtain ⟨hstate, hany⟩ := hread h
    simp [Op.call, receiveTransaction, hstate, transactionReply, receive, hsingle hany]
  | sendTransaction txn write => cases (hread h).2
  | sendTermination id write => cases (hread h).2
  | sendLogout write => cases (hread h).2
  | disconnect => cases h

/-- A call that returns is conducted and keeps the three fields together; a call that throws fails in one or the
    other. -/
theorem conducted_iff (hc : Consistent c) (h : op.ended c = some r) :
    Consistent r.1 ∧ Conducted c op r.1 r.2 ↔ op.throws c = false := by
  unfold Op.ended at h
  cases hthrows : op.throws c with
  | false =>
    rw [hthrows] at h
    obtain ⟨⟨t, st⟩, hcall, rfl⟩ := Option.map_eq_some_iff.mp h
    have hout := call_outcome hc hcall
    exact iff_of_true ⟨hout.consistent hc, hout.conducted⟩ rfl
  | true =>
    rw [hthrows] at h
    cases h
    refine iff_of_false (fun ⟨hconsistent, hconducted⟩ => ?_) (by simp)
    rcases throws_cases hthrows with ⟨fd, uri, hopen, hunwound, hstate⟩ | ⟨hunwound, hstate⟩
    · rw [hunwound] at hconsistent
      exact hopen (hconsistent.sock.mp hstate)
    · obtain ⟨call, hmem, hcall⟩ := List.any_eq_true.mp hthrows
      have hbad : call.Bad op.expected := by
        unfold SocketCall.throws at hcall
        split at hcall
        · trivial
        · cases hcall
      rw [hunwound] at hconducted
      exact hstate (hconducted.bad ⟨call, hmem, hbad⟩)

end Throws

/-- In a sequence of calls on a new client the three fields agree after each call, and every call is conducted as its
    state and its socket calls ask. -/
def Lawful {Buf : Type} [Flatbuffers Buf] (ops : List (Op Buf)) : Prop :=
  Transition.EveryState after Consistent {} ops ∧
    Transition.EveryStep after (fun c op => MsgType.error ∉ op.expected ∧
      ∀ t st, op.ended c = some (t, st) → Conducted c op t st) {} ops

/-- A sequence of calls is lawful if and only if no call reads a declared size on which it throws. -/
theorem lawful_iff {Buf : Type} [Flatbuffers Buf] (ops : List (Op Buf)) :
    Lawful ops ↔ Transition.EveryStep after (fun c op => op.throws c = false) {} ops := by
  refine Transition.everyState_and_everyStep_iff (fun c op t hc h => ?_) Consistent.new
  obtain ⟨⟨t, st⟩, hended, rfl⟩ := Option.map_eq_some_iff.mp h
  rw [← conducted_iff hc hended]
  constructor
  · rintro ⟨hconsistent, -, hconducted⟩
    exact ⟨hconsistent, hconducted t st hended⟩
  · rintro ⟨hconsistent, hconducted⟩
    refine ⟨hconsistent, error_unexpected op, fun t' st' hended' => ?_⟩
    rw [hended] at hended'
    cases hended'
    exact hconducted

/-- A connect in whose reads and writes nothing fails but the allocation for the router's system info. -/
def connectOversized : Op Wire.Message :=
  .connect "unix:///tmp/sw-axi" {} { write := .ok (), read := .oversized, socket := .ok 3, connect := fun _ => .ok () }

/-- The client is disconnected then, and has a socket and a URI. -/
theorem not_lawful_oversized : ¬Lawful [connectOversized] := by
  rintro ⟨hstates, -⟩
  have hconsistent : Consistent { connectedUri := "unix:///tmp/sw-axi", sock := 3 } :=
    Transition.everyState_iff.mp hstates [connectOversized] _ List.prefix_rfl rfl
  exact absurd (hconsistent.sock.mp rfl) (by decide)

end RouterClient

end SwAxi
