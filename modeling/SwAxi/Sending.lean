import SwAxi.Framing

/-! Messages from the client to the router: what `writeToSocket` (`Utils.cc`) puts on the stream, whatever `write()`
accepts of it, and how `client.readMsg` takes it off again, in whatever pieces it comes. -/

namespace SwAxi

/-! ### The client's writer -/

/-- What `write()` answers at each offset of the stream: -1 (`none`), or a limit to what it accepts there. -/
abbrev Writes := Nat → Option Nat

/-- What `write()` accepts of the bytes it is offered: at least one of them. -/
def accepted (limit : Nat) (bytes : List UInt8) : Nat := min bytes.length (max 1 limit)

/-- The loop of `writeToSocket`, with the bytes still to be written. It returns the status and the stream, to which
    `write()` appends. -/
def writeBody (writes : Writes) (stream bytes : List UInt8) : Int × List UInt8 :=
  match bytes with
  | [] => (0, stream)
  | b :: rest =>
    match writes stream.length with
    | none => (-1, stream)
    | some limit =>
      let written := accepted limit (b :: rest)
      writeBody writes (stream ++ (b :: rest).take written) ((b :: rest).drop written)
termination_by bytes.length
decreasing_by
  simp only [accepted, List.length_drop, List.length_cons]
  omega

/-- `writeToSocket` on a little-endian host. -/
def writeToSocket (writes : Writes) (sock : Int) (stream : List UInt8) (msg : Slice) : Int × List UInt8 :=
  if sock = -1 then (-1, stream)
  else
    let sz := putUint64 (UInt64.ofNat msg.bytes.length)
    match writes stream.length with
    | none => (-1, stream)
    | some limit =>
      let written := accepted limit sz
      let stream := stream ++ sz.take written
      if written ≠ 8 then (-1, stream) else writeBody writes stream msg.bytes

/-- `writeToSocket` for each message, up to the first call that does not return 0: the client disconnects then. -/
def writeMessages (writes : Writes) (sock : Int) (stream : List UInt8) : List Slice → Int × List UInt8
  | [] => (0, stream)
  | msg :: msgs =>
    match writeToSocket writes sock stream msg with
    | (status, stream) => if status = 0 then writeMessages writes sock stream msgs else (status, stream)

section
variable (writes : Writes) (sock : Int)

/-- The body is written to its end, or cut before it. -/
theorem writeBody_cases (stream bytes : List UInt8) : writeBody writes stream bytes = (0, stream ++ bytes) ∨
    ∃ n < bytes.length, writeBody writes stream bytes = (-1, stream ++ bytes.take n) := by
  fun_induction writeBody writes stream bytes with
  | case1 stream => exact Or.inl (by simp)
  | case2 stream b rest hwrite => exact Or.inr ⟨0, by simp, by simp⟩
  | case3 stream b rest limit hwrite written ih =>
    have hle : written ≤ (b :: rest).length := Nat.min_le_left _ _
    rcases ih with heq | ⟨n, hn, heq⟩
    · exact Or.inl (by rw [heq, List.append_assoc, List.take_append_drop])
    · rw [List.length_drop] at hn
      refine Or.inr ⟨written + n, by omega, ?_⟩
      rw [heq, List.append_assoc, List.take_add]

theorem take_writeMsg (msg : Slice) (n : Nat) :
    (writeMsg msg).take (8 + n) = putUint64 (UInt64.ofNat msg.bytes.length) ++ msg.bytes.take n := by
  rw [writeMsg, ← length_putUint64 (UInt64.ofNat msg.bytes.length), List.take_length_add_append]

/-- A message is written whole, or cut somewhere. -/
theorem writeToSocket_cases (stream : List UInt8) (msg : Slice) :
    writeToSocket writes sock stream msg = (0, stream ++ writeMsg msg) ∨
    ∃ n < (writeMsg msg).length, writeToSocket writes sock stream msg = (-1, stream ++ (writeMsg msg).take n) := by
  have hlen := length_writeMsg msg
  have hnone : stream = stream ++ (writeMsg msg).take 0 := by simp
  unfold writeToSocket
  split
  · exact Or.inr ⟨0, by omega, congrArg (Prod.mk (-1)) hnone⟩
  · cases writes stream.length with
    | none => exact Or.inr ⟨0, by omega, congrArg (Prod.mk (-1)) hnone⟩
    | some limit =>
      simp only
      have hle : accepted limit (putUint64 (UInt64.ofNat msg.bytes.length)) ≤ 8 := Nat.min_le_left _ _
      generalize accepted limit (putUint64 (UInt64.ofNat msg.bytes.length)) = written at hle ⊢
      by_cases hwhole : written = 8
      · subst hwhole
        have hsize : (putUint64 (UInt64.ofNat msg.bytes.length)).take 8 = putUint64 (UInt64.ofNat msg.bytes.length) := rfl
        simp only [hsize, ne_eq, not_true_eq_false, if_false]
        rcases writeBody_cases writes (stream ++ putUint64 (UInt64.ofNat msg.bytes.length)) msg.bytes with
          heq | ⟨n, hn, heq⟩
        · exact Or.inl (by rw [heq, List.append_assoc, writeMsg])
        · refine Or.inr ⟨8 + n, by omega, ?_⟩
          rw [heq, List.append_assoc, take_writeMsg]
      · simp only [ne_eq, hwhole, not_false_eq_true, if_true]
        refine Or.inr ⟨written, by omega, ?_⟩
        rw [writeMsg, List.take_append_of_le_length (by simpa using hle)]

/-- All messages are written, or those before one that is cut. -/
theorem writeMessages_cases (stream : List UInt8) (msgs : List Slice) :
    writeMessages writes sock stream msgs = (0, stream ++ session msgs) ∨
    ∃ done msg rest n, msgs = done ++ msg :: rest ∧ n < (writeMsg msg).length ∧
      writeMessages writes sock stream msgs = (-1, stream ++ session done ++ (writeMsg msg).take n) := by
  induction msgs generalizing stream with
  | nil => exact Or.inl (by simp [writeMessages, session])
  | cons msg msgs ih =>
    rcases writeToSocket_cases writes sock stream msg with heq | ⟨n, hn, heq⟩
    · have hmessages : writeMessages writes sock stream (msg :: msgs) =
          writeMessages writes sock (stream ++ writeMsg msg) msgs := by
        simp only [writeMessages, heq, if_true]
      rw [hmessages]
      rcases ih (stream ++ writeMsg msg) with heq | ⟨done, cut, rest, n, rfl, hn, heq⟩
      · exact Or.inl (by rw [heq, List.append_assoc]; rfl)
      · refine Or.inr ⟨msg :: done, cut, rest, n, rfl, hn, ?_⟩
        rw [heq, List.append_assoc stream (writeMsg msg)]
        rfl
    · refine Or.inr ⟨[], msg, msgs, n, rfl, hn, ?_⟩
      simp [writeMessages, heq, session]

end

/-! ### The router's reader, piece by piece -/

namespace Socket
variable (chunk : Nat → Nat)

/-- The loop of `io.ReadFull` with the bytes read so far: each call on the connection hands out some of what there is,
    at most as much as is wanted, and `io.EOF` at the end of the stream. -/
def fill (s : Socket) (count : Nat) (buffer : List UInt8) : Except String (List UInt8 × Socket) :=
  if count = 0 then .ok (buffer, s)
  else if s.stream = [] then .error (if buffer = [] then "EOF" else "unexpected EOF")
  else
    let rd := min (min count (max 1 (chunk s.offset))) s.stream.length
    fill (s.skip rd) (count - rd) (buffer ++ s.stream.take rd)
termination_by count
decreasing_by
  rename_i hcount hstream
  have hlen : 0 < s.stream.length := List.length_pos_iff.mpr hstream
  omega

/-- `client.readMsg` on a connection. -/
def readMsg (s : Socket) : Except String (List UInt8 × Socket) :=
  match s.fill chunk 8 [] with
  | .error err => .error ("Unable to read message size: " ++ err)
  | .ok (sizeArr, s) =>
    match s.fill chunk (getUint64 sizeArr) [] with
    | .error err => .error ("Unable to read message: " ++ err)
    | .ok (msg, s) => .ok (msg, s)

/-- Successive calls of `readMsg` return the messages and then fail with the error. -/
def Yields (err : String) : Socket → List (List UInt8) → Prop
  | s, [] => s.readMsg chunk = .error err
  | s, msg :: msgs => ∃ s', s.readMsg chunk = .ok (msg, s') ∧ Yields err s' msgs

variable {chunk} {s : Socket}

/-- Whatever the pieces, the buffer is filled from the front of the stream, or the stream is too short. -/
theorem fill_eq (count : Nat) (buffer : List UInt8) : s.fill chunk count buffer =
    if count ≤ s.stream.length then .ok (buffer ++ s.stream.take count, s.skip count)
    else .error (if buffer ++ s.stream = [] then "EOF" else "unexpected EOF") := by
  fun_induction fill chunk s count buffer with
  | case1 s buffer => simp [skip]
  | case2 s count buffer hcount hstream =>
    have hshort : ¬count ≤ s.stream.length := by
      rw [hstream, List.length_nil]
      omega
    rw [if_neg hshort, hstream, List.append_nil]
  | case3 s count buffer hcount hstream rd ih =>
    have hlen : 0 < s.stream.length := List.length_pos_iff.mpr hstream
    have hcounted : rd ≤ count := Nat.le_trans (Nat.min_le_left _ _) (Nat.min_le_left _ _)
    have hrd : rd ≤ s.stream.length := Nat.min_le_right _ _
    have hle : count - rd ≤ s.stream.length - rd ↔ count ≤ s.stream.length := by omega
    rw [ih, stream_skip, skip_skip, List.length_drop, List.append_assoc, List.append_assoc, List.take_append_drop,
      ← List.take_add, Nat.add_sub_cancel' hcounted]
    simp only [hle]

theorem fill_readFull (count : Nat) :
    s.fill chunk count [] = (readFull count s.stream).map fun r => (r.1, s.skip count) := by
  rw [fill_eq, readFull]
  split
  · rfl
  · split <;> simp_all [Except.map]

theorem readMsg_eq : s.readMsg chunk =
    (SwAxi.readMsg s.stream).map fun r => (r.1, s.skip (8 + getUint64 (s.stream.take 8))) := by
  rw [readMsg, SwAxi.readMsg, fill_readFull]
  cases hsize : readFull 8 s.stream with
  | error err => rfl
  | ok r =>
    obtain ⟨sizeArr, rest⟩ := r
    obtain ⟨rfl, rfl⟩ : sizeArr = s.stream.take 8 ∧ rest = (s.skip 8).stream := by
      unfold readFull at hsize
      split at hsize
      · obtain ⟨rfl, rfl⟩ := Prod.mk.inj (Except.ok.inj hsize)
        exact ⟨rfl, rfl⟩
      · split at hsize <;> cases hsize
    simp only [Except.map, fill_readFull]
    cases hmsg : readFull (getUint64 (s.stream.take 8)) (s.skip 8).stream with
    | error err => rfl
    | ok r => simp only [skip_skip]

theorem readMsg_writeMsg {msg : Slice} {rest : List UInt8} (hs : s.stream = writeMsg msg ++ rest) :
    ∃ s', s.readMsg chunk = .ok (msg.bytes, s') ∧ s'.stream = rest := by
  have hdeclared : getUint64 (s.stream.take 8) = msg.bytes.length := by
    rw [hs]
    exact declared_writeMsg msg rest
  refine ⟨s.skip (8 + msg.bytes.length), ?_, ?_⟩
  · rw [readMsg_eq, hs, SwAxi.readMsg_writeMsg, ← hs, hdeclared]
    rfl
  · rw [stream_skip, hs, ← length_writeMsg, List.drop_left]

theorem readMsg_error {err : String} (h : SwAxi.readMsg s.stream = .error err) : s.readMsg chunk = .error err := by
  rw [readMsg_eq, h]
  rfl

/-- The messages that the stream starts with come one by one, and then whatever error the rest gives. -/
theorem yields_session {err : String} {cut : List UInt8} (hcut : SwAxi.readMsg cut = .error err) (done : List Slice)
    (hs : s.stream = session done ++ cut) : s.Yields chunk err (done.map (·.bytes)) := by
  induction done generalizing s with
  | nil => exact readMsg_error (hs ▸ hcut)
  | cons msg done ih =>
    have hsession : session (msg :: done) = writeMsg msg ++ session done := rfl
    rw [hsession, List.append_assoc] at hs
    obtain ⟨s', hread, hs'⟩ := readMsg_writeMsg hs
    exact ⟨s', hread, ih hs'⟩

end Socket

/-! ### Both ends -/

theorem readMsg_nil : readMsg [] = .error "Unable to read message size: EOF" := by decide

theorem readFull_short {count : Nat} {stream : List UInt8} (h : stream.length < count) :
    ∃ err, readFull count stream = .error err := by
  unfold readFull
  rw [if_neg (by omega)]
  split <;> exact ⟨_, rfl⟩

/-- A message that is cut is not read: the size is not all there, or the bytes it announces are not. -/
theorem readMsg_cut (msg : Slice) {n : Nat} (hn : n < (writeMsg msg).length) :
    ∃ err, readMsg ((writeMsg msg).take n) = .error err := by
  rw [length_writeMsg] at hn
  by_cases hsize : 8 ≤ n
  · obtain ⟨k, rfl⟩ := Nat.exists_eq_add_of_le hsize
    have hshort : (msg.bytes.take k).length < msg.bytes.length := by
      rw [List.length_take]
      omega
    obtain ⟨err, hbody⟩ := readFull_short hshort
    have hheader : readFull 8 (putUint64 (UInt64.ofNat msg.bytes.length) ++ msg.bytes.take k) =
        .ok (putUint64 (UInt64.ofNat msg.bytes.length), msg.bytes.take k) :=
      readFull_append (putUint64 (UInt64.ofNat msg.bytes.length)) _
    rw [take_writeMsg]
    exact ⟨"Unable to read message: " ++ err, by simp only [readMsg, hheader, getUint64_size, hbody]⟩
  · have hshort : ((writeMsg msg).take n).length < 8 := by
      rw [List.length_take]
      omega
    obtain ⟨err, hheader⟩ := readFull_short hshort
    exact ⟨"Unable to read message size: " ++ err, by simp only [readMsg, hheader]⟩

/-- The messages written are the messages read. If all calls of `writeToSocket` return 0, the stream is that of the
    session, and the router reads the session and finds the end of the file; otherwise the stream is a prefix of it,
    and the router reads the messages that were completely written and then gets an error. -/
theorem messages_framed (writes : Writes) (sock : Int) (msgs : List Slice) (chunk : Nat → Nat) :
    (∃ stream, writeMessages writes sock [] msgs = (0, stream) ∧ stream = session msgs ∧
      Socket.Yields chunk "Unable to read message size: EOF" { stream } (msgs.map (·.bytes))) ∨
    ∃ stream, writeMessages writes sock [] msgs = (-1, stream) ∧ stream <+: session msgs ∧
      ∃ k < msgs.length, session (msgs.take k) <+: stream ∧ stream.length < (session (msgs.take (k + 1))).length ∧
        ∃ err, Socket.Yields chunk err { stream } ((msgs.take k).map (·.bytes)) := by
  rcases writeMessages_cases writes sock [] msgs with heq | ⟨done, msg, rest, n, rfl, hn, heq⟩
  · exact Or.inl ⟨_, heq, rfl, Socket.yields_session readMsg_nil msgs (by simp)⟩
  · obtain ⟨err, hcut⟩ := readMsg_cut msg hn
    have hwhole : session (done ++ msg :: rest) = session done ++ writeMsg msg ++ session rest := by
      simp [session]
    have hdone : (done ++ msg :: rest).take done.length = done := List.take_left
    have hnext : session ((done ++ msg :: rest).take (done.length + 1)) = session done ++ writeMsg msg := by
      rw [List.take_length_add_append]
      simp [session]
    refine Or.inr ⟨_, heq, ?_, done.length, by simp, ?_, ?_, err, ?_⟩
    · rw [hwhole, List.nil_append, List.append_assoc (session done)]
      exact List.prefix_append_right_inj _ |>.mpr ((List.take_prefix n _).trans (List.prefix_append _ _))
    · rw [hdone, List.nil_append]
      exact List.prefix_append _ _
    · rw [hnext, List.nil_append, List.length_append, List.length_append, List.length_take]
      omega
    · rw [hdone]
      exact Socket.yields_session hcut done rfl

end SwAxi
