import SwAxi.Data
import Mathlib.Algebra.Group.Nat.Defs
import Mathlib.Data.List.Basic
import Mathlib.Logic.Function.Iterate
import Mathlib.Tactic.Common

/-! Messages on the byte stream of a socket: what the router's `client.writeMsg` puts there, how its
    `client.readMsg` takes them off again, and how `readFromSocket` of the C++ side (`Utils.cc`) does, which
    gets the stream in the pieces that `read()` chooses. -/

namespace SwAxi

/-! ### The frame -/

/-- A Go slice of bytes, whose length is an `int`. -/
structure Slice where
  bytes : List UInt8
  short : bytes.length < 2 ^ 63

/-- `binary.LittleEndian.PutUint64`. -/
def putUint64 (v : UInt64) : List UInt8 :=
  [v.toUInt8, (v >>> 8).toUInt8, (v >>> 16).toUInt8, (v >>> 24).toUInt8,
    (v >>> 32).toUInt8, (v >>> 40).toUInt8, (v >>> 48).toUInt8, (v >>> 56).toUInt8]

/-- The number that eight bytes are on a little-endian host. -/
def getUint64 : List UInt8 → Nat
  | [] => 0
  | b :: bs => b.toNat + 256 * getUint64 bs

@[simp] theorem length_putUint64 (v : UInt64) : (putUint64 v).length = 8 := rfl

theorem getUint64_putUint64 (v : UInt64) : getUint64 (putUint64 v) = v.toNat := by
  have hv : v.toNat < 2 ^ 64 := v.toNat_lt
  simp only [putUint64, getUint64, UInt64.toNat_toUInt8, UInt64.toNat_shiftRight, UInt64.reduceToNat,
    Nat.shiftRight_eq_div_pow, Nat.reduceMod, Nat.reducePow]
  omega

/-- What `writeMsg` writes to the connection: the size, then the message. -/
def writeMsg (msg : Slice) : List UInt8 := putUint64 (UInt64.ofNat msg.bytes.length) ++ msg.bytes

/-- The stream after `writeMsg` was called for each message. -/
def session (msgs : List Slice) : List UInt8 := (msgs.map writeMsg).flatten

theorem getUint64_size (msg : Slice) : getUint64 (putUint64 (UInt64.ofNat msg.bytes.length)) = msg.bytes.length := by
  rw [getUint64_putUint64, UInt64.toNat_ofNat']
  have := msg.short
  omega

theorem length_writeMsg (msg : Slice) : (writeMsg msg).length = 8 + msg.bytes.length := by
  simp [writeMsg]

/-! ### The router's reader -/

/-- `io.ReadFull`: it reads again until the buffer is full, however the bytes arrive. -/
def readFull (count : Nat) (stream : List UInt8) : Except String (List UInt8 × List UInt8) :=
  if count ≤ stream.length then .ok (stream.take count, stream.drop count)
  else if stream = [] then .error "EOF" else .error "unexpected EOF"

/-- `client.readMsg`, with the stream left behind it. -/
def readMsg (stream : List UInt8) : Except String (List UInt8 × List UInt8) :=
  match readFull 8 stream with
  | .error err => .error ("Unable to read message size: " ++ err)
  | .ok (sizeArr, rest) =>
    match readFull (getUint64 sizeArr) rest with
    | .error err => .error ("Unable to read message: " ++ err)
    | .ok (msg, rest) => .ok (msg, rest)

/-- `readMsg` called `n` times. -/
def readMsgs : Nat → List UInt8 → Except String (List (List UInt8) × List UInt8)
  | 0, stream => .ok ([], stream)
  | n + 1, stream =>
    match readMsg stream with
    | .error err => .error err
    | .ok (msg, rest) =>
      match readMsgs n rest with
      | .error err => .error err
      | .ok (msgs, rest) => .ok (msg :: msgs, rest)

theorem readFull_append (a b : List UInt8) : readFull a.length (a ++ b) = .ok (a, b) := by
  simp [readFull]

theorem readMsg_writeMsg (msg : Slice) (rest : List UInt8) : readMsg (writeMsg msg ++ rest) = .ok (msg.bytes, rest) := by
  have hsize : readFull 8 (writeMsg msg ++ rest) =
      .ok (putUint64 (UInt64.ofNat msg.bytes.length), msg.bytes ++ rest) := by
    rw [writeMsg, List.append_assoc]
    exact readFull_append (putUint64 (UInt64.ofNat msg.bytes.length)) (msg.bytes ++ rest)
  simp only [readMsg, hsize, getUint64_size, readFull_append]

/-- The router reads back what was written, message by message. -/
theorem readMsgs_session (msgs : List Slice) : readMsgs msgs.length (session msgs) = .ok (msgs.map (·.bytes), []) := by
  induction msgs with
  | nil => rfl
  | cons msg msgs ih =>
    have hsession : session (msg :: msgs) = writeMsg msg ++ session msgs := rfl
    simp only [List.length_cons, readMsgs, hsession, readMsg_writeMsg, ih, List.map_cons]

/-! ### The bytes that `read()` hands out -/

/-- What `read()` answers at each offset of the stream: -1 (`none`), or a limit to what it hands out there. -/
abbrev Reads := Nat → Option Nat

/-- The receiving end of a connection: the bytes still to come and the number already read. -/
structure Socket where
  stream : List UInt8
  offset : Nat := 0
  deriving DecidableEq

def Socket.skip (s : Socket) (n : Nat) : Socket := ⟨s.stream.drop n, s.offset + n⟩

/-- `read(sock, ptr, count)`: at least one byte while there are any, none at the end of the file. -/
def Socket.read (reads : Reads) (s : Socket) (count : Nat) : Option (List UInt8 × Socket) :=
  (reads s.offset).map fun limit =>
    let rd := min (min count (max 1 limit)) s.stream.length
    (s.stream.take rd, s.skip rd)

/-! ### The client's reader -/

/-- Where a call of `readFromSocket` on an open socket stands between two calls of `read`. `body` is the loop, with
    the bytes it still wants and those it has. -/
inductive ReadState where
  | header
  | body (size : Nat) (buffer : List UInt8)
  | lengthError
  | returned (status : Int) (buffer : List UInt8)
  deriving DecidableEq

/-- The head of `while (size)`. -/
def ReadState.loop (size : Nat) (buffer : List UInt8) : ReadState :=
  if size = 0 then .returned 0 buffer else .body size buffer

/-- `readFromSocket` up to its next call of `read` and what follows from that call. -/
def readStep (reads : Reads) : Socket × ReadState → Socket × ReadState
  | (sock, .header) =>
    match sock.read reads 8 with
    | none => (sock, .returned (-1) [])
    | some (rd, sock) =>
      if rd.length ≠ 8 then (sock, .returned (-1) [])
      else if maxSize < getUint64 rd then (sock, .lengthError)
      else (sock, .loop (getUint64 rd) [])
  | (sock, .body size buffer) =>
    match sock.read reads size with
    | none => (sock, .returned (-1) buffer)
    | some (rd, sock) => (sock, .loop (size - rd.length) (buffer ++ rd))
  | (sock, .lengthError) => (sock, .lengthError)
  | (sock, .returned status buffer) => (sock, .returned status buffer)

/-- A call of `readFromSocket` returns after finitely many calls of `read`. -/
def ReadsFromSocket (reads : Reads) (sock : Socket) (status : Int) (buffer : List UInt8) (left : Socket) : Prop :=
  ∃ calls, (readStep reads)^[calls] (sock, .header) = (left, .returned status buffer)

/-! ### One call of read -/

/-- Reads that do not fail and hand out at most `chunk` bytes at each offset. -/
def pieces (chunk : Nat → Nat) : Reads := fun offset => some (chunk offset)

@[simp] theorem Socket.stream_skip (s : Socket) (n : Nat) : (s.skip n).stream = s.stream.drop n := rfl

theorem Socket.skip_skip (s : Socket) (a b : Nat) : (s.skip a).skip b = s.skip (a + b) := by
  simp [Socket.skip, Nat.add_assoc]

section Calls

variable (chunk : Nat → Nat)

/-- `read` takes some of what is there, and something if anything is. -/
theorem Socket.read_pieces (s : Socket) {count : Nat} (hcount : 0 < count) :
    ∃ rd, s.read (pieces chunk) count = some (s.stream.take rd, s.skip rd) ∧ rd ≤ count ∧ rd ≤ s.stream.length ∧
      (0 < s.stream.length → 0 < rd) := by
  refine ⟨min (min count (max 1 (chunk s.offset))) s.stream.length, rfl, ?_, ?_, ?_⟩
  · omega
  · omega
  · intro hstream
    omega

/-- One turn of the loop. -/
theorem readStep_body (s : Socket) {size : Nat} (hsize : 0 < size) (buffer : List UInt8) :
    ∃ rd, readStep (pieces chunk) (s, .body size buffer) = (s.skip rd, .loop (size - rd) (buffer ++ s.stream.take rd)) ∧
      rd ≤ size ∧ rd ≤ s.stream.length ∧ (0 < s.stream.length → 0 < rd) := by
  obtain ⟨rd, hread, hle, hlen, hpos⟩ := s.read_pieces chunk hsize
  refine ⟨rd, ?_, hle, hlen, hpos⟩
  simp only [readStep, hread, List.length_take, Nat.min_eq_left hlen]

/-- The size that the stream starts with. -/
def declared (stream : List UInt8) : Nat := getUint64 (stream.take 8)

theorem readStep_header (s : Socket) :
    readStep (pieces chunk) (s, .header) =
      if 8 ≤ s.stream.length ∧ 8 ≤ chunk s.offset then
        (s.skip 8, if maxSize < declared s.stream then .lengthError else .loop (declared s.stream) [])
      else (s.skip (min (min 8 (max 1 (chunk s.offset))) s.stream.length), .returned (-1) []) := by
  have hread : s.read (pieces chunk) 8 = some (s.stream.take (min (min 8 (max 1 (chunk s.offset))) s.stream.length),
      s.skip (min (min 8 (max 1 (chunk s.offset))) s.stream.length)) := rfl
  have hlen : (s.stream.take (min (min 8 (max 1 (chunk s.offset))) s.stream.length)).length =
      min (min 8 (max 1 (chunk s.offset))) s.stream.length := by
    rw [List.length_take]
    omega
  simp only [readStep, hread, hlen]
  by_cases hwhole : 8 ≤ s.stream.length ∧ 8 ≤ chunk s.offset
  · have height : min (min 8 (max 1 (chunk s.offset))) s.stream.length = 8 := by omega
    rw [height, if_neg (by omega), if_pos hwhole]
    unfold declared
    split <;> rfl
  · rw [if_pos (by omega), if_neg hwhole]

/-! ### The loop -/

/-- A body that is all there is read to its end, in however many pieces it comes. -/
theorem loop_returns {size : Nat} {s : Socket} (hsize : size ≤ s.stream.length) (buffer : List UInt8) :
    ∃ calls, (readStep (pieces chunk))^[calls] (s, .loop size buffer) =
      (s.skip size, .returned 0 (buffer ++ s.stream.take size)) := by
  induction size using Nat.strongRecOn generalizing s buffer with
  | _ size ih =>
    rcases Nat.eq_zero_or_pos size with rfl | hpos
    · exact ⟨0, by simp [ReadState.loop, Socket.skip]⟩
    · obtain ⟨rd, hstep, hle, hlen, hrd⟩ := readStep_body chunk s hpos buffer
      have hrd : 0 < rd := hrd (by omega)
      have hrest : size - rd ≤ (s.skip rd).stream.length := by
        rw [Socket.stream_skip, List.length_drop]
        omega
      obtain ⟨calls, hcalls⟩ := ih (size - rd) (by omega) hrest (buffer ++ s.stream.take rd)
      refine ⟨calls + 1, ?_⟩
      have hbody : ReadState.loop size buffer = .body size buffer := if_neg (by omega)
      have hbytes : buffer ++ s.stream.take rd ++ (s.stream.drop rd).take (size - rd) = buffer ++ s.stream.take size := by
        rw [List.append_assoc, ← List.take_add, Nat.add_sub_cancel' hle]
      rw [Function.iterate_succ_apply, hbody, hstep, hcalls, Socket.skip_skip, Nat.add_sub_cancel' hle,
        Socket.stream_skip, hbytes]

/-- Where the stream ends inside the body the loop goes on reading nothing. -/
theorem body_never_returns {size : Nat} {s : Socket} (buffer : List UInt8) (hsize : s.stream.length < size) (calls : Nat) :
    ∃ s' size' buffer', (readStep (pieces chunk))^[calls] (s, .body size buffer) = (s', .body size' buffer') := by
  induction calls generalizing s size buffer with
  | zero => exact ⟨s, size, buffer, rfl⟩
  | succ calls ih =>
    obtain ⟨rd, hstep, hle, hlen, -⟩ := readStep_body chunk s (by omega : 0 < size) buffer
    have hbody : ReadState.loop (size - rd) (buffer ++ s.stream.take rd) = .body (size - rd) (buffer ++ s.stream.take rd) :=
      if_neg (by omega)
    have hrest : (s.skip rd).stream.length < size - rd := by
      rw [Socket.stream_skip, List.length_drop]
      omega
    rw [Function.iterate_succ_apply, hstep, hbody]
    exact ih _ hrest

/-! ### A whole call -/

theorem eq_of_iterates_fixed {α : Type} {f : α → α} {x a b : α} {m n : Nat} (hm : f^[m] x = a) (hn : f^[n] x = b)
    (ha : f a = a) (hb : f b = b) : a = b :=
  calc
    a = f^[n] (f^[m] x) := by rw [hm, Function.iterate_fixed ha]
    _ = f^[m] (f^[n] x) := by rw [← Function.iterate_add_apply, Nat.add_comm, Function.iterate_add_apply]
    _ = b := by rw [hn, Function.iterate_fixed hb]

theorem readsFromSocket_iff_step {reads : Reads} {s left : Socket} {status : Int} {buffer : List UInt8} :
    ReadsFromSocket reads s status buffer left ↔
      ∃ calls, (readStep reads)^[calls] (readStep reads (s, .header)) = (left, .returned status buffer) := by
  constructor
  · rintro ⟨calls, h⟩
    cases calls with
    | zero => exact ReadState.noConfusion (congrArg Prod.snd h)
    | succ calls => exact ⟨calls, h⟩
  · rintro ⟨calls, h⟩
    exact ⟨calls + 1, h⟩

/-- The size and the body it declares are all in the stream. -/
def Whole (stream : List UInt8) : Prop := 8 ≤ stream.length ∧ declared stream ≤ stream.length - 8

/-- What `readFromSocket` does on any stream, however it comes in pieces. -/
theorem readsFromSocket_iff {s left : Socket} {status : Int} {buffer : List UInt8} :
    ReadsFromSocket (pieces chunk) s status buffer left ↔
      if 8 ≤ s.stream.length ∧ 8 ≤ chunk s.offset then
        declared s.stream ≤ maxSize ∧ declared s.stream ≤ s.stream.length - 8 ∧ status = 0 ∧
          buffer = (s.stream.drop 8).take (declared s.stream) ∧ left = s.skip (8 + declared s.stream)
      else status = -1 ∧ buffer = [] ∧ left = s.skip (min (min 8 (max 1 (chunk s.offset))) s.stream.length) := by
  rw [readsFromSocket_iff_step, readStep_header]
  by_cases hheader : 8 ≤ s.stream.length ∧ 8 ≤ chunk s.offset
  · rw [if_pos hheader, if_pos hheader]
    by_cases hmax : maxSize < declared s.stream
    · rw [if_pos hmax]
      constructor
      · rintro ⟨calls, h⟩
        rw [Function.iterate_fixed rfl] at h
        exact ReadState.noConfusion (congrArg Prod.snd h)
      · rintro ⟨hle, -⟩
        omega
    · rw [if_neg hmax]
      by_cases hbody : declared s.stream ≤ s.stream.length - 8
      · have hrest : declared s.stream ≤ (s.skip 8).stream.length := by
          rw [Socket.stream_skip, List.length_drop]
          exact hbody
        obtain ⟨calls, hcalls⟩ := loop_returns chunk hrest []
        rw [Socket.skip_skip, List.nil_append, Socket.stream_skip] at hcalls
        constructor
        · rintro ⟨calls', h⟩
          have heq := eq_of_iterates_fixed h hcalls rfl rfl
          injection heq with hleft hstate
          injection hstate with hstatus hbuffer
          exact ⟨by omega, hbody, hstatus, hbuffer, hleft⟩
        · rintro ⟨-, -, rfl, rfl, rfl⟩
          exact ⟨calls, hcalls⟩
      · constructor
        · rintro ⟨calls, h⟩
          have hloop : ReadState.loop (declared s.stream) [] = .body (declared s.stream) [] := if_neg (by omega)
          have hrest : (s.skip 8).stream.length < declared s.stream := by
            rw [Socket.stream_skip, List.length_drop]
            omega
          obtain ⟨s', size', buffer', hstuck⟩ := body_never_returns chunk [] hrest calls
          rw [hloop, hstuck] at h
          exact ReadState.noConfusion (congrArg Prod.snd h)
        · rintro ⟨-, hle, -⟩
          exact absurd hle hbody
  · rw [if_neg hheader, if_neg hheader]
    constructor
    · rintro ⟨calls, h⟩
      rw [Function.iterate_fixed rfl] at h
      injection h with hleft hstate
      injection hstate with hstatus hbuffer
      exact ⟨hstatus.symm, hbuffer.symm, hleft.symm⟩
    · rintro ⟨rfl, rfl, rfl⟩
      exact ⟨0, rfl⟩

/-! ### The messages of a session -/

/-- Calling `readFromSocket` once for each message returns 0 each time and yields them in order. -/
def Receives (reads : Reads) : Socket → List (List UInt8) → Prop
  | _, [] => True
  | sock, msg :: msgs => ∃ left, ReadsFromSocket reads sock 0 msg left ∧ Receives reads left msgs

/-- No call of `read` returns part of a size: where a message starts the first piece has its eight bytes. -/
def HeadersWhole (chunk : Nat → Nat) : Nat → List Slice → Prop
  | _, [] => True
  | offset, msg :: msgs => 8 ≤ chunk offset ∧ HeadersWhole chunk (offset + (8 + msg.bytes.length)) msgs

theorem declared_writeMsg (msg : Slice) (rest : List UInt8) : declared (writeMsg msg ++ rest) = msg.bytes.length := by
  have htake : (writeMsg msg ++ rest).take 8 = putUint64 (UInt64.ofNat msg.bytes.length) := rfl
  rw [declared, htake, getUint64_size]

/-- The next message is received exactly if its size is not split, and then the stream goes on after it. -/
theorem readsFromSocket_writeMsg {msg : Slice} {rest : List UInt8} {offset : Nat} {buffer : List UInt8} {left : Socket} :
    ReadsFromSocket (pieces chunk) ⟨writeMsg msg ++ rest, offset⟩ 0 buffer left ↔
      8 ≤ chunk offset ∧ buffer = msg.bytes ∧ left = ⟨rest, offset + (8 + msg.bytes.length)⟩ := by
  have hlen : (writeMsg msg ++ rest).length = 8 + msg.bytes.length + rest.length := by
    rw [List.length_append, length_writeMsg]
  have hdrop : (writeMsg msg ++ rest).drop 8 = msg.bytes ++ rest := rfl
  have hskip : Socket.skip ⟨writeMsg msg ++ rest, offset⟩ (8 + msg.bytes.length) =
      ⟨rest, offset + (8 + msg.bytes.length)⟩ := by
    rw [← length_writeMsg, Socket.skip, List.drop_left]
  rw [readsFromSocket_iff]
  simp only [hlen, declared_writeMsg, hdrop, List.take_left, hskip]
  split
  · have hshort : msg.bytes.length ≤ maxSize := Nat.le_pred_of_lt msg.short
    constructor
    · rintro ⟨-, -, -, hbuffer, hleft⟩
      exact ⟨by omega, hbuffer, hleft⟩
    · rintro ⟨-, hbuffer, hleft⟩
      exact ⟨hshort, by omega, trivial, hbuffer, hleft⟩
  · constructor
    · rintro ⟨habs, -⟩
      exact absurd habs (by decide)
    · rintro ⟨hchunk, -⟩
      omega

theorem receives_iff (msgs : List Slice) (offset : Nat) :
    Receives (pieces chunk) ⟨session msgs, offset⟩ (msgs.map (·.bytes)) ↔ HeadersWhole chunk offset msgs := by
  induction msgs generalizing offset with
  | nil => exact Iff.rfl
  | cons msg msgs ih =>
    have hsession : session (msg :: msgs) = writeMsg msg ++ session msgs := rfl
    rw [hsession]
    constructor
    · rintro ⟨left, hread, hrest⟩
      obtain ⟨hchunk, -, rfl⟩ := (readsFromSocket_writeMsg chunk).mp hread
      exact ⟨hchunk, (ih _).mp hrest⟩
    · rintro ⟨hchunk, hrest⟩
      exact ⟨_, (readsFromSocket_writeMsg chunk).mpr ⟨hchunk, rfl, rfl⟩, (ih _).mpr hrest⟩

end Calls

/-- What the router wrote is received as the router itself would receive it, one call for each message. -/
def Received (chunk : Nat → Nat) (msgs : List Slice) : Prop :=
  ∃ received, readMsgs msgs.length (session msgs) = .ok (received, []) ∧ received = msgs.map (·.bytes) ∧
    Receives (pieces chunk) { stream := session msgs } received

theorem received_iff_headersWhole (chunk : Nat → Nat) (msgs : List Slice) :
    Received chunk msgs ↔ HeadersWhole chunk 0 msgs := by
  constructor
  · rintro ⟨received, -, rfl, hreceives⟩
    exact (receives_iff chunk msgs 0).mp hreceives
  · intro hwhole
    exact ⟨_, readMsgs_session msgs, rfl, (receives_iff chunk msgs 0).mpr hwhole⟩

/-- One message of one byte whose size comes in two pieces, the first of seven bytes. -/
theorem split_header_not_received : ¬ Received (fun _ => 7) [⟨[1], by decide⟩] := by
  rintro ⟨received, -, rfl, left, hread, -⟩
  have hstatus := (readsFromSocket_iff _).mp hread
  rw [if_neg (by simp)] at hstatus
  exact absurd hstatus.1 (by decide)

/-! ### Streams that end -/

/-- `readFromSocket` returns after finitely many calls, with 0 exactly if the stream holds a whole message. -/
def ReturnsRight (chunk : Nat → Nat) (stream : List UInt8) : Prop :=
  ∃ status buffer left, ReadsFromSocket (pieces chunk) { stream } status buffer left ∧
    (Whole stream → status = 0) ∧ (¬ Whole stream → status = -1)

/-- The stream ends before the size does; or the first piece has all of the size and the body, of a size that a
    vector can have, is all there; or the first piece is short of the size and the message is cut too. -/
def EndsWell (chunk : Nat → Nat) (stream : List UInt8) : Prop :=
  stream.length < 8 ∨ (8 ≤ chunk 0 ∧ declared stream ≤ maxSize ∧ Whole stream) ∨ (chunk 0 < 8 ∧ ¬ Whole stream)

theorem returnsRight_iff_endsWell (chunk : Nat → Nat) (stream : List UInt8) :
    ReturnsRight chunk stream ↔ EndsWell chunk stream := by
  constructor
  · rintro ⟨status, buffer, left, hread, hzero, -⟩
    have hresult := (readsFromSocket_iff _).mp hread
    by_cases hheader : 8 ≤ stream.length ∧ 8 ≤ chunk 0
    · rw [if_pos hheader] at hresult
      obtain ⟨hmax, hbody, -⟩ := hresult
      exact Or.inr (Or.inl ⟨hheader.2, hmax, hheader.1, hbody⟩)
    · rw [if_neg hheader] at hresult
      have hcut : 8 ≤ stream.length → ¬ Whole stream := by
        intro _ hwhole
        have habs := hresult.1.symm.trans (hzero hwhole)
        exact absurd habs (by decide)
      rcases Nat.lt_or_ge stream.length 8 with hshort | hlen
      · exact Or.inl hshort
      · exact Or.inr (Or.inr ⟨by omega, hcut hlen⟩)
  · rintro (hshort | ⟨hchunk, hmax, hwhole⟩ | ⟨hchunk, hcut⟩)
    · have hcut : ¬ Whole stream := fun hwhole => absurd hwhole.1 (by omega)
      have hread := (readsFromSocket_iff chunk (s := { stream })).mpr
        ((if_neg fun hheader => absurd hheader.1 (by simpa using hshort)).mpr ⟨rfl, rfl, rfl⟩)
      exact ⟨_, _, _, hread, fun hwhole => absurd hwhole hcut, fun _ => rfl⟩
    · have hread := (readsFromSocket_iff chunk (s := { stream })).mpr
        ((if_pos ⟨hwhole.1, hchunk⟩).mpr ⟨hmax, hwhole.2, rfl, rfl, rfl⟩)
      exact ⟨_, _, _, hread, fun _ => rfl, fun hcut => absurd hwhole hcut⟩
    · have hread := (readsFromSocket_iff chunk (s := { stream })).mpr
        ((if_neg fun hheader => absurd hheader.2 (by simpa using hchunk)).mpr ⟨rfl, rfl, rfl⟩)
      exact ⟨_, _, _, hread, fun hwhole => absurd hwhole hcut, fun _ => rfl⟩

/-- A size without its body: the client reads on and on at the end of the file. -/
theorem cut_body_never_returns : ¬ ReturnsRight (fun _ => 8) (putUint64 1) := by
  rintro ⟨status, buffer, left, hread, -, -⟩
  have hresult := (readsFromSocket_iff _).mp hread
  rw [if_pos (by decide)] at hresult
  exact absurd hresult.2.1 (by decide)

end SwAxi
