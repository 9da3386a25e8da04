import SwAxi.System
import SwAxi.Sending
import SwAxi.Lib.Line

/-! The closed system once more, with its sockets as streams of bytes: `writeToSocket` and `client.writeMsg` put their
messages there call by call of `write`, `readFromSocket` and `client.readMsg` take them off call by call of `read`, and
all of them do so at the same time. No call fails, a socket holds any number of bytes, and `read` waits for some.

A client that is not started any more has closed its socket; what its calls under way come to is left out, and so is
a declared size beyond what a vector or a slice can have. -/

namespace SwAxi
open Wire (Flatbuffers)
open Wire.Flatbuffers (getRoot)

namespace Wire

/-- The bytes that a message is, and the message that bytes are taken for. -/
class Streamed (Buf : Type) where
  bytesOf : Buf → List UInt8
  messageOf : List UInt8 → Buf

end Wire

open Wire (Streamed)
open Wire.Streamed (bytesOf messageOf)

/-! ### Calls of `write` and `read` -/

section
variable {Buf : Type} [Streamed Buf]

/-- A message as `writeToSocket` and `client.writeMsg` write it. -/
def frame (msgArr : Buf) : List UInt8 := putUint64 (UInt64.ofNat (bytesOf msgArr).length) ++ bytesOf msgArr

/-- How much the next call of `write` offers: what is left of the size, then what is left of the body. -/
def offers (msgArr : Buf) (rest : List UInt8) : Nat :=
  if (bytesOf msgArr).length < rest.length then rest.length - (bytesOf msgArr).length else rest.length

/-- How much the next call of `read` asks for: what is missing of the size, then what is missing of the body. -/
def missing (begun : List UInt8) : Nat :=
  if begun.length < 8 then 8 - begun.length else 8 + declared begun - begun.length

def code : Line.Code Buf UInt8 where
  encode := frame
  asks := missing

/-- The message fits a slice, and its bytes are taken for itself. -/
def Portable (msgArr : Buf) : Prop := (bytesOf msgArr).length < 2 ^ 63 ∧ messageOf (bytesOf msgArr) = msgArr

instance [DecidableEq Buf] (msgArr : Buf) : Decidable (Portable msgArr) := inferInstanceAs (Decidable (_ ∧ _))

/-- The writer has the message at hand, all of it if nothing of it is written. -/
def hold (line : Line UInt8) (msgArr : Buf) : Line UInt8 :=
  if line.rest = [] then { line with rest := frame msgArr } else line

/-- A call of `write` by which the socket takes `n` bytes of the message. -/
def wrote (line : Line UInt8) (msgArr : Buf) (n : Nat) : Option (Line UInt8) :=
  if 0 < n ∧ n ≤ offers msgArr (hold line msgArr).rest then some ((hold line msgArr).write n) else none

/-- A call of `read` by which the socket gives `n` bytes, and the message if they complete it. -/
def got (line : Line UInt8) (n : Nat) : Option (Line UInt8 × Option Buf) :=
  if 0 < n ∧ n ≤ missing line.begun ∧ n ≤ line.transit.length then
    let line := line.read n
    if missing line.begun = 0 then some ({ line with begun := [] }, some (messageOf (line.begun.drop 8)))
    else some (line, none)
  else none

/-- Where `readFromSocket` is once it has these bytes of a message. -/
def readState (begun : List UInt8) : ReadState :=
  if begun = [] then .header else .loop (missing begun) (begun.drop 8)

section
variable {line line' : Line UInt8} {msgArr : Buf} {n : Nat} {o : Option Buf}

theorem wrote_inv (h : wrote line msgArr n = some line') :
    0 < n ∧ n ≤ offers msgArr (hold line msgArr).rest ∧ line' = (hold line msgArr).write n := by
  unfold wrote at h
  split at h
  · rename_i hn
    cases h
    exact ⟨hn.1, hn.2, rfl⟩
  · cases h

theorem got_inv {o : Option Buf} (h : got line n = some (line', o)) :
    0 < n ∧ n ≤ missing line.begun ∧ n ≤ line.transit.length ∧
      ((missing (line.read n).begun = 0 ∧ line' = { line.read n with begun := [] } ∧
          o = some (messageOf ((line.read n).begun.drop 8))) ∨
        (missing (line.read n).begun ≠ 0 ∧ line' = line.read n ∧ o = none)) := by
  unfold got at h
  split at h
  · rename_i hn
    refine ⟨hn.1, hn.2.1, hn.2.2, ?_⟩
    simp only at h
    split at h
    · cases h
      exact Or.inl ⟨‹_›, rfl, rfl⟩
    · cases h
      exact Or.inr ⟨‹_›, rfl, rfl⟩
  · cases h

/-- The first call of `write` in `writeToSocket`, with what follows from it. -/
theorem writeToSocket_size (h : wrote line msgArr n = some line') (hrest : line.rest = []) {msg : Slice}
    (hmsg : msg.bytes = bytesOf msgArr) {writes : Writes} {sock : Int} (hsock : sock ≠ -1) {stream : List UInt8}
    (hwrites : writes stream.length = some n) :
    writeToSocket writes sock stream msg =
      if n = 8 then writeBody writes (stream ++ (frame msgArr).take n) line'.rest
      else (-1, stream ++ (frame msgArr).take n) := by
  obtain ⟨hpos, hoffers, rfl⟩ := wrote_inv h
  have hhold : (hold line msgArr).rest = frame msgArr := by simp [hold, hrest]
  have hn : n ≤ 8 := by
    have hlength : (frame msgArr).length = 8 + (bytesOf msgArr).length := by simp [frame]
    rw [hhold, offers, hlength, if_pos (by omega)] at hoffers
    omega
  have haccepted : accepted n (putUint64 (UInt64.ofNat (bytesOf msgArr).length)) = n := by
    rw [accepted, length_putUint64]
    omega
  have htake : (putUint64 (UInt64.ofNat (bytesOf msgArr).length)).take n = (frame msgArr).take n := by
    rw [frame, List.take_append_of_le_length (by rwa [length_putUint64])]
  simp only [writeToSocket, if_neg hsock, hwrites, hmsg, haccepted, htake]
  by_cases hwhole : n = 8
  · subst hwhole
    have hbody : ((hold line msgArr).write 8).rest = bytesOf msgArr := by
      simp only [Line.write, hhold]
      rfl
    rw [if_neg (by simp), if_pos rfl, hbody]
  · rw [if_pos hwhole, if_neg hwhole]

/-- A call of `write` in the loop of `writeToSocket`. -/
theorem writeBody_rest (h : wrote line msgArr n = some line') (hrest : line.rest ≠ [])
    (hbody : line.rest.length ≤ (bytesOf msgArr).length) {writes : Writes} {stream : List UInt8}
    (hwrites : writes stream.length = some n) :
    writeBody writes stream line.rest = writeBody writes (stream ++ line.rest.take n) line'.rest := by
  obtain ⟨hpos, hoffers, rfl⟩ := wrote_inv h
  have hhold : hold line msgArr = line := if_neg hrest
  rw [hhold, offers, if_neg (Nat.not_lt.mpr hbody)] at hoffers
  obtain ⟨b, rest, hcons⟩ := List.exists_cons_of_ne_nil hrest
  have haccepted : accepted n (b :: rest) = n := by
    rw [hcons] at hoffers
    rw [accepted]
    omega
  rw [hhold, Line.write, hcons, writeBody, hwrites]
  simp only [haccepted]

theorem got_transit (h : got line n = some (line', o)) : line'.transit = line.transit.drop n := by
  obtain ⟨-, -, -, ⟨-, rfl, -⟩ | ⟨-, rfl, -⟩⟩ := got_inv h <;> rfl

variable {chunk : Nat → Nat} {offset : Nat}

/-- The first call of `read` in `readFromSocket`, with what follows from it. -/
theorem readStep_size (h : got line n = some (line', o)) (hbegun : line.begun = [])
    (hfits : declared (line.read n).begun ≤ maxSize) (hchunk : chunk offset = n) :
    readStep (pieces chunk) (⟨line.transit, offset⟩, .header) =
      (⟨line'.transit, offset + n⟩, if n = 8 then readState (line.read n).begun else .returned (-1) []) := by
  obtain ⟨hpos, hasks, hlen, -⟩ := got_inv h
  have hread : (line.read n).begun = line.transit.take n := by simp [Line.read, hbegun]
  have hn : n ≤ 8 := by simpa [missing, hbegun] using hasks
  rw [got_transit h, readStep_header, hchunk]
  by_cases hwhole : n = 8
  · subst hwhole
    have hlength : (line.read 8).begun.length = 8 := by rw [hread, List.length_take, Nat.min_eq_left hlen]
    have hne : (line.read 8).begun ≠ [] := List.ne_nil_of_length_pos (by omega)
    have hdeclared : declared line.transit = declared (line.read 8).begun := by simp [hread, declared, List.take_take]
    have hmissing : missing (line.read 8).begun = declared (line.read 8).begun := by simp [missing, hlength]
    have hbody : (line.read 8).begun.drop 8 = [] := List.drop_of_length_le (Nat.le_of_eq hlength)
    rw [if_pos ⟨hlen, Nat.le_refl 8⟩, hdeclared, if_neg (Nat.not_lt.mpr hfits), if_pos rfl, readState, if_neg hne,
      hmissing, hbody]
    rfl
  · have hshort : min (min 8 (max 1 n)) line.transit.length = n := by omega
    rw [if_neg (by omega), if_neg hwhole, hshort]
    rfl

/-- A call of `read` in the loop of `readFromSocket`. -/
theorem readStep_rest (h : got line n = some (line', o)) (hbegun : 8 ≤ line.begun.length) (hchunk : chunk offset = n) :
    readStep (pieces chunk) (⟨line.transit, offset⟩, readState line.begun) =
      (⟨line'.transit, offset + n⟩, readState (line.read n).begun) := by
  obtain ⟨hpos, hasks, hlen, -⟩ := got_inv h
  have hne : line.begun ≠ [] := List.ne_nil_of_length_pos (by omega)
  have hnext : (line.read n).begun ≠ [] := by simp [Line.read, hne]
  have hbody : readState line.begun = .body (missing line.begun) (line.begun.drop 8) := by
    rw [readState, if_neg hne, ReadState.loop, if_neg (by omega)]
  have hread : Socket.read (pieces chunk) ⟨line.transit, offset⟩ (missing line.begun) =
      some (line.transit.take n, ⟨line.transit.drop n, offset + n⟩) := by
    have hmin : min (min (missing line.begun) (max 1 n)) line.transit.length = n := by omega
    simp only [Socket.read, pieces, hchunk, Option.map_some, hmin]
    rfl
  have hmissing : missing (line.read n).begun = missing line.begun - n := by
    have hdeclared : declared (line.read n).begun = declared line.begun := by
      simp [declared, Line.read, List.take_append_of_le_length hbegun]
    have hlength : (line.read n).begun.length = line.begun.length + n := by simp [Line.read, Nat.min_eq_left hlen]
    rw [missing, missing, hdeclared, hlength, if_neg (by omega), if_neg (by omega)]
    omega
  have hdrop : (line.read n).begun.drop 8 = line.begun.drop 8 ++ line.transit.take n :=
    List.drop_append_of_le_length hbegun
  rw [got_transit h, hbody, readState, if_neg hnext, hmissing, hdrop]
  simp only [readStep, hread, List.length_take, Nat.min_eq_left hlen]

end

end

/-! ### The system -/

/-- The processes, which have nothing in the sockets of `system`, and the sockets. -/
structure Cabled (S Buf : Type) where
  system : System S Buf
  toRouter : Nat → Line UInt8 := fun _ => {}
  toClient : Nat → Line UInt8 := fun _ => {}

namespace Cabled

inductive Event (Buf : Type) where
  /-- A step by which no bytes are moved. -/
  | inner (e : System.Event Buf)
  | send (i n : Nat)
  | readMsg (i n : Nat)
  | writeMsg (i n : Nat)
  | receive (i n : Nat)

variable {S Buf : Type}

section
variable (w : Cabled S Buf)

/-- A send operation or `receiveTransaction` of a client that is not started does not get to the socket. -/
def Inner : System.Event Buf → Prop
  | .sent i => (w.system.endpoints i).bridge.client.state ≠ .started ∧ (w.toRouter i).rest = []
  | .receive i => (w.system.endpoints i).bridge.client.state ≠ .started ∧ (w.toClient i).begun = []
  | .readMsg _ | .writeMsg _ => False
  | .bridge _ _ | .take _ _ | .hand => True

instance (e : System.Event Buf) : Decidable (w.Inner e) :=
  match e with
  | .sent _ | .receive _ => inferInstanceAs (Decidable (_ ∧ _))
  | .readMsg _ | .writeMsg _ => isFalse id
  | .bridge _ _ | .take _ _ | .hand => isTrue trivial

def setUp (i : Nat) (c : Endpoint S Buf) (line : Line UInt8) : Cabled S Buf :=
  { w with system := w.system.setEndpoint i c, toRouter := Function.update w.toRouter i line }

def setDown (i : Nat) (c : Endpoint S Buf) (line : Line UInt8) : Cabled S Buf :=
  { w with system := w.system.setEndpoint i c, toClient := Function.update w.toClient i line }

end

section
variable [Flatbuffers Buf] [Streamed Buf] (w : Cabled S Buf)

/-- `write` in `writeToSocket`, which returns -1 if the size is not taken at once. -/
def send (i n : Nat) : Option (Cabled S Buf × Option (System.Event Buf)) :=
  let c := w.system.endpoints i
  match c.bridge.writerThread with
  | some (.sending out) =>
    if c.bridge.client.state = .started then
      (wrote (w.toRouter i) (out.message : Buf) n).map fun line =>
        if (w.toRouter i).rest = [] ∧ n ≠ 8 then
          (w.setUp i { c with bridge := c.bridge.writerSent out (.error "") } { line with rest := [] }, none)
        else if line.rest = [] then
          (w.setUp i { c with bridge := c.bridge.writerSent out (.ok ()) } line, some (.sent i))
        else (w.setUp i c line, none)
    else none
  | _ => none

/-- `read` in `io.ReadFull`. -/
def readMsg (i n : Nat) : Option (Cabled S Buf × Option (System.Event Buf)) :=
  let c := w.system.endpoints i
  match c.reader with
  | .reading =>
    (got (w.toRouter i) n : Option (Line UInt8 × Option Buf)).map fun r =>
      match r.2 with
      | some msgArr =>
        (w.setUp i { c with reader := if (getRoot msgArr).getType = .done then .done else .offering msgArr } r.1,
          some (.readMsg i))
      | none => (w.setUp i c r.1, none)
  | _ => none

/-- `write` in `io.Copy`. -/
def writeMsg (i n : Nat) : Option (Cabled S Buf × Option (System.Event Buf)) :=
  let c := w.system.endpoints i
  match c.writer with
  | .writing msgArr =>
    (wrote (w.toClient i) msgArr n).map fun line =>
      if line.rest = [] then
        (w.setDown i { c with writer := if (getRoot msgArr).getType = .done then .done else .waiting } line,
          some (.writeMsg i))
      else (w.setDown i c line, none)
  | _ => none

/-- `read` in `readFromSocket`, which returns -1 if the size does not come at once. -/
def receive (i n : Nat) : Option (Cabled S Buf × Option (System.Event Buf)) :=
  let c := w.system.endpoints i
  if c.bridge.readerThread = some .receiving ∧ c.bridge.client.state = .started then
    (got (w.toClient i) n : Option (Line UInt8 × Option Buf)).map fun r =>
      if (w.toClient i).begun = [] ∧ n ≠ 8 then
        (w.setDown i { c with bridge := c.bridge.readerReceive (.error "" : RouterClient.Received Buf) } r.1, none)
      else
        match r.2 with
        | some msgArr => (w.setDown i { c with bridge := c.bridge.readerReceive (.ok msgArr) } r.1, some (.receive i))
        | none => (w.setDown i c r.1, none)
  else none

end

variable [Slave S] [Flatbuffers Buf] [Streamed Buf] (w : Cabled S Buf)

/-- A step, with what it completes: a message that is whole at the end that it has come to. -/
def act : Event Buf → Option (Cabled S Buf × Option (System.Event Buf))
  | .inner e => if w.Inner e then (w.system.step e).map fun system => ({ w with system }, some e) else none
  | .send i n => if i < w.system.clients then w.send i n else none
  | .readMsg i n => if w.system.running ∧ i < w.system.clients then w.readMsg i n else none
  | .writeMsg i n => if w.system.running ∧ i < w.system.clients then w.writeMsg i n else none
  | .receive i n => if i < w.system.clients then w.receive i n else none

def step (e : Event Buf) : Option (Cabled S Buf) := (w.act e).map Prod.fst

def completes (e : Event Buf) : List (System.Event Buf) := ((w.act e).bind Prod.snd).toList

end Cabled

end SwAxi
