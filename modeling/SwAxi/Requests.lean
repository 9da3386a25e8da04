import SwAxi.Turn
import SwAxi.Lib.Memory

/-! Requests as accesses to the byte array of a slave, and the responses that they are to get. -/

namespace SwAxi
open Memory (Access load store execute)

namespace Transaction
variable (base size : UInt64) (txn : Transaction)

/-- The request lies in the block of the slave. -/
def Inside : Prop :=
  base.toNat ≤ txn.address.toNat ∧ txn.address.toNat + txn.size.toNat ≤ base.toNat + size.toNat

instance : Decidable (txn.Inside base size) := inferInstanceAs (Decidable (_ ∧ _))

def offset : Nat := txn.address.toNat - base.toNat

/-- What the request asks of the array. -/
def access : Access UInt8 :=
  if txn.type = .writeReq then .store (txn.offset base) txn.data else .load (txn.offset base) txn.size.toNat

/-- What a read gets from the array. -/
def bytes (mem : Nat → UInt8) : List UInt8 := load mem (txn.offset base) txn.size.toNat

/-- The response to a request that is executed. -/
def answer (mem : Nat → UInt8) : Transaction where
  type := if txn.type = .writeReq then .writeResp else .readResp
  initiator := txn.initiator
  target := txn.target
  id := txn.id
  address := txn.address
  size := txn.size
  data := if txn.type = .writeReq then [] else txn.bytes base mem
  ok := true

end Transaction

/-- The array once the requests are executed; those outside the block do not get to it. -/
def contents (base size : UInt64) (mem : Nat → UInt8) (requests : List Transaction) : Nat → UInt8 :=
  execute mem ((requests.filter fun txn => txn.Inside base size).map fun txn => txn.access base)

section
variable {base size : UInt64} {mem : Nat → UInt8} {requests : List Transaction} {txn : Transaction}

theorem contents_inside (h : txn.Inside base size) :
    contents base size mem (requests ++ [txn]) = (txn.access base).apply (contents base size mem requests) := by
  simp [contents, List.filter_append, h]

theorem contents_outside (h : ¬txn.Inside base size) :
    contents base size mem (requests ++ [txn]) = contents base size mem requests := by
  simp [contents, List.filter_append, h]

end

/-! ### Slaves -/

/-- The handlers of the slave implement a byte array over its block; `Holds s mem` says that `s` has the
    contents `mem`, by offset. -/
structure IsByteArray {S : Type} [Slave S] (base size : UInt64) (Holds : S → (Nat → UInt8) → Prop) : Prop where
  write : ∀ s mem (buffer : Buffer), Holds s mem → base.toNat ≤ buffer.address.toNat →
    buffer.address.toNat + buffer.size.toNat ≤ base.toNat + size.toNat → buffer.data.length = buffer.size.toNat →
    Holds (Slave.handleWrite s buffer).1 (store mem (buffer.address.toNat - base.toNat) buffer.data) ∧
      (Slave.handleWrite s buffer).2 = 0
  read : ∀ s mem (buffer : Buffer), Holds s mem → base.toNat ≤ buffer.address.toNat →
    buffer.address.toNat + buffer.size.toNat ≤ base.toNat + size.toNat → buffer.data.length = buffer.size.toNat →
    Holds (Slave.handleRead s buffer).1 mem ∧ (Slave.handleRead s buffer).2.1 = 0 ∧
      ∀ i < buffer.size.toNat, (Slave.handleRead s buffer).2.2 i = mem (buffer.address.toNat - base.toNat + i)

section
variable {S : Type} [Slave S] {base size : UInt64} {Holds : S → (Nat → UInt8) → Prop} {s : S} {mem : Nat → UInt8}
  {txn : Transaction}

/-- The slave executes the request and answers it. -/
theorem IsByteArray.serve (h : IsByteArray base size Holds) (hs : Holds s mem) (hin : txn.Inside base size)
    (hdata : txn.type = .writeReq → txn.data.length = txn.size.toNat) :
    Holds (Bridge.serve s txn).1 ((txn.access base).apply mem) ∧ (Bridge.serve s txn).2 = txn.answer base mem := by
  by_cases hwrite : txn.type = .writeReq
  · obtain ⟨hholds, hret⟩ :=
      h.write s mem { data := txn.data, size := txn.size, address := txn.address } hs hin.1 hin.2 (hdata hwrite)
    simp only [Bridge.serve, hwrite, if_true, hret, Transaction.access, Transaction.answer]
    exact ⟨hholds, rfl⟩
  · obtain ⟨hholds, hret, hbytes⟩ :=
      h.read s mem { data := List.replicate txn.size.toNat 0, size := txn.size, address := txn.address } hs hin.1 hin.2
        (by simp)
    have hmap : (List.range txn.size.toNat).map (Slave.handleRead s
        { data := List.replicate txn.size.toNat 0, size := txn.size, address := txn.address }).2.2 =
          txn.bytes base mem :=
      List.map_congr_left fun i hi => hbytes i (List.mem_range.mp hi)
    simp only [Bridge.serve, hwrite, if_false, hret, Transaction.access, Transaction.answer, hmap]
    exact ⟨hholds, rfl⟩

end

/-- The slave of the test benches, with the contents of its array. -/
def Ram.Holds (addr : UInt64) (r : Ram) (mem : Nat → UInt8) : Prop := r.addr = addr ∧ r.data = mem

theorem Ram.isByteArray (addr size : UInt64) : IsByteArray addr size (Ram.Holds addr) where
  write r mem buffer h hle _ hdata := by
    obtain ⟨rfl, rfl⟩ := h
    have hoff : r.offset buffer.address = buffer.address.toNat - r.addr.toNat := UInt64.toNat_sub_of_le _ _ hle
    refine ⟨⟨rfl, ?_⟩, rfl⟩
    simp only [Slave.handleWrite, hoff, ← hdata, List.take_length]
    rfl
  read r mem buffer h hle _ _ := by
    obtain ⟨rfl, rfl⟩ := h
    have hoff : r.offset buffer.address = buffer.address.toNat - r.addr.toNat := UInt64.toNat_sub_of_le _ _ hle
    exact ⟨⟨rfl, rfl⟩, rfl, fun i _ => by simp [Slave.handleRead, hoff]⟩

/-! ### The requests of the users -/

/-- A request as a master issues it, with the buffer of a read. -/
structure WellFormed (buffer : Option (List UInt8)) (txn : Transaction) : Prop where
  target : txn.target = 0
  size_pos : 0 < txn.size.toNat
  bound : txn.address.toNat + txn.size.toNat < 2 ^ 64
  data : txn.type = .writeReq → txn.data.length = txn.size.toNat
  buffer : ∀ bytes, buffer = some bytes → bytes.length = txn.size.toNat

end SwAxi
