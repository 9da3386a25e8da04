import SwAxi.Bridge

/-! The software slave of the second test bench (`src/tests/02-sw-master-lite/testbench.cc`): a byte array that
starts at an address. The test bench's constructor takes this address, but never stores it in `addr`; here `addr` is
what the handlers find there. -/

namespace SwAxi

structure Ram where
  addr : UInt64
  /-- The bytes of the array, by offset. -/
  data : Nat → UInt8 := fun _ => 0

namespace Ram

/-- `buffer->address - addr`. -/
def offset (r : Ram) (address : UInt64) : Nat := (address - r.addr).toNat

/-- `memcpy` of the data to the given offset of the array. -/
def copyIn (data : Nat → UInt8) (offset : Nat) (bytes : List UInt8) : Nat → UInt8 :=
  fun k => if offset ≤ k then (bytes[k - offset]?).getD (data k) else data k

instance : Slave Ram where
  handleWrite r buffer :=
    ({ r with data := copyIn r.data (r.offset buffer.address) (buffer.data.take buffer.size.toNat) }, 0)
  handleRead r buffer := (r, 0, fun i => r.data (r.offset buffer.address + i))

end Ram

end SwAxi
