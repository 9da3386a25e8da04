import Mathlib.Algebra.Group.Nat.Defs
import Mathlib.Data.List.Infix

/-! The data both languages share: `src/common/Data.hh` on the C++ side, `data.go` on the router's.

A `std::string` and a Go string are byte sequences; a `String` of the model holds one character for each
byte. -/

namespace SwAxi

/-- Properties of a connected system. -/
structure SystemInfo where
  name : String := ""
  systemName : String := ""
  pid : UInt64 := 0
  hostname : String := ""
  deriving DecidableEq, Repr

inductive IpType where
  | slave
  | slaveLite
  | slaveStream
  | master
  | masterLite
  | masterStream
  deriving DecidableEq, Repr

/-- The three master types, whose terminations the router counts. -/
def IpType.isMaster : IpType → Bool
  | .master | .masterLite | .masterStream => true
  | .slave | .slaveLite | .slaveStream => false

inductive IpImplementation where
  | software
  | hardware
  deriving DecidableEq, Repr

/-- An IP block as a client describes it. -/
structure IpConfig where
  name : String := ""
  address : UInt64 := 0
  size : UInt64 := 0
  firstInterrupt : UInt16 := 0
  numInterrupts : UInt16 := 0
  type : IpType := .slave
  implementation : IpImplementation := .software
  deriving DecidableEq, Repr

/-- An IP block as the router keeps it: `id` is its index in the registry, `clientId` the client that
    registered it. -/
structure IpInfo where
  name : String
  address : UInt64
  size : UInt64
  firstInterrupt : UInt16
  numInterrupts : UInt16
  type : IpType
  implementation : IpImplementation
  id : UInt64
  clientId : UInt64
  deriving DecidableEq, Repr

/-- What a client learns of a registered block: everything but the router's own two fields. -/
def IpInfo.config (ip : IpInfo) : IpConfig where
  name := ip.name
  address := ip.address
  size := ip.size
  firstInterrupt := ip.firstInterrupt
  numInterrupts := ip.numInterrupts
  type := ip.type
  implementation := ip.implementation

/-- A generic status indicator for operations. -/
structure Status where
  code : UInt32 := 0
  msg : String := ""
  deriving DecidableEq, Repr

def Status.isOk (s : Status) : Bool := s.code == 0

def Status.isError (s : Status) : Bool := s.code != 0

@[simp] theorem Status.isError_default : ({} : Status).isError = false := rfl

@[simp] theorem Status.isError_one (msg : String) : (Status.mk 1 msg).isError = true := rfl

inductive TransactionType where
  | readReq
  | writeReq
  | readResp
  | writeResp
  deriving DecidableEq, Repr

/-- The requests travel from a master to a slave, the responses back. -/
def TransactionType.isRequest : TransactionType → Bool
  | .readReq | .writeReq => true
  | .readResp | .writeResp => false

/-- A transaction. The source leaves `ok` uninitialised; every place that sends one sets it. -/
structure Transaction where
  type : TransactionType := .readReq
  initiator : UInt64 := 0
  target : UInt64 := 0
  id : UInt64 := 0
  address : UInt64 := 0
  size : UInt64 := 0
  data : List UInt8 := []
  ok : Bool := false
  message : String := ""
  deriving DecidableEq, Repr

/-- `std::vector<uint8_t>::max_size()`; a `resize` beyond it throws. -/
def maxSize : Nat := 2 ^ 63 - 1

end SwAxi
