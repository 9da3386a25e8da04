import SwAxi.Data

/-! The messages on the sockets (`src/common/IpcStructs.fbs`) and what the code relies on of the
flatbuffers library, which is not part of the repository.

A table is given by the fields that are present in it: `none` stands for a field that was not added.
Reading a scalar that is not there gives its schema default, the first enumerator of an enumeration and
zero of a number. -/

namespace SwAxi.Wire

/-- `enum Type : byte`; `other` is a value that the schema does not name. -/
inductive MsgType where
  | systemInfo
  | ipInfo
  | ipAck
  | ack
  | error
  | commit
  | terminate
  | done
  | transaction
  | other (code : Int8)
  deriving DecidableEq, Repr

/-- The number an enumerator is printed as. -/
def MsgType.code : MsgType → Int
  | .systemInfo => 0
  | .ipInfo => 1
  | .ipAck => 2
  | .ack => 3
  | .error => 4
  | .commit => 5
  | .terminate => 6
  | .done => 7
  | .transaction => 8
  | .other code => code.toInt

/-- `EnumNamesType`, the Go map of names; a missing key reads as the empty string. -/
def MsgType.enumName : MsgType → String
  | .systemInfo => "SYSTEM_INFO"
  | .ipInfo => "IP_INFO"
  | .ipAck => "IP_ACK"
  | .ack => "ACK"
  | .error => "ERROR"
  | .commit => "COMMIT"
  | .terminate => "TERMINATE"
  | .done => "DONE"
  | .transaction => "TRANSACTION"
  | .other _ => ""

inductive IpType where
  | slave
  | slaveLite
  | slaveStream
  | master
  | masterLite
  | masterStream
  | other (code : Int8)
  deriving DecidableEq, Repr

def IpType.code : IpType → Int
  | .slave => 0
  | .slaveLite => 1
  | .slaveStream => 2
  | .master => 3
  | .masterLite => 4
  | .masterStream => 5
  | .other code => code.toInt

inductive ImplementationType where
  | software
  | hardware
  | other (code : Int8)
  deriving DecidableEq, Repr

inductive TransactionType where
  | readReq
  | writeReq
  | readResp
  | writeResp
  | other (code : Int8)
  deriving DecidableEq, Repr

def TransactionType.code : TransactionType → Int
  | .readReq => 0
  | .writeReq => 1
  | .readResp => 2
  | .writeResp => 3
  | .other code => code.toInt

/-! ### Tables -/

structure SystemInfo where
  name : Option String := none
  systemName : Option String := none
  pid : Option UInt64 := none
  hostname : Option String := none
  deriving DecidableEq, Repr

structure IpInfo where
  name : Option String := none
  address : Option UInt64 := none
  size : Option UInt64 := none
  firstInterrupt : Option UInt16 := none
  numInterrupts : Option UInt16 := none
  type : Option IpType := none
  implementation : Option ImplementationType := none
  deriving DecidableEq, Repr

structure Transaction where
  type : Option TransactionType := none
  initiator : Option UInt64 := none
  target : Option UInt64 := none
  id : Option UInt64 := none
  address : Option UInt64 := none
  size : Option UInt64 := none
  data : Option (List UInt8) := none
  ok : Option Bool := none
  message : Option String := none
  deriving DecidableEq, Repr

structure Message where
  type : Option MsgType := none
  systemInfo : Option SystemInfo := none
  ipInfo : Option IpInfo := none
  ipId : Option UInt64 := none
  errorMessage : Option String := none
  txn : Option Transaction := none
  deriving DecidableEq, Repr

/-! ### Reading scalars -/

def SystemInfo.getPid (t : SystemInfo) : UInt64 := t.pid.getD 0

def IpInfo.getAddress (t : IpInfo) : UInt64 := t.address.getD 0
def IpInfo.getSize (t : IpInfo) : UInt64 := t.size.getD 0
def IpInfo.getFirstInterrupt (t : IpInfo) : UInt16 := t.firstInterrupt.getD 0
def IpInfo.getNumInterrupts (t : IpInfo) : UInt16 := t.numInterrupts.getD 0
def IpInfo.getType (t : IpInfo) : IpType := t.type.getD .slave
def IpInfo.getImplementation (t : IpInfo) : ImplementationType := t.implementation.getD .software

def Transaction.getType (t : Transaction) : TransactionType := t.type.getD .readReq
def Transaction.getInitiator (t : Transaction) : UInt64 := t.initiator.getD 0
def Transaction.getTarget (t : Transaction) : UInt64 := t.target.getD 0
def Transaction.getId (t : Transaction) : UInt64 := t.id.getD 0
def Transaction.getAddress (t : Transaction) : UInt64 := t.address.getD 0
def Transaction.getSize (t : Transaction) : UInt64 := t.size.getD 0
def Transaction.getOk (t : Transaction) : Bool := t.ok.getD false

def Message.getType (t : Message) : MsgType := t.type.getD .systemInfo
def Message.getIpId (t : Message) : UInt64 := t.ipId.getD 0

/-! ### What a builder leaves out -/

/-- A builder without ForceDefaults omits a scalar equal to its default. -/
def omitDefault {α : Type} [DecidableEq α] (dflt : α) (field : Option α) : Option α :=
  if field = some dflt then none else field

@[simp] theorem getD_omitDefault {α : Type} [DecidableEq α] (dflt : α) (field : Option α) :
    (omitDefault dflt field).getD dflt = field.getD dflt := by
  unfold omitDefault
  split <;> simp [*]

@[simp] theorem omitDefault_default {α : Type} [DecidableEq α] (dflt : α) :
    omitDefault dflt (some dflt) = none := by simp [omitDefault]

theorem omitDefault_of_ne {α : Type} [DecidableEq α] {dflt v : α} (h : v ≠ dflt) :
    omitDefault dflt (some v) = some v := by simp [omitDefault, h]

def SystemInfo.omitDefaults (t : SystemInfo) : SystemInfo := { t with pid := omitDefault 0 t.pid }

def IpInfo.omitDefaults (t : IpInfo) : IpInfo where
  name := t.name
  address := omitDefault 0 t.address
  size := omitDefault 0 t.size
  firstInterrupt := omitDefault 0 t.firstInterrupt
  numInterrupts := omitDefault 0 t.numInterrupts
  type := omitDefault .slave t.type
  implementation := omitDefault .software t.implementation

def Transaction.omitDefaults (t : Transaction) : Transaction where
  type := omitDefault .readReq t.type
  initiator := omitDefault 0 t.initiator
  target := omitDefault 0 t.target
  id := omitDefault 0 t.id
  address := omitDefault 0 t.address
  size := omitDefault 0 t.size
  data := t.data
  ok := omitDefault false t.ok
  message := t.message

/-- What is physically in the buffer after the given fields were added. -/
def Message.omitDefaults (t : Message) : Message where
  type := omitDefault .systemInfo t.type
  systemInfo := t.systemInfo.map SystemInfo.omitDefaults
  ipInfo := t.ipInfo.map IpInfo.omitDefaults
  ipId := omitDefault 0 t.ipId
  errorMessage := t.errorMessage
  txn := t.txn.map Transaction.omitDefaults

/-- `MutateTarget` overwrites the field when it is present, and changes nothing otherwise. -/
def Transaction.mutateTarget (t : Transaction) (target : UInt64) : Transaction :=
  { t with target := t.target.map fun _ => target }

/-- `msg.Txn(nil).MutateTarget(target)` on the buffer of `msg`. -/
def Message.mutateTarget (t : Message) (target : UInt64) : Message :=
  { t with txn := t.txn.map fun txn => txn.mutateTarget target }

section Getters
variable (t : SystemInfo) (ip : IpInfo) (x : Transaction) (m : Message) (v : UInt64)

@[simp] theorem SystemInfo.omitDefaults_name : t.omitDefaults.name = t.name := rfl
@[simp] theorem SystemInfo.omitDefaults_systemName : t.omitDefaults.systemName = t.systemName := rfl
@[simp] theorem SystemInfo.omitDefaults_hostname : t.omitDefaults.hostname = t.hostname := rfl
@[simp] theorem SystemInfo.getPid_omitDefaults : t.omitDefaults.getPid = t.getPid := getD_omitDefault _ _

@[simp] theorem IpInfo.omitDefaults_name : ip.omitDefaults.name = ip.name := rfl
@[simp] theorem IpInfo.getAddress_omitDefaults : ip.omitDefaults.getAddress = ip.getAddress := getD_omitDefault _ _
@[simp] theorem IpInfo.getSize_omitDefaults : ip.omitDefaults.getSize = ip.getSize := getD_omitDefault _ _
@[simp] theorem IpInfo.getFirstInterrupt_omitDefaults :
    ip.omitDefaults.getFirstInterrupt = ip.getFirstInterrupt := getD_omitDefault _ _
@[simp] theorem IpInfo.getNumInterrupts_omitDefaults :
    ip.omitDefaults.getNumInterrupts = ip.getNumInterrupts := getD_omitDefault _ _
@[simp] theorem IpInfo.getType_omitDefaults : ip.omitDefaults.getType = ip.getType := getD_omitDefault _ _
@[simp] theorem IpInfo.getImplementation_omitDefaults :
    ip.omitDefaults.getImplementation = ip.getImplementation := getD_omitDefault _ _

@[simp] theorem Transaction.getType_omitDefaults : x.omitDefaults.getType = x.getType := getD_omitDefault _ _
@[simp] theorem Transaction.getInitiator_omitDefaults : x.omitDefaults.getInitiator = x.getInitiator :=
  getD_omitDefault _ _
@[simp] theorem Transaction.getTarget_omitDefaults : x.omitDefaults.getTarget = x.getTarget := getD_omitDefault _ _
@[simp] theorem Transaction.getId_omitDefaults : x.omitDefaults.getId = x.getId := getD_omitDefault _ _
@[simp] theorem Transaction.getAddress_omitDefaults : x.omitDefaults.getAddress = x.getAddress :=
  getD_omitDefault _ _
@[simp] theorem Transaction.getSize_omitDefaults : x.omitDefaults.getSize = x.getSize := getD_omitDefault _ _
@[simp] theorem Transaction.getOk_omitDefaults : x.omitDefaults.getOk = x.getOk := getD_omitDefault _ _
@[simp] theorem Transaction.omitDefaults_data : x.omitDefaults.data = x.data := rfl
@[simp] theorem Transaction.omitDefaults_message : x.omitDefaults.message = x.message := rfl

@[simp] theorem Message.getType_omitDefaults : m.omitDefaults.getType = m.getType := getD_omitDefault _ _
@[simp] theorem Message.getIpId_omitDefaults : m.omitDefaults.getIpId = m.getIpId := getD_omitDefault _ _
@[simp] theorem Message.omitDefaults_systemInfo :
    m.omitDefaults.systemInfo = m.systemInfo.map SystemInfo.omitDefaults := rfl
@[simp] theorem Message.omitDefaults_ipInfo : m.omitDefaults.ipInfo = m.ipInfo.map IpInfo.omitDefaults := rfl
@[simp] theorem Message.omitDefaults_errorMessage : m.omitDefaults.errorMessage = m.errorMessage := rfl
@[simp] theorem Message.omitDefaults_txn : m.omitDefaults.txn = m.txn.map Transaction.omitDefaults := rfl

@[simp] theorem Message.getType_mutateTarget : (m.mutateTarget v).getType = m.getType := rfl
@[simp] theorem Message.mutateTarget_txn :
    (m.mutateTarget v).txn = m.txn.map fun txn => txn.mutateTarget v := rfl

end Getters

/-! ### The library -/

/-- What the code relies on of flatbuffers for buffers of type `Buf`: finishing a builder and reading the
    root table give back the fields added, less the scalars omitted as defaults, and mutation acts on
    the fields present. -/
class Flatbuffers (Buf : Type) where
  finish : Message → Buf
  getRoot : Buf → Message
  mutateTarget : Buf → UInt64 → Buf
  getRoot_finish : ∀ m, getRoot (finish m) = m.omitDefaults
  getRoot_mutateTarget : ∀ b v, getRoot (mutateTarget b v) = (getRoot b).mutateTarget v

attribute [simp] Flatbuffers.getRoot_finish Flatbuffers.getRoot_mutateTarget

theorem Flatbuffers.getType_finish {Buf : Type} [Flatbuffers Buf] (m : Message) :
    (getRoot (finish m : Buf)).getType = m.getType := by
  rw [getRoot_finish, Message.getType_omitDefaults]

theorem Flatbuffers.getIpId_finish {Buf : Type} [Flatbuffers Buf] (m : Message) :
    (getRoot (finish m : Buf)).getIpId = m.getIpId := by
  rw [getRoot_finish, Message.getIpId_omitDefaults]

/-- Buffers that are the tables themselves, for runs on concrete inputs. -/
instance : Flatbuffers Message where
  finish := Message.omitDefaults
  getRoot := id
  mutateTarget := Message.mutateTarget
  getRoot_finish _ := rfl
  getRoot_mutateTarget _ _ := rfl

end SwAxi.Wire
