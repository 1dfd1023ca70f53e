import DpllWatch.LockStatus
import DpllWatch.Netlink.Message
import DpllWatch.Text.Decimal
import DpllWatch.Text.Utf8

/-! Devices of the kernel's DPLL family, as dumps and notifications describe them. -/

namespace DpllWatch.Netlink

inductive DeviceKind where
  | pps
  | eec
  | other (code : UInt32)
deriving DecidableEq, Repr

namespace DeviceKind

def ofCode (code : UInt32) : DeviceKind :=
  if code = 1 then pps else if code = 2 then eec else other code

def text : DeviceKind → String
  | pps => "pps"
  | eec => "eec"
  | other code => "type-" ++ toString code.toNat

end DeviceKind

/-- Attributes that a message leaves out are zero or empty. -/
structure Device where
  id : UInt32
  moduleName : String
  clockId : UInt64
  mode : UInt32
  lock : UInt32
  kindCode : UInt32
deriving DecidableEq, Repr

namespace Device

def blank : Device := ⟨0, "", 0, 0, 0, 0⟩

def kind (d : Device) : DeviceKind := .ofCode d.kindCode

def status (d : Device) : LockStatus := .ofCode d.lock.toNat

def modeText (mode : UInt32) : String :=
  if mode = 1 then "manual"
  else if mode = 2 then "automatic"
  else "mode-" ++ toString mode.toNat

def text (d : Device) : String :=
  "id " ++ toString d.id.toNat ++ ", module " ++ d.moduleName ++ ", clock id 0x" ++
    String.ofList (Text.hex d.clockId.toNat) ++ ", type " ++ d.kind.text ++ ", mode " ++
    modeText d.mode ++ ", lock status " ++ d.status.text

def idKind : UInt16 := 1

def moduleNameKind : UInt16 := 2

def clockIdKind : UInt16 := 4

def modeKind : UInt16 := 5

def lockKind : UInt16 := 7

def typeKind : UInt16 := 9

def nameOf (data : Bytes) : String :=
  String.ofList (Text.Utf8.decodeLossy (data.takeWhile (· != 0)))

/-- A word that is cut short reads as zero; attributes of other kinds are passed over. -/
def withAttribute (d : Device) (a : Attribute) : Device :=
  if a.kind = idKind then { d with id := a.uint32?.getD 0 }
  else if a.kind = moduleNameKind then { d with moduleName := nameOf a.data }
  else if a.kind = clockIdKind then { d with clockId := a.uint64?.getD 0 }
  else if a.kind = modeKind then { d with mode := a.uint32?.getD 0 }
  else if a.kind = lockKind then { d with lock := a.uint32?.getD 0 }
  else if a.kind = typeKind then { d with kindCode := a.uint32?.getD 0 }
  else d

def ofAttributes (b : Bytes) : Device := (splitAttributes b).foldl withAttribute blank

end Device

def getCommand : UInt8 := 2

def createdCommand : UInt8 := 4

def changedCommand : UInt8 := 6

structure Batch where
  devices : List Device
  done : Bool
deriving DecidableEq, Repr

namespace Batch

def empty : Batch := ⟨[], false⟩

def device? (payload : Bytes) : Option Device :=
  match payload with
  | command :: _ :: _ :: _ :: attributes =>
    if command = getCommand ∨ command = createdCommand ∨ command = changedCommand then
      some (.ofAttributes attributes)
    else none
  | _ => none

def addMessage (family : UInt16) (batch : Batch) (m : Message) : Except DecodeError Batch :=
  if m.kind = Message.doneKind then .ok { batch with done := true }
  else if m.kind = Message.errorKind then (Message.checkError m.payload).map fun _ => batch
  else if m.kind = family then
    .ok { batch with devices := batch.devices ++ (device? m.payload).toList }
  else .ok batch

def decode (buffer : Bytes) (family : UInt16) : Except DecodeError Batch := do
  let messages ← splitMessages buffer
  messages.foldlM (addMessage family) empty

end Batch

end DpllWatch.Netlink
