import DpllWatch.Netlink.Device
import DpllWatch.Table

/-! Generic netlink families: their numbers and multicast groups, as the controller answers. -/

namespace DpllWatch.Netlink

structure Family where
  id : UInt16
  groups : Table UInt32
deriving DecidableEq, Repr

namespace Family

def controllerId : UInt16 := 0x10

def familyIdKind : UInt16 := 1

def familyNameKind : UInt16 := 2

def groupsKind : UInt16 := 7

def groupNameKind : UInt16 := 1

def groupIdKind : UInt16 := 2

def blank : Family := ⟨0, []⟩

/-- A group needs a name and a number; of several the last ones count. -/
def group? (data : Bytes) : Option (String × UInt32) := do
  let attributes := splitAttributes data
  let name ← attributes.foldl
    (fun name a => if a.kind = groupNameKind then some (Device.nameOf a.data) else name) none
  let id ← attributes.foldl (fun id a => if a.kind = groupIdKind then a.uint32? else id) none
  return (name, id)

def addGroups (groups : Table UInt32) (data : Bytes) : Table UInt32 :=
  ((splitAttributes data).filterMap fun a => group? a.data).foldl
    (fun groups g => groups.put g.1 g.2) groups

def withAttribute (f : Family) (a : Attribute) : Family :=
  if a.kind = familyIdKind ∧ 2 ≤ a.data.length then { f with id := uint16 a.data }
  else if a.kind = groupsKind then { f with groups := addGroups f.groups a.data }
  else f

def ofPayload (payload : Bytes) : Family :=
  (splitAttributes (payload.drop genericHeaderLength)).foldl withAttribute blank

def find : List Message → Except DecodeError (Option Family)
  | [] => .ok none
  | m :: rest => do
    if m.kind = Message.errorKind then
      Message.checkError m.payload
      find rest
    else if m.kind = controllerId ∧ genericHeaderLength ≤ m.payload.length then
      let family := ofPayload m.payload
      if family.id = 0 then find rest else .ok (some family)
    else find rest

def decode (buffer : Bytes) : Except DecodeError (Option Family) := do
  find (← splitMessages buffer)

end Family

end DpllWatch.Netlink
