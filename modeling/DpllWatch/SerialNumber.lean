import DpllWatch.Bytes

/-! The 64-bit serial number of a PCI Express device, found by walking the list of extended
capabilities in its configuration space. -/

namespace DpllWatch.SerialNumber

inductive Error where
  | outOfBounds (offset size : Nat)
  | absent
  | loops (offset : Nat)
  | truncated
deriving DecidableEq, Repr

namespace Error

def message : Error → String
  | outOfBounds offset size =>
    "config space out of bounds (offset " ++ toString offset ++ " of " ++ toString size ++ ")"
  | absent => "DSN capability not present"
  | loops offset => "capability list loops at offset " ++ toString offset
  | truncated => "DSN capability truncated"

end Error

def firstOffset : Nat := 256

def capabilityId : Nat := 3

/-- Follows the list from `offset` on. Each hop must lead forward, so the walk ends. -/
def walk (config : Bytes) (offset : Nat) : Except Error UInt64 :=
  if config.length < offset + 4 then .error (.outOfBounds offset config.length)
  else
    let id := config.word offset 2
    if id = capabilityId then
      if config.length < offset + 12 then .error .truncated
      else .ok (UInt64.ofNat (config.word (offset + 4) 8))
    else if id = 0 then .error .absent
    else
      let next := config.word (offset + 2) 2 / 16
      if next ≤ offset then .error (.loops offset) else walk config next
termination_by config.length - offset

def read (config : Bytes) : Except Error UInt64 := walk config firstOffset

end DpllWatch.SerialNumber
