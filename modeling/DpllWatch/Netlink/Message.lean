import DpllWatch.Bytes
import DpllWatch.Netlink.Errno

/-! Netlink messages and their attributes: records of a length, a kind and data, each followed by
padding to a multiple of four bytes. Words are little-endian. -/

namespace DpllWatch.Netlink

structure Attribute where
  kind : UInt16
  data : Bytes
deriving DecidableEq, Repr

structure Message where
  kind : UInt16
  payload : Bytes
deriving DecidableEq, Repr

inductive DecodeError where
  | badLength (length left : Nat)
  | truncatedError
  | refused (code : Int32)
  | codeOverflow
deriving DecidableEq, Repr

namespace DecodeError

def message : DecodeError → String
  | badLength length left =>
    "malformed netlink message length " ++ toString length ++ " (" ++ toString left ++
      " bytes left)"
  | truncatedError => "truncated netlink error message"
  | refused code => "netlink error " ++ toString code.toInt ++ ": " ++ Errno.reported (-code.toInt)
  | codeOverflow => "netlink error code has no negation"

end DecodeError

def align4 (n : Nat) : Nat := (n + 3) / 4 * 4

theorem le_align4 (n : Nat) : n ≤ align4 n := by unfold align4; omega

def headerLength : Nat := 16

def genericHeaderLength : Nat := 4

def attributeHeaderLength : Nat := 4

def uint16 (b : Bytes) : UInt16 := UInt16.ofNat (b.word 0 2)

def uint32 (b : Bytes) : UInt32 := UInt32.ofNat (b.word 0 4)

def uint64 (b : Bytes) : UInt64 := UInt64.ofNat (b.word 0 8)

/-- All messages of a buffer. What is left at the end may be shorter than a header. -/
def splitMessages (buffer : Bytes) : Except DecodeError (List Message) :=
  if _h : buffer.length < headerLength then .ok []
  else
    let length := buffer.word 0 4
    if _hl : length < headerLength ∨ buffer.length < length then
      .error (.badLength length buffer.length)
    else
      let message : Message :=
        ⟨uint16 (buffer.drop 4), (buffer.take length).drop headerLength⟩
      (splitMessages (buffer.drop (align4 length))).map (message :: ·)
termination_by buffer.length
decreasing_by
  have := le_align4 (buffer.word 0 4)
  simp only [headerLength, length, List.length_drop] at *
  omega

/-- The kind of an attribute is in the low 14 bits of its word; the others are flags. -/
def kindMask : UInt16 := 0x3FFF

/-- The attributes at the front of a byte string; the first that is cut short ends them. -/
def splitAttributes (b : Bytes) : List Attribute :=
  if _h : b.length < attributeHeaderLength then []
  else
    let length := b.word 0 2
    if _hl : length < attributeHeaderLength ∨ b.length < length then []
    else
      ⟨uint16 (b.drop 2) &&& kindMask, (b.take length).drop attributeHeaderLength⟩ ::
        splitAttributes (b.drop (align4 length))
termination_by b.length
decreasing_by
  have := le_align4 (b.word 0 2)
  simp only [attributeHeaderLength, length, List.length_drop] at *
  omega

namespace Attribute

/-- The length word holds the length modulo 2^16. -/
def encode (a : Attribute) : Bytes :=
  let length := attributeHeaderLength + a.data.length
  Bytes.ofNat 2 length ++ Bytes.ofNat 2 a.kind.toNat ++ a.data ++
    List.replicate (align4 length - length) 0

def uint32? (a : Attribute) : Option UInt32 :=
  if a.data.length < 4 then none else some (uint32 a.data)

def uint64? (a : Attribute) : Option UInt64 :=
  if a.data.length < 8 then none else some (uint64 a.data)

end Attribute

namespace Message

def doneKind : UInt16 := 3

def errorKind : UInt16 := 2

/-- What an error message says; code zero is an acknowledgement. -/
def checkError (payload : Bytes) : Except DecodeError Unit :=
  if payload.length < 4 then .error .truncatedError
  else
    let code := (uint32 payload).toInt32
    if code = 0 then .ok ()
    else if code = Int32.minValue then .error .codeOverflow
    else .error (.refused code)

end Message

structure Request where
  family : UInt16
  flags : UInt16
  sequence : UInt32
  command : UInt8
  version : UInt8
  attributes : List Attribute
deriving DecidableEq, Repr

namespace Request

def encode (r : Request) : Bytes :=
  let payload := [r.command, r.version, 0, 0] ++ r.attributes.flatMap Attribute.encode
  Bytes.ofNat 4 (headerLength + payload.length) ++ Bytes.ofNat 2 r.family.toNat ++
    Bytes.ofNat 2 r.flags.toNat ++ Bytes.ofNat 4 r.sequence.toNat ++ [0, 0, 0, 0] ++ payload

end Request

end DpllWatch.Netlink
