import DpllWatch.Bytes.Value
import DpllWatch.SerialNumber
import Mathlib.Data.List.Chain

/-! What the walk over the capabilities of a configuration space finds, for any bytes: it follows
one chain of offsets and answers what stands at the end of it. It makes no read outside and no sum
that overflows, and takes no more hops than there are offsets to lead to. -/

namespace DpllWatch.SerialNumber

variable {config : Bytes} {offset next : Nat}

inductive Ends (config : Bytes) (offset : Nat) : Except Error UInt64 → Prop where
  | found {v : UInt64} : config.word offset 2 = capabilityId → offset + 12 ≤ config.length →
      v.toNat = config.word (offset + 4) 8 → Ends config offset (.ok v)
  | truncated : offset + 4 ≤ config.length → config.word offset 2 = capabilityId →
      config.length < offset + 12 → Ends config offset (.error .truncated)
  | absent : offset + 4 ≤ config.length → config.word offset 2 = 0 →
      Ends config offset (.error .absent)
  | loops : offset + 4 ≤ config.length → config.word offset 2 ≠ 0 →
      config.word offset 2 ≠ capabilityId → config.word (offset + 2) 2 / 16 ≤ offset →
      Ends config offset (.error (.loops offset))
  | outOfBounds : config.length < offset + 4 →
      Ends config offset (.error (.outOfBounds offset config.length))

inductive Stop where
  | answered (error : Error)
  | outOfBounds
  | overflow
  | stalled
deriving DecidableEq, Repr

namespace Checked

def word (config : Bytes) (offset width : Nat) : Except Stop Nat :=
  if offset + width ≤ config.length then pure (config.word offset width) else throw .outOfBounds

def add (m n : Nat) : Except Stop Nat := if m + n < 2 ^ 64 then pure (m + n) else throw .overflow

def walk (config : Bytes) : (rounds offset : Nat) → Except Stop UInt64
  | 0, _ => throw .stalled
  | rounds + 1, offset => do
    if config.length < (← add offset 4) then
      throw (.answered (.outOfBounds offset config.length))
    else
      let id ← word config offset 2
      if id = capabilityId then
        let data ← add offset 4
        if config.length < (← add data 8) then throw (.answered .truncated)
        else return UInt64.ofNat (← word config data 8)
      else if id = 0 then throw (.answered .absent)
      else
        let next := (← word config (← add offset 2) 2) >>> 4
        if next ≤ offset then throw (.answered (.loops offset)) else walk config rounds next

/-- A field of 12 bits leads on, so there are no more capabilities than it has values. -/
def read (config : Bytes) : Except Stop UInt64 := walk config (2 ^ 12 - firstOffset) firstOffset

theorem word_eq {width : Nat} (within : offset + width ≤ config.length) :
    word config offset width = pure (config.word offset width) :=
  if_pos within

end Checked

end DpllWatch.SerialNumber
