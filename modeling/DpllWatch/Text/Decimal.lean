/-! Decimal and hexadecimal integers. -/

namespace DpllWatch.Text

inductive NumberError where
  | empty
  | badDigit
  | tooLarge
  | tooSmall
deriving DecidableEq, Repr

namespace NumberError

def message : NumberError → String
  | empty => "cannot parse integer from empty string"
  | badDigit => "invalid digit found in string"
  | tooLarge => "number too large to fit in target type"
  | tooSmall => "number too small to fit in target type"

end NumberError

def digit (n : Nat) : Char := Char.ofNat (48 + n)

def digit? (c : Char) : Option Nat :=
  if '0' ≤ c ∧ c ≤ '9' then some (c.toNat - 48) else none

def decimal (n : Nat) : List Char :=
  if n < 10 then [digit n] else decimal (n / 10) ++ [digit (n % 10)]
termination_by n

def decimalInt (n : Int) : List Char :=
  if n < 0 then '-' :: decimal n.natAbs else decimal n.natAbs

/-- Continues a number whose leading digits are worth `acc`. The leftmost fault wins: a character
that is no digit, or the digit with which the value leaves the limit. -/
def readDigits (limit : Nat) (overflow : NumberError) (acc : Nat) :
    List Char → Except NumberError Nat
  | [] => .ok acc
  | c :: rest =>
    match digit? c with
    | none => .error .badDigit
    | some d =>
      if acc * 10 + d ≤ limit then readDigits limit overflow (acc * 10 + d) rest
      else .error overflow

def readUInt64 (s : List Char) : Except NumberError UInt64 :=
  let digits (cs : List Char) := (readDigits (UInt64.size - 1) .tooLarge 0 cs).map UInt64.ofNat
  match s with
  | [] => .error .empty
  | ['+'] => .error .badDigit
  | '+' :: rest => digits rest
  | _ => digits s

def readInt64 (s : List Char) : Except NumberError Int64 :=
  let positive (cs : List Char) :=
    (readDigits Int64.maxValue.toInt.toNat .tooLarge 0 cs).map Int64.ofNat
  match s with
  | [] => .error .empty
  | ['+'] => .error .badDigit
  | ['-'] => .error .badDigit
  | '+' :: rest => positive rest
  | '-' :: rest =>
    (readDigits Int64.minValue.toInt.natAbs .tooSmall 0 rest).map fun n => Int64.ofInt (-n)
  | _ => positive s

def hexDigit (n : Nat) : Char := if n < 10 then digit n else Char.ofNat (87 + n)

def hexDigit? (c : Char) : Option Nat :=
  if '0' ≤ c ∧ c ≤ '9' then some (c.toNat - 48)
  else if 'a' ≤ c ∧ c ≤ 'f' then some (c.toNat - 87)
  else if 'A' ≤ c ∧ c ≤ 'F' then some (c.toNat - 55)
  else none

def hex (n : Nat) : List Char :=
  if n < 16 then [hexDigit n] else hex (n / 16) ++ [hexDigit (n % 16)]
termination_by n

end DpllWatch.Text
