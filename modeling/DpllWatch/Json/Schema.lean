import DpllWatch.Json

/-! What a JSON value must look like to stand for a value of the program. Nothing is converted: a
number is no text, and a missing or null field is not there. -/

namespace DpllWatch.Json

def bool? : Json → Option Bool
  | .bool b => some b
  | _ => none

def uint64? : Json → Option UInt64
  | .int n => if 0 ≤ n ∧ n < UInt64.size then some (UInt64.ofNat n.toNat) else none
  | _ => none

def int64? : Json → Option Int64
  | .int n =>
    if Int64.minValue.toInt ≤ n ∧ n ≤ Int64.maxValue.toInt then some (Int64.ofInt n) else none
  | _ => none

def text? : Json → Option String
  | .string t => t
  | _ => none

def list? {α : Type} (item? : Json → Option α) : Json → Option (List α)
  | .array items => items.mapM item?
  | _ => none

/-- One of finitely many values, by name. The name may also stand as the only key of an object, over
a null. -/
def choice? {α : Type} (all : List α) (name : α → String) : Json → Option α
  | .string (some s) => all.find? (name · == s)
  | .object [(some s, .null)] => all.find? (name · == s)
  | _ => none

def members? : Json → Option (List (String × Json))
  | .object members => members.mapM fun m => m.1.map (·, m.2)
  | _ => none

def single? (members : List (String × Json)) (key : String) : Option (Option Json) :=
  match members.filter (·.1 == key) with
  | [] => some none
  | [m] => some (some m.2)
  | _ => none

/-- The fields of a record, in the order of their names. A record is written as an object, in which
other keys are passed over, or as an array of its first fields. -/
def fields? (names : List String) (v : Json) : Option (List (Option Json)) :=
  match v with
  | .array items =>
    if items.length ≤ names.length then
      some (items.map some ++ List.replicate (names.length - items.length) none)
    else none
  | v => v.members?.bind fun members => names.mapM (single? members)

def field? {α : Type} (value? : Json → Option α) (field : Option Json) : Option α :=
  field.bind value?

def fieldOr? {α : Type} (value? : Json → Option α) (default : α) : Option Json → Option α
  | none => some default
  | some v => value? v

end DpllWatch.Json
