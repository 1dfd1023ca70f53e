/-! JSON values as a document spells them. -/

namespace DpllWatch

/-- Numbers with a fraction or an exponent, and negative zero, keep their spelling in `real`. The
text of a string is `none` if the document spells half of a surrogate pair in it: the document is
well formed, yet what it holds there is no text. -/
inductive Json where
  | null
  | bool (value : Bool)
  | int (value : Int)
  | real (spelling : String)
  | string (text : Option String)
  | array (items : List Json)
  | object (members : List (Option String × Json))
deriving Repr, Inhabited, BEq

namespace Json

def text (s : String) : Json := .string (some s)

def record (members : List (String × Json)) : Json :=
  .object (members.map fun m => (some m.1, m.2))

end Json

end DpllWatch
