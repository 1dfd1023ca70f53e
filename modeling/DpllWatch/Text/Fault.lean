/-! How a fault is shown with its causes. -/

namespace DpllWatch.Text.Fault

def indent (first later text : String) : String :=
  first ++ ("\n" ++ later).intercalate (text.splitOn "\n")

/-- Numbers stand flush right in five columns. -/
def numbered (n : Nat) (cause : String) : String :=
  let digits := toString n
  indent (String.ofList (List.replicate (5 - digits.length) ' ') ++ digits ++ ": ") "       " cause

def causes : List String → List String
  | [] => []
  | [cause] => [indent "    " "    " cause]
  | several => several.zipIdx.map fun entry => numbered entry.2 entry.1

def render (layers : List String) : String :=
  let lines := causes layers.tail
  layers.headD "" ++
    if lines.isEmpty then "" else "\n\nCaused by:\n" ++ "\n".intercalate lines

end DpllWatch.Text.Fault
