import DpllWatch.Json.Token

/-! Reading a JSON document: its tokens are fed one by one to a stack of the arrays and objects that
are still open. -/

namespace DpllWatch.Json

/-- An open array or object with its contents so far, the last one first. An object also remembers
the key whose value comes next. -/
inductive Frame where
  | items (read : List Json)
  | members (read : List (Option String × Json)) (key : Option String)

inductive Expect where
  | value
  | valueOrEnd
  | keyOrEnd (read : List (Option String × Json))
  | key (read : List (Option String × Json))
  | colon (read : List (Option String × Json)) (key : Option String)
  | separator
  | nothing (document : Json)

structure Progress where
  stack : List Frame
  expect : Expect

namespace Progress

def start : Progress := ⟨[], .value⟩

def deliver (stack : List Frame) (value : Json) : Progress :=
  match stack with
  | [] => ⟨[], .nothing value⟩
  | .items read :: stack => ⟨.items (value :: read) :: stack, .separator⟩
  | .members read key :: stack => ⟨.members ((key, value) :: read) key :: stack, .separator⟩

def begin? (stack : List Frame) : Token → Option Progress
  | .openBracket => some ⟨.items [] :: stack, .valueOrEnd⟩
  | .openBrace => some ⟨stack, .keyOrEnd []⟩
  | .string text => some (deliver stack (.string text))
  | .scalar value => some (deliver stack value)
  | _ => none

def feed? (p : Progress) (token : Token) : Option Progress :=
  match p.expect, p.stack, token with
  | .value, stack, token => begin? stack token
  | .valueOrEnd, .items _ :: stack, .closeBracket => some (deliver stack (.array []))
  | .valueOrEnd, stack, token => begin? stack token
  | .keyOrEnd _, stack, .closeBrace => some (deliver stack (.object []))
  | .keyOrEnd read, stack, .string key => some ⟨stack, .colon read key⟩
  | .key read, stack, .string key => some ⟨stack, .colon read key⟩
  | .colon read key, stack, .colon => some ⟨.members read key :: stack, .value⟩
  | .separator, stack@(.items _ :: _), .comma => some ⟨stack, .value⟩
  | .separator, .items read :: stack, .closeBracket => some (deliver stack (.array read.reverse))
  | .separator, .members read _ :: stack, .comma => some ⟨stack, .key read⟩
  | .separator, .members read _ :: stack, .closeBrace =>
    some (deliver stack (.object read.reverse))
  | _, _, _ => none

def document? (p : Progress) : Option Json :=
  match p.expect with
  | .nothing document => some document
  | _ => none

end Progress

def parse? (text : String) : Option Json := do
  let tokens ← tokens? text.toList
  let final ← tokens.foldlM Progress.feed? .start
  final.document?

end DpllWatch.Json
