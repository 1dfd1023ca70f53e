import DpllWatch.Json
import DpllWatch.Text.Decimal

/-! The tokens of a JSON document. -/

namespace DpllWatch.Json

open Text

inductive Token where
  | openBracket
  | closeBracket
  | openBrace
  | closeBrace
  | comma
  | colon
  | string (text : Option String)
  | scalar (value : Json)
deriving Repr, BEq

def isSpace (c : Char) : Bool := c == ' ' || c == '\t' || c == '\n' || c == '\r'

def unit? (a b c d : Char) : Option Nat := do
  let a ← hexDigit? a
  let b ← hexDigit? b
  let c ← hexDigit? c
  let d ← hexDigit? d
  return ((a * 16 + b) * 16 + c) * 16 + d

def isHighSurrogate (n : Nat) : Bool := 0xD800 ≤ n && n < 0xDC00

def isLowSurrogate (n : Nat) : Bool := 0xDC00 ≤ n && n < 0xE000

def fromSurrogates (high low : Nat) : Char :=
  Char.ofNat (0x10000 + (high - 0xD800) * 0x400 + (low - 0xDC00))

def unescape? : Char → Option Char
  | '"' => some '"'
  | '\\' => some '\\'
  | '/' => some '/'
  | 'b' => some '\x08'
  | 'f' => some '\x0c'
  | 'n' => some '\n'
  | 'r' => some '\r'
  | 't' => some '\t'
  | _ => none

def lowHalf? : List Char → Option (Nat × List Char)
  | '\\' :: 'u' :: a :: b :: c :: d :: rest => do
    let low ← unit? a b c d
    if isLowSurrogate low then some (low, rest) else none
  | _ => none

theorem length_of_lowHalf? {s rest : List Char} {low : Nat} (h : lowHalf? s = some (low, rest)) :
    rest.length < s.length := by
  unfold lowHalf? at h
  split at h
  · obtain ⟨n, _, hn⟩ := Option.bind_eq_some_iff.mp h
    split at hn
    · simp only [Option.some.injEq, Prod.mk.injEq] at hn
      obtain ⟨_, rfl⟩ := hn
      simp only [List.length_cons]
      omega
    · exact absurd hn (by simp)
  · exact absurd h (by simp)

/-- Reads a string literal after its opening quote. `read` holds the characters so far in reverse,
and `whole` tells whether none of them was half of a surrogate pair. -/
def readString (read : List Char) (whole : Bool) :
    List Char → Option (Option String × List Char)
  | [] => none
  | '"' :: rest => some (if whole then some (String.ofList read.reverse) else none, rest)
  | '\\' :: 'u' :: a :: b :: c :: d :: rest =>
    match unit? a b c d with
    | none => none
    | some n =>
      if isHighSurrogate n then
        match _h : lowHalf? rest with
        | some (low, rest') => readString (fromSurrogates n low :: read) whole rest'
        | none => readString read false rest
      else if isLowSurrogate n then readString read false rest
      else readString (Char.ofNat n :: read) whole rest
  | '\\' :: c :: rest =>
    match unescape? c with
    | none => none
    | some c => readString (c :: read) whole rest
  | c :: rest => if c.toNat < 0x20 then none else readString (c :: read) whole rest
termination_by s => s.length
decreasing_by
  all_goals simp only [List.length_cons]
  · have := length_of_lowHalf? _h
    omega
  all_goals omega

theorem length_of_readString {read : List Char} {whole : Bool} {s rest : List Char}
    {text : Option String} (h : readString read whole s = some (text, rest)) :
    rest.length < s.length := by
  fun_induction readString read whole s
  case case2 =>
    simp only [Option.some.injEq, Prod.mk.injEq] at h
    simp [h.2]
  case case4 low hlow ih =>
    have := length_of_lowHalf? hlow
    have := ih h
    simp only [List.length_cons]
    omega
  all_goals first
    | exact absurd h (by simp)
    | (rename_i ih; have := ih h; simp only [List.length_cons]; omega)

def isDigit (c : Char) : Bool := (digit? c).isSome

def digits? : List Char → Option (List Char × List Char)
  | [] => none
  | c :: rest =>
    if isDigit c then some (c :: rest.takeWhile isDigit, rest.dropWhile isDigit) else none

def whole? (s : List Char) : Option (List Char × List Char) :=
  match s with
  | '0' :: rest => some (['0'], rest)
  | s => digits? s

def fraction? (s : List Char) : Option (List Char × List Char) :=
  match s with
  | '.' :: rest => (digits? rest).map fun r => ('.' :: r.1, r.2)
  | s => some ([], s)

def exponent? (s : List Char) : Option (List Char × List Char) :=
  match s with
  | [] => some ([], [])
  | e :: rest =>
    if e = 'e' ∨ e = 'E' then
      match rest with
      | '+' :: rest => (digits? rest).map fun r => (e :: '+' :: r.1, r.2)
      | '-' :: rest => (digits? rest).map fun r => (e :: '-' :: r.1, r.2)
      | rest => (digits? rest).map fun r => (e :: r.1, r.2)
    else some ([], s)

def digitsValue (digits : List Char) : Nat :=
  digits.foldl (fun n c => n * 10 + (c.toNat - 48)) 0

def number? (negative : Bool) (s : List Char) : Option (Json × List Char) := do
  let (whole, rest) ← whole? s
  let (fraction, rest) ← fraction? rest
  let (exponent, rest) ← exponent? rest
  let value := digitsValue whole
  if fraction.isEmpty && exponent.isEmpty && !(negative && value == 0) then
    return (.int (if negative then -value else value), rest)
  else
    let sign := if negative then ['-'] else []
    return (.real (String.ofList (sign ++ whole ++ fraction ++ exponent)), rest)

def token? (s : List Char) : Option (Token × List Char) :=
  match s with
  | [] => none
  | '[' :: rest => some (.openBracket, rest)
  | ']' :: rest => some (.closeBracket, rest)
  | '\x7b' :: rest => some (.openBrace, rest)
  | '\x7d' :: rest => some (.closeBrace, rest)
  | ',' :: rest => some (.comma, rest)
  | ':' :: rest => some (.colon, rest)
  | '"' :: rest => (readString [] true rest).map fun r => (.string r.1, r.2)
  | 'n' :: 'u' :: 'l' :: 'l' :: rest => some (.scalar .null, rest)
  | 't' :: 'r' :: 'u' :: 'e' :: rest => some (.scalar (.bool true), rest)
  | 'f' :: 'a' :: 'l' :: 's' :: 'e' :: rest => some (.scalar (.bool false), rest)
  | '-' :: rest => (number? true rest).map fun r => (.scalar r.1, r.2)
  | s => (number? false s).map fun r => (.scalar r.1, r.2)

theorem length_of_digits? {s digits rest : List Char} (h : digits? s = some (digits, rest)) :
    rest.length < s.length := by
  unfold digits? at h
  split at h
  · exact absurd h (by simp)
  · rename_i c tail
    split at h
    · simp only [Option.some.injEq, Prod.mk.injEq] at h
      obtain ⟨_, rfl⟩ := h
      exact Nat.lt_succ_of_le (List.dropWhile_suffix _).length_le
    · exact absurd h (by simp)

private theorem length_of_map_digits? {s rest out : List Char} (f : List Char → List Char)
    (h : (digits? s).map (fun r => (f r.1, r.2)) = some (out, rest)) : rest.length < s.length := by
  obtain ⟨⟨digits, tail⟩, hd, heq⟩ := Option.map_eq_some_iff.mp h
  simp only [Prod.mk.injEq] at heq
  exact heq.2 ▸ length_of_digits? hd

theorem length_of_whole? {s digits rest : List Char} (h : whole? s = some (digits, rest)) :
    rest.length < s.length := by
  unfold whole? at h
  split at h
  · simp only [Option.some.injEq, Prod.mk.injEq] at h
    simp [h.2]
  · exact length_of_digits? h

theorem length_of_fraction? {s out rest : List Char} (h : fraction? s = some (out, rest)) :
    rest.length ≤ s.length := by
  unfold fraction? at h
  split at h
  · have := length_of_map_digits? ('.' :: ·) h
    simp only [List.length_cons]
    omega
  · simp only [Option.some.injEq, Prod.mk.injEq] at h
    simp [h.2]

theorem length_of_exponent? {s out rest : List Char} (h : exponent? s = some (out, rest)) :
    rest.length ≤ s.length := by
  unfold exponent? at h
  split at h
  · simp only [Option.some.injEq, Prod.mk.injEq] at h
    simp [← h.2]
  · split at h
    · rename_i e tail _
      split at h
      · have := length_of_map_digits? (fun r => e :: '+' :: r) h
        simp only [List.length_cons]
        omega
      · have := length_of_map_digits? (fun r => e :: '-' :: r) h
        simp only [List.length_cons]
        omega
      · have := length_of_map_digits? (e :: ·) h
        simp only [List.length_cons]
        omega
    · simp only [Option.some.injEq, Prod.mk.injEq] at h
      simp [← h.2]

theorem length_of_number? {negative : Bool} {s rest : List Char} {value : Json}
    (h : number? negative s = some (value, rest)) : rest.length < s.length := by
  unfold number? at h
  obtain ⟨⟨whole, rest₁⟩, hw, h⟩ := Option.bind_eq_some_iff.mp h
  obtain ⟨⟨fraction, rest₂⟩, hf, h⟩ := Option.bind_eq_some_iff.mp h
  obtain ⟨⟨exponent, rest₃⟩, he, h⟩ := Option.bind_eq_some_iff.mp h
  have h₁ := length_of_whole? hw
  have h₂ := length_of_fraction? hf
  have h₃ := length_of_exponent? he
  simp only at h h₂ h₃
  split at h <;>
  · simp only [pure, Option.some.injEq, Prod.mk.injEq] at h
    obtain ⟨_, rfl⟩ := h
    omega

theorem length_of_token? {s rest : List Char} {token : Token} (h : token? s = some (token, rest)) :
    rest.length < s.length := by
  unfold token? at h
  split at h
  case h_8 =>
    obtain ⟨⟨text, tail⟩, hr, heq⟩ := Option.map_eq_some_iff.mp h
    simp only [Prod.mk.injEq] at heq
    have := length_of_readString hr
    simp only [List.length_cons]
    exact heq.2 ▸ Nat.lt_succ_of_lt this
  case h_12 =>
    obtain ⟨⟨value, tail⟩, hr, heq⟩ := Option.map_eq_some_iff.mp h
    simp only [Prod.mk.injEq] at heq
    have := length_of_number? hr
    simp only [List.length_cons]
    exact heq.2 ▸ Nat.lt_succ_of_lt this
  case h_13 =>
    obtain ⟨⟨value, tail⟩, hr, heq⟩ := Option.map_eq_some_iff.mp h
    simp only [Prod.mk.injEq] at heq
    exact heq.2 ▸ length_of_number? hr
  case h_1 => exact absurd h (by simp)
  all_goals
    simp only [Option.some.injEq, Prod.mk.injEq] at h
    simp only [← h.2, List.length_cons]
    omega

def tokens? (s : List Char) : Option (List Token) :=
  match _h : s.dropWhile isSpace with
  | [] => some []
  | c :: tail =>
    match _ht : token? (c :: tail) with
    | none => none
    | some (token, rest) => (tokens? rest).map (token :: ·)
termination_by s.length
decreasing_by
  have := length_of_token? _ht
  have : (c :: tail).length ≤ s.length := _h ▸ (List.dropWhile_suffix _).length_le
  omega

end DpllWatch.Json
