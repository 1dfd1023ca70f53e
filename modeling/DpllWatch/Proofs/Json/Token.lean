import DpllWatch.Json.Printer
import DpllWatch.Json.Token
import DpllWatch.Proofs.Text.Decimal

/-! Printed strings and integers are read as one token, whatever stands behind them that cannot be
part of it. -/

namespace DpllWatch.Json

open Text

/-! ## Strings -/

theorem unit?_hexDigit {n : Nat} (control : n < 0x20) :
    unit? '0' '0' (hexDigit (n / 16)) (hexDigit (n % 16)) = some n := by
  revert n
  decide

theorem readString_quote (read rest : List Char) (whole : Bool) :
    readString read whole ('"' :: rest) =
      some (if whole then some (String.ofList read.reverse) else none, rest) := by
  rw [readString]

theorem readString_escape (read rest : List Char) (whole : Bool) (c : Char) :
    readString read whole (escape c ++ rest) = readString (c :: read) whole rest := by
  unfold escape
  split
  case h_8 quote backslash _ _ _ _ _ =>
    split
    next control =>
      have high : isHighSurrogate c.toNat = false := by
        simp [isHighSurrogate]
        omega
      have low : isLowSurrogate c.toNat = false := by
        simp [isLowSurrogate]
        omega
      simp only [List.cons_append, List.nil_append]
      rw [readString, unit?_hexDigit control]
      simp [high, low]
    next plain =>
      rw [List.singleton_append, readString, if_neg plain]
      · exact quote
      · exact fun _ _ _ _ _ same _ => backslash same
      · exact fun _ _ same _ => backslash same
  -- The other characters have a letter of their own.
  all_goals simp [readString, unescape?]

theorem readString_flatMap_escape (s read rest : List Char) (whole : Bool) :
    readString read whole (s.flatMap escape ++ rest) =
      readString (s.reverse ++ read) whole rest := by
  induction s generalizing read with
  | nil => rfl
  | cons c s ih =>
      rw [List.flatMap_cons, List.append_assoc, readString_escape, ih, List.reverse_cons,
        List.append_assoc, List.singleton_append]

theorem token?_quoteText (t : Option String) (rest : List Char) :
    token? (quoteText t ++ rest) = some (.string t, rest) := by
  cases t with
  | none =>
      have half : unit? 'd' '8' '0' '0' = some 0xD800 := by decide
      have high : isHighSurrogate 0xD800 = true := by decide
      simp only [quoteText, List.cons_append, List.nil_append, token?]
      rw [readString, half]
      simp only [high, if_true, readString_quote]
      rfl
  | some s =>
      have read := readString_flatMap_escape s.toList [] ('"' :: rest) true
      rw [readString_quote] at read
      simp [quoteText, quote, token?, read]

/-! ## Integers -/

theorem isDigit_digit {d : Nat} (small : d < 10) : isDigit (digit d) = true := by
  rw [isDigit, digit?_digit small]
  rfl

theorem isDigit_of_mem_decimal {n : Nat} {c : Char} (member : c ∈ decimal n) :
    isDigit c = true := by
  obtain ⟨d, small, rfl⟩ := exists_digit_of_mem_decimal member
  exact isDigit_digit small

/-- What stands behind a number cannot be part of it. -/
def EndsNumber (rest : List Char) : Prop :=
  ∀ c ∈ rest.head?, isDigit c = false ∧ c ≠ '.' ∧ c ≠ 'e' ∧ c ≠ 'E'

theorem digitsValue_concat (digits : List Char) {d : Nat} (small : d < 10) :
    digitsValue (digits ++ [digit d]) = digitsValue digits * 10 + d := by
  have worth : (digit d).toNat - 48 = d := by
    revert d
    decide
  rw [digitsValue, List.foldl_append, List.foldl_cons, List.foldl_nil, worth]
  rfl

theorem digitsValue_decimal (n : Nat) : digitsValue (decimal n) = n := by
  fun_induction decimal n with
  | case1 n small =>
      exact (digitsValue_concat [] small).trans (Nat.zero_add n)
  | case2 n large ih =>
      rw [digitsValue_concat _ (Nat.mod_lt n (by decide)), ih, Nat.div_add_mod']

theorem digit_ne_zero {d : Nat} (small : d < 10) (positive : 0 < d) : digit d ≠ '0' := by
  revert d
  decide

theorem exists_decimal_eq_cons (n : Nat) :
    ∃ d < 10, (0 < n → 0 < d) ∧ ∃ later, decimal n = digit d :: later := by
  fun_induction decimal n with
  | case1 n small => exact ⟨n, small, id, [], rfl⟩
  | case2 n large ih =>
      obtain ⟨d, small, positive, later, first⟩ := ih
      refine ⟨d, small, fun _ => positive (by omega), later ++ [digit (n % 10)], ?_⟩
      rw [first, List.cons_append]

theorem digits?_append {digits rest : List Char} (some : digits ≠ [])
    (all : ∀ c ∈ digits, isDigit c = true) (ends : ∀ c ∈ rest.head?, isDigit c = false) :
    digits? (digits ++ rest) = .some (digits, rest) := by
  have taken : rest.takeWhile isDigit = [] := by
    cases rest with
    | nil => rfl
    | cons c rest => simp [ends c rfl]
  have dropped : rest.dropWhile isDigit = rest := by
    cases rest with
    | nil => rfl
    | cons c rest => simp [ends c rfl]
  cases digits with
  | nil => exact absurd rfl some
  | cons c digits =>
      rw [List.forall_mem_cons] at all
      rw [List.cons_append, digits?, if_pos all.1, List.takeWhile_append_of_pos all.2,
        List.dropWhile_append_of_pos all.2, taken, dropped, List.append_nil]

theorem whole?_decimal (n : Nat) {rest : List Char} (ends : EndsNumber rest) :
    whole? (decimal n ++ rest) = some (decimal n, rest) := by
  rcases Nat.eq_zero_or_pos n with rfl | nonzero
  · rw [decimal]
    rfl
  have read := digits?_append (decimal_ne_nil n) (fun c => isDigit_of_mem_decimal)
    fun c first => (ends c first).1
  obtain ⟨d, small, positive, later, first⟩ := exists_decimal_eq_cons n
  unfold whole?
  split
  next zero =>
    rw [first, List.cons_append, List.cons.injEq] at zero
    exact absurd zero.1 (digit_ne_zero small (positive nonzero))
  next => exact read

theorem fraction?_of_ends {rest : List Char} (ends : EndsNumber rest) :
    fraction? rest = some ([], rest) := by
  unfold fraction?
  split
  next => exact absurd rfl (ends '.' rfl).2.1
  next => rfl

theorem exponent?_of_ends {rest : List Char} (ends : EndsNumber rest) :
    exponent? rest = some ([], rest) := by
  cases rest with
  | nil => rfl
  | cons c rest => exact if_neg (not_or.2 (ends c rfl).2.2)

theorem number?_decimal (negative : Bool) (n : Nat) {rest : List Char} (ends : EndsNumber rest)
    (nonzero : negative = true → n ≠ 0) :
    number? negative (decimal n ++ rest) = some (.int (if negative then -n else n), rest) := by
  simpa [number?, whole?_decimal n ends, fraction?_of_ends ends, exponent?_of_ends ends,
    digitsValue_decimal] using nonzero

theorem token?_of_isDigit {c : Char} (h : isDigit c = true) (rest : List Char) :
    token? (c :: rest) = (number? false (c :: rest)).map fun r => (.scalar r.1, r.2) := by
  rw [token?]
  case x => nofun
  all_goals
    intro rest' same
    cases same
    exact absurd h (by decide)

theorem token?_decimalInt (n : Int) {rest : List Char} (ends : EndsNumber rest) :
    token? (decimalInt n ++ rest) = some (.scalar (.int n), rest) := by
  unfold decimalInt
  split
  next negative =>
    have value : -(n.natAbs : Int) = n := by omega
    rw [List.cons_append, token?, number?_decimal true n.natAbs ends fun _ => by omega]
    simp only [Option.map_some, if_true, value]
  next positive =>
    have value : (n.natAbs : Int) = n := by omega
    obtain ⟨d, small, -, later, first⟩ := exists_decimal_eq_cons n.natAbs
    have read := number?_decimal false n.natAbs ends nofun
    rw [first, List.cons_append] at read ⊢
    rw [token?_of_isDigit (isDigit_digit small), read]
    simp [value]

/-! ## Control characters -/

def Plain (s : List Char) : Prop := ∀ c ∈ s, 0x20 ≤ c.toNat

theorem plain_of_all {s : List Char} (all : s.all (0x20 ≤ ·.toNat) = true) : Plain s :=
  fun c member => of_decide_eq_true (List.all_eq_true.1 all c member)

theorem plain_append {s t : List Char} (front : Plain s) (back : Plain t) : Plain (s ++ t) :=
  List.forall_mem_append.2 ⟨front, back⟩

theorem plain_cons {c : Char} {s : List Char} (first : 0x20 ≤ c.toNat) (later : Plain s) :
    Plain (c :: s) :=
  List.forall_mem_cons.2 ⟨first, later⟩

theorem toNat_hexDigit {n : Nat} (small : n < 16) : 0x20 ≤ (hexDigit n).toNat := by
  revert n
  decide

theorem toNat_digit {n : Nat} (small : n < 10) : 0x20 ≤ (digit n).toNat := by
  revert n
  decide

theorem plain_escape (c : Char) : Plain (escape c) := by
  unfold escape
  split
  case h_8 =>
    split
    next control =>
      have high := toNat_hexDigit (n := c.toNat / 16) (by omega)
      have low := toNat_hexDigit (n := c.toNat % 16) (by omega)
      exact plain_append (s := ['\\', 'u', '0', '0']) (plain_of_all rfl)
        (plain_cons high (plain_cons low (plain_of_all rfl)))
    next plain => exact plain_cons (Nat.le_of_not_lt plain) (plain_of_all rfl)
  all_goals exact plain_of_all rfl

theorem plain_quoteText (t : Option String) : Plain (quoteText t) := by
  cases t with
  | none => exact plain_of_all rfl
  | some s =>
      have escaped : Plain (s.toList.flatMap escape) := by
        intro c member
        obtain ⟨a, -, member⟩ := List.mem_flatMap.1 member
        exact plain_escape a c member
      have quote : Plain ['"'] := plain_of_all rfl
      exact plain_append (plain_append quote escaped) quote

theorem plain_decimal (n : Nat) : Plain (decimal n) := by
  intro c member
  obtain ⟨d, small, rfl⟩ := exists_digit_of_mem_decimal member
  exact toNat_digit small

theorem plain_decimalInt (n : Int) : Plain (decimalInt n) := by
  unfold decimalInt
  split
  · exact plain_cons (by decide) (plain_decimal _)
  · exact plain_decimal _

end DpllWatch.Json
