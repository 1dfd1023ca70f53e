/-! UTF-8. Bytes that are no text are found in maximal pieces: a piece is the longest start of a
character that the bytes allow, or one byte that starts none. -/

namespace DpllWatch.Text.Utf8

/-- What a first byte announces: the payload bits it holds and the ranges of the bytes after it. -/
def lead (b : UInt8) : Option (Nat × List (UInt8 × UInt8)) :=
  let n := b.toNat
  if b < 0x80 then some (n, [])
  else if b < 0xC2 then none
  else if b < 0xE0 then some (n - 0xC0, [(0x80, 0xBF)])
  else if b = 0xE0 then some (0, [(0xA0, 0xBF), (0x80, 0xBF)])
  else if b = 0xED then some (13, [(0x80, 0x9F), (0x80, 0xBF)])
  else if b < 0xF0 then some (n - 0xE0, [(0x80, 0xBF), (0x80, 0xBF)])
  else if b = 0xF0 then some (0, [(0x90, 0xBF), (0x80, 0xBF), (0x80, 0xBF)])
  else if b < 0xF4 then some (n - 0xF0, [(0x80, 0xBF), (0x80, 0xBF), (0x80, 0xBF)])
  else if b = 0xF4 then some (4, [(0x80, 0x8F), (0x80, 0xBF), (0x80, 0xBF)])
  else none

/-- Takes continuation bytes as long as each lies in its range. The value is there if all were. -/
def continueWith (value : Nat) : List (UInt8 × UInt8) → List UInt8 → Option Nat × List UInt8
  | [], bytes => (some value, bytes)
  | _ :: _, [] => (none, [])
  | (low, high) :: ranges, b :: bytes =>
    if low ≤ b ∧ b ≤ high then continueWith (value * 64 + (b.toNat - 0x80)) ranges bytes
    else (none, b :: bytes)

theorem length_continueWith_le (value : Nat) (ranges : List (UInt8 × UInt8))
    (bytes : List UInt8) : (continueWith value ranges bytes).2.length ≤ bytes.length := by
  induction ranges generalizing value bytes with
  | nil => simp [continueWith]
  | cons r rs ih =>
    cases bytes with
    | nil => simp [continueWith]
    | cons b bs =>
      obtain ⟨low, high⟩ := r
      simp only [continueWith]
      split
      · exact Nat.le_succ_of_le (ih _ _)
      · exact Nat.le_refl _

def next (b : UInt8) (bytes : List UInt8) : Option Char × List UInt8 :=
  match lead b with
  | none => (none, bytes)
  | some (value, ranges) =>
    let (value?, rest) := continueWith value ranges bytes
    (value?.map Char.ofNat, rest)

theorem length_next_le (b : UInt8) (bytes : List UInt8) :
    (next b bytes).2.length ≤ bytes.length := by
  unfold next
  split
  · exact Nat.le_refl _
  · exact length_continueWith_le _ _ _

private def piecesOnto (done : List (Option Char)) : List UInt8 → List (Option Char)
  | [] => done.reverse
  | b :: bytes => piecesOnto ((next b bytes).1 :: done) (next b bytes).2
termination_by bytes => bytes.length
decreasing_by exact Nat.lt_succ_of_le (length_next_le b bytes)

def pieces (bytes : List UInt8) : List (Option Char) := piecesOnto [] bytes

private theorem piecesOnto_eq (done : List (Option Char)) (bytes : List UInt8) :
    piecesOnto done bytes = done.reverse ++ piecesOnto [] bytes := by
  induction h : bytes.length using Nat.strongRecOn generalizing done bytes with
  | _ n ih =>
    cases bytes with
    | nil => simp [piecesOnto]
    | cons b bytes =>
      have hlt : (next b bytes).2.length < n := by
        have := length_next_le b bytes
        simp at h; omega
      rw [piecesOnto, piecesOnto, ih _ hlt _ _ rfl, ih _ hlt [(next b bytes).1] _ rfl]
      simp

@[simp] theorem pieces_nil : pieces [] = [] := by simp [pieces, piecesOnto]

theorem pieces_cons (b : UInt8) (bytes : List UInt8) :
    pieces (b :: bytes) = (next b bytes).1 :: pieces (next b bytes).2 := by
  rw [pieces, piecesOnto, piecesOnto_eq]
  rfl

def decode? (bytes : List UInt8) : Option (List Char) := (pieces bytes).mapM id

/-- Forgiving reading: each ill-formed piece becomes one replacement character. -/
def decodeLossy (bytes : List UInt8) : List Char :=
  (pieces bytes).map (·.getD (Char.ofNat 0xFFFD))

def encodeChar (c : Char) : List UInt8 :=
  let n := c.toNat
  if n < 0x80 then [n.toUInt8]
  else if n < 0x800 then [(0xC0 + n / 64).toUInt8, (0x80 + n % 64).toUInt8]
  else if n < 0x10000 then
    [(0xE0 + n / 4096).toUInt8, (0x80 + n / 64 % 64).toUInt8, (0x80 + n % 64).toUInt8]
  else
    [(0xF0 + n / 262144).toUInt8, (0x80 + n / 4096 % 64).toUInt8, (0x80 + n / 64 % 64).toUInt8,
      (0x80 + n % 64).toUInt8]

def encode (s : List Char) : List UInt8 := s.flatMap encodeChar

end DpllWatch.Text.Utf8
