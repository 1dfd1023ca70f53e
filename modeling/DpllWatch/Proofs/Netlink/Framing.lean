import DpllWatch.Bytes.Value
import DpllWatch.Netlink.Message

/-! Messages and attributes at the front of other bytes. A record is read back as it was written,
and reading goes on behind its padding. -/

namespace DpllWatch

namespace Bytes

theorem word_append (width n : Nat) (rest : Bytes) :
    word (ofNat width n ++ rest) 0 width = n % 256 ^ width := by
  rw [word, List.drop_zero, List.take_left' (length_ofNat width n), toNat_ofNat]

theorem word_append_of_lt {width n : Nat} (h : n < 256 ^ width) (rest : Bytes) :
    word (ofNat width n ++ rest) 0 width = n := by
  rw [word_append, Nat.mod_eq_of_lt h]

end Bytes

namespace Netlink

@[simp] theorem uint16_ofNat_append (w : UInt16) (rest : Bytes) :
    uint16 (Bytes.ofNat 2 w.toNat ++ rest) = w := by
  rw [uint16, Bytes.word_append_of_lt w.toNat_lt, UInt16.ofNat_toNat]

@[simp] theorem uint32_ofNat_append (w : UInt32) (rest : Bytes) :
    uint32 (Bytes.ofNat 4 w.toNat ++ rest) = w := by
  rw [uint32, Bytes.word_append_of_lt w.toNat_lt, UInt32.ofNat_toNat]

@[simp] theorem uint64_ofNat_append (w : UInt64) (rest : Bytes) :
    uint64 (Bytes.ofNat 8 w.toNat ++ rest) = w := by
  rw [uint64, Bytes.word_append_of_lt w.toNat_lt, UInt64.ofNat_toNat]

theorem align4_eq_self {n : Nat} (h : 4 ∣ n) : align4 n = n := by
  unfold align4
  omega

theorem four_dvd_align4 (n : Nat) : 4 ∣ align4 n := by
  unfold align4
  omega

/-- A message as it travels. Nobody looks at its flags, sequence number and port, nor at the bytes
that pad it. -/
structure Frame where
  kind : UInt16
  flags : UInt16
  sequence : UInt32
  port : UInt32
  payload : Bytes
  padding : Bytes
  fits : headerLength + payload.length < 2 ^ 32
  padded : headerLength + payload.length + padding.length =
    align4 (headerLength + payload.length)

namespace Frame

def length (f : Frame) : Nat := headerLength + f.payload.length

def message (f : Frame) : Message := ⟨f.kind, f.payload⟩

def encode (f : Frame) : Bytes :=
  Bytes.ofNat 4 f.length ++ (Bytes.ofNat 2 f.kind.toNat ++ (Bytes.ofNat 2 f.flags.toNat ++
    (Bytes.ofNat 4 f.sequence.toNat ++ (Bytes.ofNat 4 f.port.toNat ++ (f.payload ++ f.padding)))))

theorem length_encode (f : Frame) : f.encode.length = align4 f.length := by
  have padded := f.padded
  simp only [encode, List.length_append, Bytes.length_ofNat]
  rw [length, ← padded]
  simp only [headerLength]
  omega

theorem word_encode (f : Frame) (rest : Bytes) : (f.encode ++ rest).word 0 4 = f.length := by
  rw [encode, List.append_assoc, Bytes.word_append_of_lt f.fits]

theorem kind_encode (f : Frame) (rest : Bytes) : uint16 ((f.encode ++ rest).drop 4) = f.kind := by
  rw [encode, List.append_assoc, List.drop_left' (Bytes.length_ofNat 4 _), List.append_assoc,
    uint16_ofNat_append]

theorem payload_encode (f : Frame) (rest : Bytes) :
    ((f.encode ++ rest).take f.length).drop headerLength = f.payload := by
  have split : f.encode ++ rest =
      (Bytes.ofNat 4 f.length ++ Bytes.ofNat 2 f.kind.toNat ++ Bytes.ofNat 2 f.flags.toNat ++
        Bytes.ofNat 4 f.sequence.toNat ++ Bytes.ofNat 4 f.port.toNat) ++ f.payload ++
      (f.padding ++ rest) := by
    simp only [encode, List.append_assoc]
  rw [split, List.take_left', List.drop_left'] <;> simp [length, headerLength]
  omega

theorem splitMessages_append (f : Frame) (rest : Bytes) :
    splitMessages (f.encode ++ rest) = (splitMessages rest).map (f.message :: ·) := by
  have whole : f.length ≤ (f.encode ++ rest).length := by
    rw [List.length_append, length_encode]
    exact Nat.le_add_right_of_le (le_align4 _)
  have header : headerLength ≤ f.length := Nat.le_add_right _ _
  rw [splitMessages, dif_neg (by omega)]
  simp only [word_encode]
  rw [dif_neg (by omega), kind_encode, payload_encode, List.drop_left' f.length_encode]
  rfl

theorem splitMessages_flatMap (frames : List Frame) :
    splitMessages (frames.flatMap encode) = .ok (frames.map message) := by
  induction frames with
  | nil =>
      rw [List.flatMap_nil, splitMessages, dif_pos (by decide)]
      rfl
  | cons f rest ih =>
      rw [List.flatMap_cons, splitMessages_append, ih]
      rfl

end Frame

namespace Attribute

/-- The most data that an attribute can hold: its length, header included, is a word of 16 bits. -/
def maxData : Nat := 65531

def plain (a : Attribute) : Attribute := { a with kind := a.kind &&& kindMask }

theorem length_encode (a : Attribute) :
    a.encode.length = align4 (attributeHeaderLength + a.data.length) := by
  have padded := le_align4 (attributeHeaderLength + a.data.length)
  simp only [encode, List.length_append, Bytes.length_ofNat, List.length_replicate]
  simp only [attributeHeaderLength] at padded ⊢
  omega

theorem word_encode {a : Attribute} (short : a.data.length ≤ maxData) (rest : Bytes) :
    (a.encode ++ rest).word 0 2 = attributeHeaderLength + a.data.length := by
  have fits : attributeHeaderLength + a.data.length < 256 ^ 2 := by
    simp only [attributeHeaderLength, maxData] at short ⊢
    omega
  simp only [encode, List.append_assoc]
  exact Bytes.word_append_of_lt fits _

theorem kind_encode (a : Attribute) (rest : Bytes) :
    uint16 ((a.encode ++ rest).drop 2) = a.kind := by
  simp only [encode, List.append_assoc]
  rw [List.drop_left' (Bytes.length_ofNat 2 _), uint16_ofNat_append]

theorem data_encode (a : Attribute) (rest : Bytes) :
    ((a.encode ++ rest).take (attributeHeaderLength + a.data.length)).drop attributeHeaderLength =
      a.data := by
  have header : (Bytes.ofNat 2 (attributeHeaderLength + a.data.length) ++
      Bytes.ofNat 2 a.kind.toNat).length = attributeHeaderLength := by
    simp [attributeHeaderLength]
  simp only [encode]
  rw [List.append_assoc, List.take_left' (by rw [List.length_append, header]),
    List.drop_left' header]

theorem splitAttributes_append {a : Attribute} (short : a.data.length ≤ maxData) (rest : Bytes) :
    splitAttributes (a.encode ++ rest) = a.plain :: splitAttributes rest := by
  have whole : attributeHeaderLength + a.data.length ≤ (a.encode ++ rest).length := by
    rw [List.length_append, length_encode]
    exact Nat.le_add_right_of_le (le_align4 _)
  rw [splitAttributes, dif_neg (by omega)]
  simp only [word_encode short]
  rw [dif_neg (by omega), kind_encode, data_encode, List.drop_left' a.length_encode]
  rfl

theorem splitAttributes_flatMap_append {attributes : List Attribute}
    (short : ∀ a ∈ attributes, a.data.length ≤ maxData) (rest : Bytes) :
    splitAttributes (attributes.flatMap encode ++ rest) =
      attributes.map plain ++ splitAttributes rest := by
  induction attributes with
  | nil => rfl
  | cons a later ih =>
      rw [List.forall_mem_cons] at short
      rw [List.flatMap_cons, List.append_assoc, splitAttributes_append short.1, ih short.2,
        List.map_cons, List.cons_append]

theorem splitAttributes_flatMap {attributes : List Attribute}
    (short : ∀ a ∈ attributes, a.data.length ≤ maxData) :
    splitAttributes (attributes.flatMap encode) = attributes.map plain := by
  have none : splitAttributes [] = [] := by rw [splitAttributes, dif_pos (by decide)]
  have alone := splitAttributes_flatMap_append short []
  rwa [none, List.append_nil, List.append_nil] at alone

theorem four_dvd_length_flatMap (attributes : List Attribute) :
    4 ∣ (attributes.flatMap encode).length := by
  induction attributes with
  | nil => exact Nat.dvd_zero 4
  | cons a rest ih =>
      rw [List.flatMap_cons, List.length_append, length_encode]
      exact Nat.dvd_add (four_dvd_align4 _) ih

end Attribute

namespace Request

def payload (r : Request) : Bytes :=
  [r.command, r.version, 0, 0] ++ r.attributes.flatMap Attribute.encode

theorem length_encode (r : Request) : r.encode.length = headerLength + r.payload.length := by
  simp [encode, payload, headerLength]
  omega

def frame (r : Request) (fits : r.encode.length < 2 ^ 32) : Frame where
  kind := r.family
  flags := r.flags
  sequence := r.sequence
  port := 0
  payload := r.payload
  padding := []
  fits := r.length_encode ▸ fits
  padded := by
    have whole := Attribute.four_dvd_length_flatMap r.attributes
    rw [align4_eq_self]
    · rfl
    · simp only [payload, headerLength, List.length_append, List.length_cons, List.length_nil]
      omega

theorem frame_encode (r : Request) (fits : r.encode.length < 2 ^ 32) :
    (r.frame fits).encode = r.encode := by
  simp only [Frame.encode, Request.encode, List.append_assoc]
  simp only [frame, Frame.length, payload, List.append_nil]
  rfl

/-- A request is read back as one message exactly if its length fits the length word: a longer one
announces a shorter message, or none. -/
theorem splitMessages_encode_iff (r : Request) :
    splitMessages r.encode = .ok [⟨r.family, r.payload⟩] ↔ r.encode.length < 2 ^ 32 := by
  constructor
  · intro read
    have size := r.length_encode
    have announced : r.encode.word 0 4 = r.encode.length % 2 ^ 32 := by
      have wraps := Bytes.word_append 4 r.encode.length
      rw [size] at wraps ⊢
      simp only [encode, List.append_assoc]
      exact wraps _
    rw [splitMessages, dif_neg (by omega)] at read
    simp only [announced] at read
    split at read
    · nomatch read
    rename_i whole
    -- The payload read back has the announced length: it is all there only if nothing wrapped.
    have first : ((r.encode.take (r.encode.length % 2 ^ 32)).drop headerLength).length =
        r.payload.length := by
      cases later : splitMessages (r.encode.drop (align4 (r.encode.length % 2 ^ 32))) with
      | error fault =>
          rw [later] at read
          nomatch read
      | ok messages =>
          rw [later] at read
          simp only [Except.map, Except.ok.injEq, List.cons.injEq, Message.mk.injEq] at read
          rw [read.1.2]
    rw [List.length_drop, List.length_take_of_le (Nat.mod_le _ _)] at first
    omega
  · intro fits
    have single := Frame.splitMessages_flatMap [r.frame fits]
    rw [List.flatMap_singleton, frame_encode] at single
    exact single

end Request

end Netlink

end DpllWatch
