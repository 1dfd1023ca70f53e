import DpllWatch.Proofs.Netlink.Checked
import DpllWatch.Proofs.Netlink.Framing

/-! What the splitters read, said of the bytes alone. Messages and attributes are records: a header
that starts with the length, data, and padding that only the end of the bytes may cut short. Bytes
are records up to one place, and neither splitter reads less or goes further. -/

namespace DpllWatch.Netlink

/-- The header of a kind of records, and how much of it the length word takes. -/
structure Layout where
  header : Nat
  width : Nat
  positive : 0 < header
  inside : width ≤ header

namespace Layout

def messages : Layout := ⟨headerLength, 4, by decide, by decide⟩

def attributes : Layout := ⟨attributeHeaderLength, 2, by decide, by decide⟩

end Layout

/-- A record with as much of its padding as there is. -/
structure Record (layout : Layout) where
  bytes : Bytes
  padding : Bytes
  header : layout.header ≤ bytes.length
  announced : bytes.word 0 layout.width = bytes.length
  padded : bytes.length + padding.length ≤ align4 bytes.length

structure Begins (layout : Layout) (buffer : Bytes) : Prop where
  header : layout.header ≤ buffer.word 0 layout.width
  whole : buffer.word 0 layout.width ≤ buffer.length

variable {layout : Layout} {buffer rest : Bytes}

namespace Record

def written (r : Record layout) : Bytes := r.bytes ++ r.padding

def Whole (r : Record layout) : Prop := r.bytes.length + r.padding.length = align4 r.bytes.length

def toMessage (r : Record .messages) : Message :=
  ⟨UInt16.ofNat (r.bytes.word 4 2), r.bytes.drop headerLength⟩

def toAttribute (r : Record .attributes) : Attribute :=
  ⟨UInt16.ofNat (r.bytes.word 2 2 % 2 ^ 14), r.bytes.drop attributeHeaderLength⟩

theorem length_written_le (r : Record layout) : r.written.length ≤ align4 r.bytes.length := by
  rw [written, List.length_append]
  exact r.padded

theorem written_ne_nil (r : Record layout) : r.written ≠ [] := by
  have positive : 0 < r.bytes.length := Nat.lt_of_lt_of_le layout.positive r.header
  exact List.append_ne_nil_of_left_ne_nil (List.ne_nil_of_length_pos positive) _

theorem ext_written {r s : Record layout} (bytes : r.bytes = s.bytes)
    (written : r.written = s.written) : r = s := by
  cases r
  cases s
  subst bytes
  simpa [Record.written] using written

def first (begins : Begins layout buffer) : Record layout where
  bytes := buffer.take (buffer.word 0 layout.width)
  padding := (buffer.take (align4 (buffer.word 0 layout.width))).drop (buffer.word 0 layout.width)
  header := by
    rw [List.length_take_of_le begins.whole]
    exact begins.header
  announced := by
    have inside : layout.width ≤ buffer.word 0 layout.width := layout.inside.trans begins.header
    rw [Bytes.word_take (by rwa [Nat.zero_add]), List.length_take_of_le begins.whole]
  padded := by
    have reach := le_align4 (buffer.word 0 layout.width)
    rw [List.length_take_of_le begins.whole, List.length_drop, List.length_take]
    omega

theorem length_first (begins : Begins layout buffer) :
    (first begins).bytes.length = buffer.word 0 layout.width :=
  List.length_take_of_le begins.whole

theorem written_first (begins : Begins layout buffer) :
    (first begins).written = buffer.take (align4 (buffer.word 0 layout.width)) := by
  have reach := le_align4 (buffer.word 0 layout.width)
  have split := List.take_append_drop (buffer.word 0 layout.width)
    (buffer.take (align4 (buffer.word 0 layout.width)))
  rwa [List.take_take, Nat.min_eq_left reach] at split

theorem whole_first (begins : Begins layout buffer) :
    (first begins).Whole ∨ buffer.drop (align4 (buffer.word 0 layout.width)) = [] := by
  rcases Nat.lt_or_ge buffer.length (align4 (buffer.word 0 layout.width)) with cut | whole
  · exact .inr (List.drop_eq_nil_of_le cut.le)
  · have full := congrArg List.length (written_first begins)
    rw [written, List.length_append, List.length_take_of_le whole] at full
    rw [Whole, full, length_first]
    exact .inl rfl

theorem ofNat_and_kindMask (n : Nat) : UInt16.ofNat n &&& kindMask = UInt16.ofNat (n % 2 ^ 14) := by
  have mask : kindMask.toNat = 2 ^ 14 - 1 := rfl
  rw [← UInt16.toNat_inj, UInt16.toNat_and, mask, Nat.and_two_pow_sub_one_eq_mod,
    UInt16.toNat_ofNat', UInt16.toNat_ofNat']
  omega

theorem toMessage_first (begins : Begins .messages buffer) :
    (first begins).toMessage = ⟨uint16 (buffer.drop 4),
      (buffer.take (buffer.word 0 4)).drop headerLength⟩ := by
  have header : headerLength ≤ buffer.word 0 4 := begins.header
  have kind : UInt16.ofNat (Bytes.word (buffer.take (buffer.word 0 4)) 4 2) =
      uint16 (buffer.drop 4) := by
    rw [Bytes.word_take (Nat.le_trans (by decide) header)]
    rfl
  rw [← kind]
  rfl

theorem toAttribute_first (begins : Begins .attributes buffer) :
    (first begins).toAttribute = ⟨uint16 (buffer.drop 2) &&& kindMask,
      (buffer.take (buffer.word 0 2)).drop attributeHeaderLength⟩ := by
  have kind : UInt16.ofNat (Bytes.word (buffer.take (buffer.word 0 2)) 2 2 % 2 ^ 14) =
      uint16 (buffer.drop 2) &&& kindMask := by
    rw [Bytes.word_take begins.header, ← ofNat_and_kindMask]
    rfl
  rw [← kind]
  rfl

end Record

/-- Nothing stands behind a record whose padding is cut short. -/
def Strung (rest : Bytes) : List (Record layout) → Prop
  | [] => True
  | r :: later => (r.Whole ∨ later = [] ∧ rest = []) ∧ Strung rest later

/-- The bytes are these records, one behind the other, and then `rest`. -/
structure Reads (buffer : Bytes) (records : List (Record layout)) (rest : Bytes) : Prop where
  bytes : buffer = records.flatMap Record.written ++ rest
  strung : Strung rest records

theorem reads_nil_iff : Reads buffer ([] : List (Record layout)) rest ↔ rest = buffer :=
  ⟨fun reads => reads.bytes.symm, fun same => ⟨same.symm, trivial⟩⟩

theorem take_drop_append {front back : Bytes} {count : Nat} (short : front.length ≤ count)
    (ends : front.length = count ∨ back = []) :
    (front ++ back).take count = front ∧ (front ++ back).drop count = back := by
  rcases ends with exact | rfl
  · exact ⟨List.take_left' exact, List.drop_left' exact⟩
  · rw [List.append_nil]
    exact ⟨List.take_of_length_le short, List.drop_eq_nil_of_le short⟩

theorem Reads.front {r : Record layout} {later : List (Record layout)}
    (reads : Reads buffer (r :: later) rest) : buffer.word 0 layout.width = r.bytes.length ∧
      buffer.take r.bytes.length = r.bytes ∧ buffer.take (align4 r.bytes.length) = r.written ∧
      buffer.drop (align4 r.bytes.length) = later.flatMap Record.written ++ rest := by
  obtain ⟨bytes, whole, _⟩ := reads
  rw [List.flatMap_cons, List.append_assoc] at bytes
  have ends : r.written.length = align4 r.bytes.length ∨
      later.flatMap Record.written ++ rest = [] := by
    rcases whole with whole | ⟨rfl, rfl⟩
    · exact .inl (by rw [Record.written, List.length_append, whole])
    · exact .inr rfl
  have split := take_drop_append r.length_written_le ends
  rw [← bytes] at split
  have front : buffer.take r.bytes.length = r.bytes := by
    rw [bytes, Record.written, List.append_assoc, List.take_left]
  have inside : 0 + layout.width ≤ r.bytes.length := by
    rw [Nat.zero_add]
    exact layout.inside.trans r.header
  refine ⟨?_, front, split⟩
  rw [← Bytes.word_take inside, front, r.announced]

theorem reads_cons_iff {r : Record layout} {later : List (Record layout)} :
    Reads buffer (r :: later) rest ↔ ∃ begins : Begins layout buffer, r = .first begins ∧
      Reads (buffer.drop (align4 (buffer.word 0 layout.width))) later rest := by
  constructor
  · intro reads
    obtain ⟨length, bytes, written, behind⟩ := reads.front
    have begins : Begins layout buffer := by
      constructor
      · rw [length]
        exact r.header
      · rw [length, ← bytes]
        exact List.length_take_le' _ _
    refine ⟨begins, Record.ext_written ?_ ?_, ?_, reads.strung.2⟩
    · rw [← bytes, ← length]
      rfl
    · rw [Record.written_first, length, written]
    · rw [length, behind]
  · rintro ⟨begins, rfl, bytes, strung⟩
    refine ⟨?_, ?_, strung⟩
    · rw [List.flatMap_cons, List.append_assoc, ← bytes, Record.written_first,
        List.take_append_drop]
    · refine (Record.whole_first begins).imp_right fun none => ?_
      rw [none, eq_comm, List.append_eq_nil_iff, List.flatMap_eq_nil_iff] at bytes
      refine ⟨List.eq_nil_iff_forall_not_mem.2 fun r member => ?_, bytes.2⟩
      exact r.written_ne_nil (bytes.1 r member)

theorem exists_reads (layout : Layout) (buffer : Bytes) :
    ∃ (records : List (Record layout)) (rest : Bytes),
      Reads buffer records rest ∧ ¬Begins layout rest := by
  induction size : buffer.length using Nat.strongRecOn generalizing buffer with
  | _ n ih =>
      by_cases begins : Begins layout buffer
      · have positive := layout.positive
        have header := begins.header
        have whole := begins.whole
        have reach := le_align4 (buffer.word 0 layout.width)
        have shorter : (buffer.drop (align4 (buffer.word 0 layout.width))).length < n := by
          rw [List.length_drop]
          omega
        obtain ⟨later, rest, reads, ended⟩ := ih _ shorter _ rfl
        exact ⟨.first begins :: later, rest, reads_cons_iff.2 ⟨begins, rfl, reads⟩, ended⟩
      · exact ⟨[], buffer, reads_nil_iff.2 rfl, begins⟩

theorem Reads.isPrefix {records records' : List (Record layout)} {rest' : Bytes}
    (reads : Reads buffer records rest) (ended : ¬Begins layout rest)
    (others : Reads buffer records' rest') : records' <+: records := by
  induction records' generalizing buffer records with
  | nil => exact List.nil_prefix
  | cons r' later' ih =>
      obtain ⟨begins, rfl, others'⟩ := reads_cons_iff.1 others
      cases records with
      | nil => exact absurd (reads_nil_iff.1 reads ▸ begins) ended
      | cons r later =>
          obtain ⟨_, rfl, reads'⟩ := reads_cons_iff.1 reads
          exact List.cons_prefix_cons.2 ⟨rfl, ih reads' others'⟩

/-! ## The splitters -/

theorem splitMessages_of_begins (begins : Begins .messages buffer) :
    splitMessages buffer =
      (splitMessages (buffer.drop (align4 (buffer.word 0 Layout.messages.width)))).map
        ((Record.first begins).toMessage :: ·) := by
  have header : headerLength ≤ buffer.word 0 4 := begins.header
  have whole : buffer.word 0 4 ≤ buffer.length := begins.whole
  rw [splitMessages, dif_neg (by omega)]
  dsimp only
  rw [dif_neg (by omega), Record.toMessage_first]
  rfl

theorem splitAttributes_of_begins (begins : Begins .attributes buffer) :
    splitAttributes buffer = (Record.first begins).toAttribute ::
      splitAttributes (buffer.drop (align4 (buffer.word 0 Layout.attributes.width))) := by
  have header : attributeHeaderLength ≤ buffer.word 0 2 := begins.header
  have whole : buffer.word 0 2 ≤ buffer.length := begins.whole
  rw [splitAttributes, dif_neg (by omega)]
  dsimp only
  rw [dif_neg (by omega), Record.toAttribute_first]
  rfl

theorem splitMessages_of_not_begins (ended : ¬Begins .messages buffer) :
    splitMessages buffer = if buffer.length < headerLength then .ok []
      else .error (.badLength (buffer.word 0 4) buffer.length) := by
  rw [splitMessages]
  split
  · rfl
  · rw [dif_pos]
    by_contra good
    rw [not_or, Nat.not_lt, Nat.not_lt] at good
    exact ended ⟨good.1, good.2⟩

theorem splitAttributes_of_not_begins (ended : ¬Begins .attributes buffer) :
    splitAttributes buffer = [] := by
  rw [splitAttributes]
  split
  · rfl
  · rw [dif_pos]
    by_contra good
    rw [not_or, Nat.not_lt, Nat.not_lt] at good
    exact ended ⟨good.1, good.2⟩

theorem Reads.splitMessages_eq {records : List (Record .messages)}
    (reads : Reads buffer records rest) :
    splitMessages buffer = (splitMessages rest).map (records.map Record.toMessage ++ ·) := by
  induction records generalizing buffer with
  | nil =>
      rw [reads_nil_iff.1 reads]
      cases splitMessages buffer <;> rfl
  | cons r later ih =>
      obtain ⟨begins, rfl, reads'⟩ := reads_cons_iff.1 reads
      rw [splitMessages_of_begins begins, ih reads']
      cases splitMessages rest <;> rfl

theorem Reads.splitAttributes_eq {records : List (Record .attributes)}
    (reads : Reads buffer records rest) :
    splitAttributes buffer = records.map Record.toAttribute ++ splitAttributes rest := by
  induction records generalizing buffer with
  | nil => rw [reads_nil_iff.1 reads, List.map_nil, List.nil_append]
  | cons r later ih =>
      obtain ⟨begins, rfl, reads'⟩ := reads_cons_iff.1 reads
      rw [splitAttributes_of_begins begins, ih reads', List.map_cons, List.cons_append]

theorem Record.reads (r : Record layout) (ends : r.Whole ∨ rest = []) :
    Reads (r.written ++ rest) [r] rest := by
  refine ⟨?_, ends.imp_right fun none => ⟨rfl, none⟩, trivial⟩
  rw [List.flatMap_singleton]

theorem reads_of_whole {records : List (Record layout)} (whole : ∀ r ∈ records, r.Whole)
    (rest : Bytes) : Reads (records.flatMap Record.written ++ rest) records rest := by
  refine ⟨rfl, ?_⟩
  induction records with
  | nil => trivial
  | cons r later ih =>
      rw [List.forall_mem_cons] at whole
      exact ⟨.inl whole.1, ih whole.2⟩

def Holds (buffer : Bytes) (records : List (Record .messages)) : Prop :=
  ∃ tail, Reads buffer records tail ∧ tail.length < headerLength

theorem Holds.splitMessages_eq {records : List (Record .messages)} (holds : Holds buffer records) :
    splitMessages buffer = .ok (records.map Record.toMessage) := by
  obtain ⟨tail, reads, short⟩ := holds
  rw [reads.splitMessages_eq, splitMessages, dif_pos short]
  exact congrArg Except.ok (List.append_nil _)

theorem holds_of_splitMessages {messages : List Message}
    (read : splitMessages buffer = .ok messages) : ∃ records, Holds buffer records := by
  obtain ⟨records, rest, reads, ended⟩ := exists_reads .messages buffer
  rw [reads.splitMessages_eq, splitMessages_of_not_begins ended] at read
  split at read
  · next short => exact ⟨records, rest, reads, short⟩
  · nomatch read

/-- On any bytes the splitters answer. Messages are read exactly from bytes that are messages and
then less than a header. Attributes are read up to where none begins, so that behind whole ones
they are read as if they stood alone. -/
theorem split_into_records (buffer : Bytes) :
    Checked.messages buffer = (splitMessages buffer).mapError .ofError ∧
      Checked.attributes buffer = pure (splitAttributes buffer) ∧
      (∀ messages, splitMessages buffer = .ok messages ↔
        ∃ records, Holds buffer records ∧ records.map Record.toMessage = messages) ∧
      ((∃ error, splitMessages buffer = .error error) ↔ ¬∃ records, Holds buffer records) ∧
      (∃ (records : List (Record .attributes)) (rest : Bytes), Reads buffer records rest ∧
        splitAttributes buffer = records.map Record.toAttribute ∧
        ∀ records' rest', Reads buffer records' rest' → records' <+: records) ∧
      (∀ (records : List (Record .attributes)) (rest : Bytes), (∀ r ∈ records, r.Whole) →
        splitAttributes (records.flatMap Record.written ++ rest) =
          records.map Record.toAttribute ++ splitAttributes rest) ∧
      ∀ (attributes : List Attribute) (rest : Bytes),
        (∀ a ∈ attributes, a.data.length ≤ Attribute.maxData) →
          splitAttributes (attributes.flatMap Attribute.encode ++ rest) =
            attributes.map Attribute.plain ++ splitAttributes rest := by
  refine ⟨Checked.messages_eq buffer, Checked.attributes_eq buffer, fun messages => ?accepted,
    ?refused, ?maximal, fun records rest whole => (reads_of_whole whole rest).splitAttributes_eq,
    fun attributes rest short => Attribute.splitAttributes_flatMap_append short rest⟩
  case accepted =>
    constructor
    · intro read
      obtain ⟨records, holds⟩ := holds_of_splitMessages read
      rw [holds.splitMessages_eq] at read
      exact ⟨records, holds, Except.ok.inj read⟩
    · rintro ⟨records, holds, rfl⟩
      exact holds.splitMessages_eq
  case refused =>
    cases read : splitMessages buffer with
    | error e =>
        refine iff_of_true ⟨e, rfl⟩ fun ⟨records, holds⟩ => ?_
        rw [holds.splitMessages_eq] at read
        nomatch read
    | ok messages => exact iff_of_false nofun (not_not.2 (holds_of_splitMessages read))
  case maximal =>
    obtain ⟨records, rest, reads, ended⟩ := exists_reads .attributes buffer
    refine ⟨records, rest, reads, ?_, fun records' rest' => reads.isPrefix ended⟩
    rw [reads.splitAttributes_eq, splitAttributes_of_not_begins ended, List.append_nil]

theorem split_into_records_cut :
    splitMessages [17, 0, 0, 0, 3, 0, 0, 0, 0, 0, 0, 0, 0, 0, 0, 0, 255, 0] = .ok [⟨3, [255]⟩] ∧
      splitAttributes (Attribute.encode ⟨0x8005, [7]⟩ ++ [4, 0, 1]) =
        ⟨5, [7]⟩ :: splitAttributes [4, 0, 1] := by
  have read := split_into_records
    [17, 0, 0, 0, 3, 0, 0, 0, 0, 0, 0, 0, 0, 0, 0, 0, 255, 0]
  obtain ⟨-, -, accepted, -, -, -, encoded⟩ := read
  let cut : Record .messages :=
    ⟨[17, 0, 0, 0, 3, 0, 0, 0, 0, 0, 0, 0, 0, 0, 0, 0, 255], [0], by decide, by decide, by decide⟩
  have holds : Holds (cut.written ++ []) [cut] := ⟨[], cut.reads (.inr rfl), by decide⟩
  refine ⟨(accepted _).2 ⟨[cut], holds, by decide⟩, ?_⟩
  exact encoded [⟨0x8005, [7]⟩] [4, 0, 1] (by decide)

end DpllWatch.Netlink
