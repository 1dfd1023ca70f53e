import DpllWatch.Bytes.Value
import DpllWatch.Netlink.Family
import Mathlib.Data.Nat.Bitwise

/-! The decoders with every check that the machine makes: on the bounds of a read, on the range of
a sum and of a negation, and on the number of rounds that a walk takes. On any bytes they answer
what they answer without the checks, but for an error message whose code has no negation. -/

namespace DpllWatch

namespace Netlink

/-- What ends a decoder before it has read everything. Only the first is an answer. -/
inductive Stop where
  | answered (error : DecodeError)
  | outOfBounds
  | overflow
  | stalled
deriving DecidableEq, Repr

def Stop.ofError : DecodeError → Stop
  | .codeOverflow => .overflow
  | error => .answered error

namespace Checked

def slice (b : Bytes) (start stop : Nat) : Except Stop Bytes :=
  if start ≤ stop ∧ stop ≤ b.length then pure ((b.take stop).drop start) else throw .outOfBounds

def byte (b : Bytes) (index : Nat) : Except Stop UInt8 :=
  match b[index]? with
  | some value => pure value
  | none => throw .outOfBounds

def word (b : Bytes) (width : Nat) : Except Stop Nat := return (← slice b 0 width).toNat

def wordAt (b : Bytes) (start width : Nat) : Except Stop Nat := do
  word (← slice b start (start + width)) width

def add (m n : Nat) : Except Stop Nat := if m + n < 2 ^ 64 then pure (m + n) else throw .overflow

def align4 (n : Nat) : Except Stop Nat := return (← add n 3) &&& (2 ^ 64 - 1 - 3)

def behind (b : Bytes) (length : Nat) : Except Stop Bytes := do
  slice b (min (← align4 length) b.length) b.length

def negate (code : Int32) : Except Stop Int32 :=
  if code = Int32.minValue then throw .overflow else pure (-code)

/-- The walk over the messages of a buffer, in so many rounds at most. -/
def splitMessages : (rounds : Nat) → Bytes → Except Stop (List Message)
  | 0, buffer => if buffer.length < headerLength then pure [] else throw .stalled
  | rounds + 1, buffer => do
    if buffer.length < headerLength then return []
    else
      let length ← wordAt buffer 0 4
      if length < headerLength ∨ buffer.length < length then
        throw (.answered (.badLength length buffer.length))
      else
        let kind ← wordAt buffer 4 2
        let payload ← slice buffer headerLength length
        let rest ← behind buffer length
        return ⟨UInt16.ofNat kind, payload⟩ :: (← splitMessages rounds rest)

/-- As many rounds as there are headers. -/
def messages (buffer : Bytes) : Except Stop (List Message) :=
  splitMessages (buffer.length / headerLength) buffer

def splitAttributes : (rounds : Nat) → Bytes → Except Stop (List Attribute)
  | 0, b => if b.length < attributeHeaderLength then pure [] else throw .stalled
  | rounds + 1, b => do
    if b.length < attributeHeaderLength then return []
    else
      let length ← wordAt b 0 2
      if length < attributeHeaderLength ∨ b.length < length then return []
      else
        let kind ← wordAt b 2 2
        let data ← slice b attributeHeaderLength length
        let rest ← behind b length
        return ⟨UInt16.ofNat kind &&& kindMask, data⟩ :: (← splitAttributes rounds rest)

def attributes (b : Bytes) : Except Stop (List Attribute) :=
  splitAttributes (b.length / attributeHeaderLength) b

def uint32? (data : Bytes) : Except Stop (Option UInt32) :=
  if data.length < 4 then pure none else return some (UInt32.ofNat (← word data 4))

def uint64? (data : Bytes) : Except Stop (Option UInt64) :=
  if data.length < 8 then pure none else return some (UInt64.ofNat (← word data 8))

def name (data : Bytes) : Except Stop String := do
  let kept ← slice data 0 (data.findIdx (· == 0))
  return String.ofList (Text.Utf8.decodeLossy kept)

def checkError (payload : Bytes) : Except Stop Unit :=
  if payload.length < 4 then throw (.answered .truncatedError)
  else do
    let code := (UInt32.ofNat (← wordAt payload 0 4)).toInt32
    if code = 0 then return ()
    else
      let _errno ← negate code
      throw (.answered (.refused code))

def deviceWith (d : Device) (a : Attribute) : Except Stop Device := do
  if a.kind = Device.idKind then return { d with id := (← uint32? a.data).getD 0 }
  else if a.kind = Device.moduleNameKind then return { d with moduleName := ← name a.data }
  else if a.kind = Device.clockIdKind then return { d with clockId := (← uint64? a.data).getD 0 }
  else if a.kind = Device.modeKind then return { d with mode := (← uint32? a.data).getD 0 }
  else if a.kind = Device.lockKind then return { d with lock := (← uint32? a.data).getD 0 }
  else if a.kind = Device.typeKind then return { d with kindCode := (← uint32? a.data).getD 0 }
  else return d

def device (b : Bytes) : Except Stop Device := do
  (← attributes b).foldlM deviceWith Device.blank

def batchWith (family : UInt16) (batch : Batch) (m : Message) : Except Stop Batch := do
  if m.kind = Message.doneKind then return { batch with done := true }
  else if m.kind = Message.errorKind then
    checkError m.payload
    return batch
  else if m.kind = family ∧ genericHeaderLength ≤ m.payload.length then
    let command ← byte m.payload 0
    if command = getCommand ∨ command = createdCommand ∨ command = changedCommand then
      let d ← device (← slice m.payload genericHeaderLength m.payload.length)
      return { batch with devices := batch.devices ++ [d] }
    else return batch
  else return batch

def decodeBatch (buffer : Bytes) (family : UInt16) : Except Stop Batch := do
  (← messages buffer).foldlM (batchWith family) Batch.empty

def groupNameWith (name? : Option String) (a : Attribute) : Except Stop (Option String) :=
  if a.kind = Family.groupNameKind then return some (← name a.data) else pure name?

def groupIdWith (id? : Option UInt32) (a : Attribute) : Except Stop (Option UInt32) :=
  if a.kind = Family.groupIdKind then uint32? a.data else pure id?

def groupsWith (groups : Table UInt32) (a : Attribute) : Except Stop (Table UInt32) := do
  let attributes ← attributes a.data
  let name? ← attributes.foldlM groupNameWith none
  let id? ← attributes.foldlM groupIdWith none
  match name?, id? with
  | some name, some id => return groups.put name id
  | _, _ => return groups

def familyWith (f : Family) (a : Attribute) : Except Stop Family := do
  if a.kind = Family.familyIdKind ∧ 2 ≤ a.data.length then
    return { f with id := UInt16.ofNat (← word a.data 2) }
  else if a.kind = Family.groupsKind then
    return { f with groups := ← (← attributes a.data).foldlM groupsWith f.groups }
  else return f

def findFamily : List Message → Except Stop (Option Family)
  | [] => return none
  | m :: rest => do
    if m.kind = Message.errorKind then
      checkError m.payload
      findFamily rest
    else if m.kind = Family.controllerId ∧ genericHeaderLength ≤ m.payload.length then
      let attributes ← attributes (← slice m.payload genericHeaderLength m.payload.length)
      let family ← attributes.foldlM familyWith Family.blank
      if family.id = 0 then findFamily rest else return some family
    else findFamily rest

def decodeFamily (buffer : Bytes) : Except Stop (Option Family) := do
  findFamily (← messages buffer)

/-! ## Reads -/

theorem slice_eq {b : Bytes} {start stop : Nat} (order : start ≤ stop) (within : stop ≤ b.length) :
    slice b start stop = pure ((b.take stop).drop start) :=
  if_pos ⟨order, within⟩

theorem byte_eq {b : Bytes} {index : Nat} (within : index < b.length) :
    byte b index = pure b[index] := by
  rw [byte, List.getElem?_eq_getElem within]

theorem word_eq {b : Bytes} {width : Nat} (within : width ≤ b.length) :
    word b width = pure (b.word 0 width) := by
  rw [word, slice_eq (Nat.zero_le _) within, pure_bind]
  rfl

theorem wordAt_eq {b : Bytes} {start width : Nat} (within : start + width ≤ b.length) :
    wordAt b start width = pure (Bytes.word (b.drop start) 0 width) := by
  rw [wordAt, slice_eq (Nat.le_add_right _ _) within, pure_bind, word_eq]
  · simp [Bytes.word, List.drop_take, List.take_take]
  · simp
    omega

theorem and_low_bits {n : Nat} (fits : n < 2 ^ 64) : n &&& (2 ^ 64 - 1 - 3) = n / 4 * 4 := by
  have mask : 2 ^ 64 - 1 - 3 = (2 ^ 62 - 1) * 2 ^ 2 := by decide
  apply Nat.eq_of_testBit_eq
  intro i
  rw [mask, show n / 4 * 4 = n / 2 ^ 2 * 2 ^ 2 from rfl]
  simp only [Nat.testBit_and, Nat.testBit_mul_two_pow, Nat.testBit_div_two_pow,
    Nat.testBit_two_pow_sub_one]
  by_cases low : 2 ≤ i
  · by_cases high : i < 64
    · have inside : i - 2 < 62 := by omega
      simp [low, inside]
    · have clear : n.testBit i = false :=
        Nat.testBit_lt_two_pow (fits.trans_le (Nat.pow_le_pow_right (by decide) (by omega)))
      simp [low, clear]
  · simp [low]

theorem align4_eq {n : Nat} (fits : n + 3 < 2 ^ 64) : align4 n = pure (Netlink.align4 n) := by
  rw [align4, add, if_pos fits, pure_bind, and_low_bits fits]
  rfl

theorem behind_eq (b : Bytes) {length : Nat} (fits : length + 3 < 2 ^ 64) :
    behind b length = pure (b.drop (Netlink.align4 length)) := by
  rw [behind, align4_eq fits, pure_bind, slice_eq (Nat.min_le_right _ _) (Nat.le_refl _),
    List.take_length]
  rcases Nat.le_total (Netlink.align4 length) b.length with inside | outside
  · rw [Nat.min_eq_left inside]
  · rw [Nat.min_eq_right outside, List.drop_length, List.drop_eq_nil_of_le outside]

/-! ## Walks

Each round of a walk consumes a header at least, so that a walk never runs out of rounds. -/

theorem splitMessages_eq {rounds : Nat} {buffer : Bytes}
    (enough : buffer.length < headerLength * (rounds + 1)) :
    splitMessages rounds buffer = (Netlink.splitMessages buffer).mapError .ofError := by
  induction rounds generalizing buffer with
  | zero =>
      rw [Nat.zero_add, Nat.mul_one] at enough
      rw [splitMessages, if_pos enough, Netlink.splitMessages, dif_pos enough]
      rfl
  | succ rounds ih =>
      rw [Nat.mul_add_one] at enough
      rw [splitMessages, Netlink.splitMessages]
      by_cases short : buffer.length < headerLength
      · rw [if_pos short, dif_pos short]
        rfl
      rw [if_neg short, dif_neg short]
      have header : headerLength = 16 := rfl
      have fits := buffer.word_lt 0 4
      rw [wordAt_eq (by omega), pure_bind, List.drop_zero]
      by_cases bad : buffer.word 0 4 < headerLength ∨ buffer.length < buffer.word 0 4
      · rw [if_pos bad, dif_pos bad]
        rfl
      rw [if_neg bad, dif_neg bad]
      have consumed := le_align4 (buffer.word 0 4)
      rw [wordAt_eq (by omega), pure_bind, slice_eq (by omega) (by omega), pure_bind,
        behind_eq _ (by omega), pure_bind, ih (by rw [List.length_drop]; omega)]
      cases Netlink.splitMessages (buffer.drop (Netlink.align4 (buffer.word 0 4))) <;> rfl

theorem messages_eq (buffer : Bytes) :
    messages buffer = (Netlink.splitMessages buffer).mapError .ofError :=
  splitMessages_eq (Nat.lt_mul_div_succ _ (by decide))

theorem splitAttributes_eq {rounds : Nat} {b : Bytes}
    (enough : b.length < attributeHeaderLength * (rounds + 1)) :
    splitAttributes rounds b = pure (Netlink.splitAttributes b) := by
  induction rounds generalizing b with
  | zero =>
      rw [Nat.zero_add, Nat.mul_one] at enough
      rw [splitAttributes, if_pos enough, Netlink.splitAttributes, dif_pos enough]
  | succ rounds ih =>
      rw [Nat.mul_add_one] at enough
      rw [splitAttributes, Netlink.splitAttributes]
      by_cases short : b.length < attributeHeaderLength
      · rw [if_pos short, dif_pos short]
      rw [if_neg short, dif_neg short]
      have header : attributeHeaderLength = 4 := rfl
      have fits := b.word_lt 0 2
      rw [wordAt_eq (by omega), pure_bind, List.drop_zero]
      by_cases bad : b.word 0 2 < attributeHeaderLength ∨ b.length < b.word 0 2
      · rw [if_pos bad, dif_pos bad]
      rw [if_neg bad, dif_neg bad]
      have consumed := le_align4 (b.word 0 2)
      rw [wordAt_eq (by omega), pure_bind, slice_eq (by omega) (by omega), pure_bind,
        behind_eq _ (by omega), pure_bind, ih (by rw [List.length_drop]; omega), pure_bind]
      rfl

theorem attributes_eq (b : Bytes) : attributes b = pure (Netlink.splitAttributes b) :=
  splitAttributes_eq (Nat.lt_mul_div_succ _ (by decide))

/-! ## Fields -/

theorem uint32?_eq (a : Attribute) : uint32? a.data = pure a.uint32? := by
  rw [uint32?, Attribute.uint32?]
  split
  · rfl
  · rw [word_eq (by omega), pure_bind]
    rfl

theorem uint64?_eq (a : Attribute) : uint64? a.data = pure a.uint64? := by
  rw [uint64?, Attribute.uint64?]
  split
  · rfl
  · rw [word_eq (by omega), pure_bind]
    rfl

theorem name_eq (data : Bytes) : name data = pure (Device.nameOf data) := by
  rw [name, slice_eq (Nat.zero_le _) List.findIdx_le_length, pure_bind, Device.nameOf,
    List.takeWhile_eq_take_findIdx_not, List.drop_zero]
  simp only [bne, Bool.not_not]

theorem deviceWith_eq (d : Device) (a : Attribute) : deviceWith d a = pure (d.withAttribute a) := by
  simp only [deviceWith, uint32?_eq, uint64?_eq, name_eq, pure_bind, Device.withAttribute]
  split_ifs <;> rfl

theorem device_eq (b : Bytes) : device b = pure (Device.ofAttributes b) := by
  rw [device, attributes_eq, pure_bind, funext₂ deviceWith_eq, List.foldlM_pure]
  rfl

theorem groupsWith_eq (groups : Table UInt32) (a : Attribute) :
    groupsWith groups a = pure (match Family.group? a.data with
      | some g => groups.put g.1 g.2
      | none => groups) := by
  have names (name? : Option String) (a : Attribute) : groupNameWith name? a =
      pure (if a.kind = Family.groupNameKind then some (Device.nameOf a.data) else name?) := by
    rw [groupNameWith, name_eq, pure_bind]
    split <;> rfl
  have ids (id? : Option UInt32) (a : Attribute) : groupIdWith id? a =
      pure (if a.kind = Family.groupIdKind then a.uint32? else id?) := by
    rw [groupIdWith, uint32?_eq]
    split <;> rfl
  rw [groupsWith, attributes_eq, pure_bind, funext₂ names, List.foldlM_pure, pure_bind,
    funext₂ ids, List.foldlM_pure, pure_bind]
  simp only [Family.group?]
  generalize List.foldl _ (none : Option String) _ = name?
  generalize List.foldl _ (none : Option UInt32) _ = id?
  cases name? <;> cases id? <;> rfl

theorem familyWith_eq (f : Family) (a : Attribute) : familyWith f a = pure (f.withAttribute a) := by
  rw [familyWith, Family.withAttribute]
  split
  · next numbered =>
    rw [word_eq numbered.2, pure_bind]
    rfl
  split
  · rw [attributes_eq, pure_bind, funext₂ groupsWith_eq, List.foldlM_pure, pure_bind,
      Family.addGroups, List.foldl_filterMap]
    congr
    funext groups a
    cases Family.group? a.data <;> rfl
  · rfl

/-! ## Messages -/

theorem checkError_eq (payload : Bytes) :
    checkError payload = (Message.checkError payload).mapError .ofError := by
  rw [checkError, Message.checkError]
  split
  · rfl
  rw [wordAt_eq (by omega), pure_bind, List.drop_zero, ← uint32]
  dsimp only
  generalize (uint32 payload).toInt32 = code
  by_cases acknowledged : code = 0
  · rw [if_pos acknowledged, if_pos acknowledged]
    rfl
  rw [if_neg acknowledged, if_neg acknowledged, negate]
  split <;> rfl

theorem device?_eq_none {payload : Bytes} (short : payload.length < genericHeaderLength) :
    Batch.device? payload = none := by
  unfold Batch.device?
  split
  · simp only [genericHeaderLength, List.length_cons] at short
    omega
  · rfl

theorem device?_eq {payload : Bytes} (inside : 0 < payload.length)
    (whole : genericHeaderLength ≤ payload.length) :
    Batch.device? payload =
      if payload[0] = getCommand ∨ payload[0] = createdCommand ∨ payload[0] = changedCommand then
        some (Device.ofAttributes (payload.drop genericHeaderLength))
      else none := by
  match payload, whole with
  | command :: b :: c :: d :: attributes, _ => rfl

theorem batchWith_eq (family : UInt16) (batch : Batch) (m : Message) :
    batchWith family batch m = (Batch.addMessage family batch m).mapError .ofError := by
  rw [batchWith, Batch.addMessage]
  by_cases done : m.kind = Message.doneKind
  · rw [if_pos done, if_pos done]
    rfl
  rw [if_neg done, if_neg done]
  by_cases error : m.kind = Message.errorKind
  · rw [if_pos error, if_pos error, checkError_eq]
    cases Message.checkError m.payload <;> rfl
  rw [if_neg error, if_neg error]
  by_cases same : m.kind = family
  case neg =>
    rw [if_neg same, if_neg (fun h => same h.1)]
    rfl
  rw [if_pos same]
  by_cases whole : genericHeaderLength ≤ m.payload.length
  · have inside : 0 < m.payload.length := Nat.lt_of_lt_of_le (by decide) whole
    rw [if_pos ⟨same, whole⟩, byte_eq inside, pure_bind, slice_eq whole (Nat.le_refl _),
      pure_bind, List.take_length, device_eq, pure_bind, device?_eq inside whole]
    split
    · rfl
    · rw [Option.toList_none, List.append_nil]
      rfl
  · rw [if_neg (fun h => whole h.2), device?_eq_none (Nat.lt_of_not_le whole), Option.toList_none,
      List.append_nil]
    rfl

theorem foldlM_mapError {α β ε ε' : Type} {f : β → α → Except ε β} {g : β → α → Except ε' β}
    {stop : ε → ε'} (step : ∀ b a, g b a = (f b a).mapError stop) (l : List α) (b : β) :
    l.foldlM g b = (l.foldlM f b).mapError stop := by
  induction l generalizing b with
  | nil => rfl
  | cons a l ih =>
      rw [List.foldlM_cons, List.foldlM_cons, step]
      cases f b a with
      | error e => rfl
      | ok c => exact ih c

theorem decodeBatch_eq (buffer : Bytes) (family : UInt16) :
    decodeBatch buffer family = (Batch.decode buffer family).mapError .ofError := by
  rw [decodeBatch, messages_eq, Batch.decode]
  cases Netlink.splitMessages buffer with
  | error e => rfl
  | ok messages => exact foldlM_mapError (batchWith_eq family) messages Batch.empty

theorem findFamily_eq (messages : List Message) :
    findFamily messages = (Family.find messages).mapError .ofError := by
  induction messages with
  | nil => rfl
  | cons m rest ih =>
      rw [findFamily, Family.find]
      by_cases error : m.kind = Message.errorKind
      · rw [if_pos error, if_pos error, checkError_eq]
        cases Message.checkError m.payload with
        | error e => rfl
        | ok _ => exact ih
      rw [if_neg error, if_neg error]
      by_cases answer : m.kind = Family.controllerId ∧ genericHeaderLength ≤ m.payload.length
      · rw [if_pos answer, if_pos answer, slice_eq answer.2 (Nat.le_refl _), pure_bind,
          List.take_length, attributes_eq, pure_bind, funext₂ familyWith_eq, List.foldlM_pure,
          pure_bind]
        dsimp only [Family.ofPayload]
        split
        · exact ih
        · rfl
      · rw [if_neg answer, if_neg answer]
        exact ih

theorem decodeFamily_eq (buffer : Bytes) :
    decodeFamily buffer = (Family.decode buffer).mapError .ofError := by
  rw [decodeFamily, messages_eq, Family.decode]
  cases Netlink.splitMessages buffer with
  | error e => rfl
  | ok messages => exact findFamily_eq messages

end Checked

/-! ## Where a check fails -/

theorem Stop.mapError_ofError {α : Type} (x : Except DecodeError α) :
    x.mapError ofError = x.mapError .answered ∨ x.mapError ofError = .error .overflow := by
  match x with
  | .ok _ => exact .inl rfl
  | .error .codeOverflow => exact .inr rfl
  | .error (.badLength ..) => exact .inl rfl
  | .error .truncatedError => exact .inl rfl
  | .error (.refused _) => exact .inl rfl

theorem Stop.mapError_ofError_eq_overflow_iff {α : Type} (x : Except DecodeError α) :
    x.mapError ofError = .error .overflow ↔ x = .error .codeOverflow := by
  match x with
  | .ok _ => exact iff_of_false nofun nofun
  | .error .codeOverflow => exact iff_of_true rfl rfl
  | .error (.badLength ..) => exact iff_of_false nofun nofun
  | .error .truncatedError => exact iff_of_false nofun nofun
  | .error (.refused _) => exact iff_of_false nofun nofun

namespace Message

/-- The message reports the least code there is, the one that has no negation. -/
def ReportsLeast (m : Message) : Prop :=
  m.kind = errorKind ∧ 4 ≤ m.payload.length ∧ (uint32 m.payload).toInt32 = Int32.minValue

theorem checkError_eq_codeOverflow_iff (payload : Bytes) :
    checkError payload = .error .codeOverflow ↔
      4 ≤ payload.length ∧ (uint32 payload).toInt32 = Int32.minValue := by
  have nonzero : Int32.minValue ≠ 0 := by decide
  rw [checkError]
  split
  · next short => exact iff_of_false nofun (fun h => absurd h.1 (Nat.not_le_of_lt short))
  · next whole =>
    have whole := Nat.le_of_not_lt whole
    dsimp only
    split_ifs with acknowledged least
    · refine iff_of_false nofun (fun h => nonzero (h.2.symm.trans acknowledged))
    · exact iff_of_true rfl ⟨whole, least⟩
    · exact iff_of_false nofun (fun h => least h.2)

end Message

theorem splitMessages_ne_codeOverflow (buffer : Bytes) :
    splitMessages buffer ≠ .error .codeOverflow := by
  fun_induction splitMessages buffer with
  | case1 => nofun
  | case2 => nofun
  | case3 buffer _ length _ _ ih =>
      cases rest : splitMessages (buffer.drop (align4 length)) with
      | ok _ => nofun
      | error e =>
          rintro ⟨⟩
          exact ih rest

theorem foldlM_eq_error_iff {α β ε : Type} (f : β → α → Except ε β) (l : List α) (b : β) (e : ε) :
    l.foldlM f b = .error e ↔ ∃ before a after c,
      l = before ++ a :: after ∧ before.foldlM f b = .ok c ∧ f c a = .error e := by
  induction l generalizing b with
  | nil => exact iff_of_false nofun (by simp)
  | cons x l ih =>
      rw [List.foldlM_cons]
      cases step : f b x with
      | error first =>
          constructor
          · rintro ⟨⟩
            exact ⟨[], x, l, b, rfl, rfl, step⟩
          · rintro ⟨before, a, after, c, whole, read, stop⟩
            obtain ⟨rfl, same⟩ | ⟨before, rfl, rfl⟩ := List.cons_eq_append_iff.1 whole
            · cases same
              cases read
              exact step.symm.trans stop
            · rw [List.foldlM_cons, step] at read
              nomatch read
      | ok d =>
          refine (ih d).trans ⟨?_, ?_⟩
          · rintro ⟨before, a, after, c, rfl, read, stop⟩
            refine ⟨x :: before, a, after, c, rfl, ?_, stop⟩
            rw [List.foldlM_cons, step]
            exact read
          · rintro ⟨before, a, after, c, whole, read, stop⟩
            obtain ⟨rfl, same⟩ | ⟨before, rfl, rfl⟩ := List.cons_eq_append_iff.1 whole
            · cases same
              cases read
              rw [step] at stop
              nomatch stop
            · rw [List.foldlM_cons, step] at read
              exact ⟨before, a, after, c, rfl, read, stop⟩

theorem Batch.addMessage_eq_codeOverflow_iff (family : UInt16) (batch : Batch) (m : Message) :
    addMessage family batch m = .error .codeOverflow ↔ m.ReportsLeast := by
  rw [Message.ReportsLeast, ← Message.checkError_eq_codeOverflow_iff, addMessage]
  by_cases done : m.kind = Message.doneKind
  · rw [if_pos done]
    exact iff_of_false nofun (fun h => absurd (done.symm.trans h.1) (by decide))
  rw [if_neg done]
  by_cases error : m.kind = Message.errorKind
  · rw [if_pos error]
    cases Message.checkError m.payload <;> simp [Except.map, error]
  · rw [if_neg error]
    refine iff_of_false ?_ (fun h => error h.1)
    split <;> nofun

theorem Batch.decode_eq_codeOverflow_iff (buffer : Bytes) (family : UInt16) :
    decode buffer family = .error .codeOverflow ↔ ∃ before m after batch,
      splitMessages buffer = .ok (before ++ m :: after) ∧
        before.foldlM (addMessage family) empty = .ok batch ∧ m.ReportsLeast := by
  rw [decode]
  cases read : splitMessages buffer with
  | error e =>
      refine iff_of_false ?_ (by simp)
      rintro ⟨⟩
      exact splitMessages_ne_codeOverflow buffer read
  | ok messages =>
      refine (foldlM_eq_error_iff _ messages empty _).trans ?_
      simp only [Except.ok.injEq, addMessage_eq_codeOverflow_iff]

namespace Family

theorem find_cons (m : Message) (rest : List Message) :
    find (m :: rest) = match find [m] with
      | .ok none => find rest
      | other => other := by
  simp only [find]
  split_ifs
  · cases Message.checkError m.payload <;> rfl
  all_goals rfl

theorem find_singleton_eq_codeOverflow_iff (m : Message) :
    find [m] = .error .codeOverflow ↔ m.ReportsLeast := by
  rw [Message.ReportsLeast, ← Message.checkError_eq_codeOverflow_iff]
  simp only [find]
  by_cases error : m.kind = Message.errorKind
  · rw [if_pos error]
    cases Message.checkError m.payload <;> simp [bind, Except.bind, error]
  · rw [if_neg error]
    refine iff_of_false ?_ (fun h => error h.1)
    split_ifs <;> nofun

theorem find_eq_codeOverflow_iff (messages : List Message) :
    find messages = .error .codeOverflow ↔ ∃ before m after,
      messages = before ++ m :: after ∧ find before = .ok none ∧ m.ReportsLeast := by
  induction messages with
  | nil => exact iff_of_false nofun (by simp)
  | cons x rest ih =>
      have first := find_singleton_eq_codeOverflow_iff x
      rw [find_cons]
      constructor
      -- The first message fails, answers or leaves the question to the rest.
      · intro stop
        match step : find [x] with
        | .error e =>
          rw [step] at stop
          exact ⟨[], x, rest, rfl, rfl, first.1 (step.trans stop)⟩
        | .ok (some f) =>
          rw [step] at stop
          nomatch stop
        | .ok none =>
          rw [step] at stop
          obtain ⟨before, m, after, rfl, read, least⟩ := ih.1 stop
          refine ⟨x :: before, m, after, rfl, ?_, least⟩
          rw [find_cons, step]
          exact read
      · rintro ⟨before, m, after, whole, read, least⟩
        obtain ⟨rfl, same⟩ | ⟨before, rfl, rfl⟩ := List.cons_eq_append_iff.1 whole
        · cases same
          rw [first.2 least]
        · rw [find_cons] at read
          match step : find [x] with
          | .error e =>
            rw [step] at read
            nomatch read
          | .ok (some f) =>
            rw [step] at read
            nomatch read
          | .ok none =>
            rw [step] at read
            exact ih.2 ⟨before, m, after, rfl, read, least⟩

theorem decode_eq_codeOverflow_iff (buffer : Bytes) :
    decode buffer = .error .codeOverflow ↔ ∃ before m after,
      splitMessages buffer = .ok (before ++ m :: after) ∧ find before = .ok none ∧
        m.ReportsLeast := by
  rw [decode]
  cases read : splitMessages buffer with
  | error e =>
      refine iff_of_false ?_ (by simp)
      rintro ⟨⟩
      exact splitMessages_ne_codeOverflow buffer read
  | ok messages =>
      simp only [Except.ok.injEq]
      exact find_eq_codeOverflow_iff messages

end Family

namespace Checked

/-- On any bytes the decoders answer, in time and without a read outside, unless they come upon an
error message that reports the least code: its negation overflows. -/
theorem decoders_answer (buffer : Bytes) (family : UInt16) :
    (decodeBatch buffer family = (Batch.decode buffer family).mapError .answered ∨
        decodeBatch buffer family = .error .overflow) ∧
      (decodeBatch buffer family = .error .overflow ↔ ∃ before m after batch,
        Netlink.splitMessages buffer = .ok (before ++ m :: after) ∧
          before.foldlM (Batch.addMessage family) Batch.empty = .ok batch ∧ m.ReportsLeast) ∧
      (decodeFamily buffer = (Family.decode buffer).mapError .answered ∨
        decodeFamily buffer = .error .overflow) ∧
      (decodeFamily buffer = .error .overflow ↔ ∃ before m after,
        Netlink.splitMessages buffer = .ok (before ++ m :: after) ∧
          Family.find before = .ok none ∧ m.ReportsLeast) := by
  rw [decodeBatch_eq, decodeFamily_eq, ← Batch.decode_eq_codeOverflow_iff,
    ← Family.decode_eq_codeOverflow_iff]
  exact ⟨Stop.mapError_ofError _, Stop.mapError_ofError_eq_overflow_iff _,
    Stop.mapError_ofError _, Stop.mapError_ofError_eq_overflow_iff _⟩

theorem decoders_overflow :
    decodeBatch [20, 0, 0, 0, 2, 0, 0, 0, 0, 0, 0, 0, 0, 0, 0, 0, 0, 0, 0, 0x80] 21 =
        .error .overflow ∧
      decodeFamily [20, 0, 0, 0, 2, 0, 0, 0, 0, 0, 0, 0, 0, 0, 0, 0, 0, 0, 0, 0x80] =
        .error .overflow := by
  decide

end Checked

end Netlink

end DpllWatch
