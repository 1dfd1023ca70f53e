import DpllWatch.Proofs.Netlink.Devices
import DpllWatch.Proofs.Netlink.Records

/-! Messages that are taken out of a buffer, and messages that describe a device without some of its
attributes. What is left of the buffer reads as before, and a field whose attribute is missing is
zero. -/

namespace DpllWatch.Netlink

/-- The buffer without the messages that are not kept. Each goes with its padding; bytes that are no
message stay. -/
def sift (keep : Message → Bool) (buffer : Bytes) : Bytes :=
  if _h : buffer.length < headerLength then buffer
  else
    let length := buffer.word 0 4
    if _hl : length < headerLength ∨ buffer.length < length then buffer
    else
      let message : Message :=
        ⟨uint16 (buffer.drop 4), (buffer.take length).drop headerLength⟩
      let rest := sift keep (buffer.drop (align4 length))
      if keep message then buffer.take (align4 length) ++ rest else rest
termination_by buffer.length
decreasing_by
  have := le_align4 (buffer.word 0 4)
  simp only [headerLength, length, List.length_drop] at *
  omega

theorem sift_nil (keep : Message → Bool) : sift keep [] = [] := by
  rw [sift, dif_pos (by decide)]

theorem splitMessages_sift (keep : Message → Bool) (buffer : Bytes) :
    splitMessages (sift keep buffer) = (splitMessages buffer).map (·.filter keep) := by
  induction buffer using splitMessages.induct with
  | case1 buffer short =>
      rw [sift, dif_pos short, splitMessages, dif_pos short]
      rfl
  | case2 buffer whole length bad =>
      rw [sift, dif_neg whole, dif_pos bad, splitMessages, dif_neg whole, dif_pos bad]
      rfl
  | case3 buffer whole length good ih =>
      have begins : Begins .messages buffer := by
        rw [not_or, Nat.not_lt, Nat.not_lt] at good
        exact ⟨good.1, good.2⟩
      have front : (Record.first begins).written = buffer.take (align4 length) :=
        Record.written_first begins
      have later : splitMessages buffer = (splitMessages (buffer.drop (align4 length))).map
          ((Record.first begins).toMessage :: ·) := splitMessages_of_begins begins
      rw [sift, dif_neg whole, dif_neg good, later]
      dsimp only
      rw [← Record.toMessage_first begins, ← front]
      split
      · next kept =>
        -- Only a message at the end is without its padding, and then nothing follows it.
        have ends : (Record.first begins).Whole ∨ sift keep (buffer.drop (align4 length)) = [] := by
          refine (Record.whole_first begins).imp_right fun none => ?_
          exact (congrArg (sift keep) none).trans (sift_nil keep)
        rw [((Record.first begins).reads ends).splitMessages_eq, ih]
        cases splitMessages (buffer.drop (align4 length)) with
        | error e => rfl
        | ok messages => simp [Except.map, kept]
      · next gone =>
        rw [ih]
        cases splitMessages (buffer.drop (align4 length)) with
        | error e => rfl
        | ok messages => simp [Except.map, gone]

/-! ## Device messages without some attributes -/

namespace Message

def described? (family : UInt16) (m : Message) : Option (List Attribute) :=
  if m.kind = doneKind ∨ m.kind = errorKind ∨ m.kind ≠ family then none
  else
    match m.payload with
    | command :: _ :: _ :: _ :: attributes =>
      if command = getCommand ∨ command = createdCommand ∨ command = changedCommand then
        some (splitAttributes attributes)
      else none
    | _ => none

def lacks (family : UInt16) (kinds : List UInt16) (m : Message) : Bool :=
  (m.described? family).any fun attributes =>
    kinds.any fun kind => attributes.all fun a => a.kind != kind

theorem lacks_eq_true_iff {family : UInt16} {kinds : List UInt16} {m : Message} :
    m.lacks family kinds = true ↔ ∃ attributes, m.described? family = some attributes ∧
      ∃ kind ∈ kinds, ∀ a ∈ attributes, a.kind ≠ kind := by
  simp [lacks, Option.any_eq_true]

end Message

def complete (family : UInt16) (kinds : List UInt16) (buffer : Bytes) : Bytes :=
  sift (fun m => !m.lacks family kinds) buffer

theorem Device.foldl_of_absent {β : Type} (field : Device → β) {kind : UInt16}
    (others : ∀ (d : Device) (a : Attribute), a.kind ≠ kind → field (d.withAttribute a) = field d)
    {attributes : List Attribute} (absent : ∀ a ∈ attributes, a.kind ≠ kind) (d : Device) :
    field (attributes.foldl withAttribute d) = field d := by
  induction attributes generalizing d with
  | nil => rfl
  | cons a rest ih =>
      rw [List.forall_mem_cons] at absent
      rw [List.foldl_cons, ih absent.2, others d a absent.1]

theorem Batch.addMessage_described {family : UInt16} {m : Message} {attributes : List Attribute}
    (described : m.described? family = some attributes) (batch : Batch) :
    addMessage family batch m = .ok { batch with
      devices := batch.devices ++ [attributes.foldl Device.withAttribute Device.blank] } := by
  unfold Message.described? at described
  split at described
  · nomatch described
  next ours =>
  simp only [not_or, Decidable.not_not] at ours
  split at described
  · next payload =>
    split at described
    · next describes =>
      obtain rfl := Option.some.inj described
      rw [addMessage, if_neg ours.1, if_neg ours.2.1, if_pos ours.2.2, payload, device?,
        if_pos describes]
      rfl
    · nomatch described
  · nomatch described

end DpllWatch.Netlink
