import DpllWatch.Netlink.Socket
import DpllWatch.Proofs.Netlink.Checked
import DpllWatch.Proofs.Netlink.Devices

/-! Messages that come in several datagrams. What a buffer tells follows from what its parts tell, so
a dump gives the same wherever its messages are cut apart. -/

namespace DpllWatch.Netlink

theorem uint32_eq_zero_iff {b : Bytes} (whole : 4 ≤ b.length) :
    uint32 b = 0 ↔ b.take 4 = [0, 0, 0, 0] := by
  have length : (b.take 4).length = 4 := List.length_take_of_le whole
  have value : (uint32 b).toNat = b.word 0 4 :=
    UInt32.toNat_ofNat'.trans (Nat.mod_eq_of_lt (b.word_lt 0 4))
  rw [← UInt32.toNat_inj, value, UInt32.toNat_zero, Bytes.word, List.drop_zero,
    Bytes.toNat_eq_zero_iff, length]
  rfl

namespace Message

theorem checkError_eq_ok_iff (payload : Bytes) :
    checkError payload = .ok () ↔ payload.take 4 = [0, 0, 0, 0] := by
  refine ⟨fun passes => ?_, checkError_of_zero⟩
  rw [checkError] at passes
  split at passes
  · cases passes
  next whole =>
  dsimp only at passes
  split_ifs at passes with zero
  have code : uint32 payload = 0 := congrArg Int32.toUInt32 zero
  exact (uint32_eq_zero_iff (Nat.le_of_not_lt whole)).1 code

end Message

namespace Frame

theorem splitMessages_flatMap_append (frames : List Frame) (rest : Bytes) :
    splitMessages (frames.flatMap encode ++ rest) =
      (splitMessages rest).map (frames.map message ++ ·) := by
  induction frames with
  | nil =>
      rw [List.flatMap_nil, List.nil_append]
      cases splitMessages rest <;> rfl
  | cons f frames ih =>
      rw [List.flatMap_cons, List.append_assoc, splitMessages_append, ih]
      cases splitMessages rest <;> rfl

/-- An error message that is no acknowledgement: it is cut short, or its code is not zero. -/
def Refuses (f : Frame) : Prop :=
  f.kind = Message.errorKind ∧ (f.payload.length < 4 ∨ f.payload.take 4 ≠ [0, 0, 0, 0])

def fault? (f : Frame) : Option DecodeError :=
  if f.kind = Message.errorKind then
    match Message.checkError f.payload with
    | .ok _ => none
    | .error e => some e
  else none

/-- The device that a message of the family describes. Control messages describe none, also where
the family has the number of one of them. -/
def device? (family : UInt16) (f : Frame) : Option Device :=
  if f.kind = Message.doneKind ∨ f.kind = Message.errorKind then none
  else if f.kind = family then Batch.device? f.payload
  else none

theorem fault?_isSome_iff (f : Frame) : f.fault?.isSome = true ↔ f.Refuses := by
  have cut : f.payload.length < 4 → f.payload.take 4 ≠ [0, 0, 0, 0] := by
    intro short zero
    have length := congrArg List.length zero
    rw [List.length_take] at length
    simp at length
    omega
  have passes := Message.checkError_eq_ok_iff f.payload
  rw [Refuses, or_iff_right_of_imp cut, fault?]
  split
  · next error =>
    rw [Ne, ← passes]
    cases Message.checkError f.payload <;> simp [error]
  · next other => simp [other]

theorem fault?_eq_codeOverflow_iff (f : Frame) :
    f.fault? = some .codeOverflow ↔ f.message.ReportsLeast := by
  rw [Message.ReportsLeast, ← Message.checkError_eq_codeOverflow_iff, fault?]
  split
  · next error =>
    cases fault : Message.checkError f.payload <;> simp [message, error, fault]
  · next other => simp [message, other]

theorem fault?_of_done {f : Frame} (ends : f.kind = Message.doneKind) : f.fault? = none := by
  have apart : Message.doneKind ≠ Message.errorKind := by decide
  rw [fault?, ends, if_neg apart]

theorem device?_of_done {f : Frame} (family : UInt16) (ends : f.kind = Message.doneKind) :
    f.device? family = none := by
  rw [device?, if_pos (.inl ends)]

end Frame

namespace Batch

instance : Append Batch := ⟨fun a b => ⟨a.devices ++ b.devices, a.done || b.done⟩⟩

theorem append_def (a b : Batch) : a ++ b = ⟨a.devices ++ b.devices, a.done || b.done⟩ := rfl

theorem append_empty (a : Batch) : a ++ empty = a := by
  simp [append_def, empty]

theorem addMessage_append (family : UInt16) (a b : Batch) (m : Message) :
    addMessage family (a ++ b) m = (addMessage family b m).map (a ++ ·) := by
  unfold addMessage
  split_ifs
  · simp [append_def, Except.map]
  · cases Message.checkError m.payload <;> rfl
  · simp [append_def, Except.map]
  · rfl

theorem foldlM_append_batch (family : UInt16) (a b : Batch) (messages : List Message) :
    messages.foldlM (addMessage family) (a ++ b) =
      (messages.foldlM (addMessage family) b).map (a ++ ·) := by
  induction messages generalizing b with
  | nil => rfl
  | cons m rest ih =>
      rw [List.foldlM_cons, List.foldlM_cons, addMessage_append]
      cases addMessage family b m with
      | error e => rfl
      | ok c => exact ih c

/-- What stands behind whole messages is read first: if it is malformed, nothing else counts. -/
theorem decode_append (family : UInt16) (frames : List Frame) (rest : Bytes) :
    decode (frames.flatMap Frame.encode ++ rest) family =
      (splitMessages rest).bind fun _ =>
        (decode (frames.flatMap Frame.encode) family).bind fun first =>
          (decode rest family).map (first ++ ·) := by
  simp only [decode, Frame.splitMessages_flatMap_append, Frame.splitMessages_flatMap]
  cases splitMessages rest with
  | error e => rfl
  | ok later =>
      refine List.foldlM_append.trans ?_
      refine congrArg (Except.bind _) (funext fun first => ?_)
      have added := foldlM_append_batch family first empty later
      rw [append_empty] at added
      exact added

theorem decode_append_of_ok {family : UInt16} {frames : List Frame} {rest : Bytes} {a b : Batch}
    (first : decode (frames.flatMap Frame.encode) family = .ok a)
    (second : decode rest family = .ok b) :
    decode (frames.flatMap Frame.encode ++ rest) family = .ok (a ++ b) := by
  rw [decode_append, first, second]
  cases read : splitMessages rest with
  | error e =>
      rw [decode, read] at second
      cases second
  | ok _ => rfl

theorem decode_append_eq_error_iff (family : UInt16) (frames : List Frame) (rest : Bytes) :
    (∃ e, decode (frames.flatMap Frame.encode ++ rest) family = .error e) ↔
      (∃ e, decode (frames.flatMap Frame.encode) family = .error e) ∨
        ∃ e, decode rest family = .error e := by
  rw [decode_append]
  cases read : splitMessages rest with
  | error e =>
      have malformed : decode rest family = .error e := by
        rw [decode, read]
        rfl
      simp [Except.bind, malformed]
  | ok _ =>
      cases decode (frames.flatMap Frame.encode) family <;> cases decode rest family <;>
        simp [Except.bind, Except.map]

theorem decode_append_eq_codeOverflow_iff (family : UInt16) (frames : List Frame) (rest : Bytes) :
    decode (frames.flatMap Frame.encode ++ rest) family = .error .codeOverflow ↔
      (∃ later, splitMessages rest = .ok later) ∧
        (decode (frames.flatMap Frame.encode) family = .error .codeOverflow ∨
          (∃ a, decode (frames.flatMap Frame.encode) family = .ok a) ∧
            decode rest family = .error .codeOverflow) := by
  rw [decode_append]
  cases read : splitMessages rest with
  | error e =>
      refine iff_of_false ?_ (by simp)
      rintro ⟨⟩
      exact splitMessages_ne_codeOverflow rest read
  | ok _ =>
      cases decode (frames.flatMap Frame.encode) family <;> cases decode rest family <;>
        simp [Except.bind, Except.map]

theorem addMessage_message (family : UInt16) (f : Frame) :
    addMessage family empty f.message =
      f.fault?.elim (.ok ⟨(f.device? family).toList, f.kind == Message.doneKind⟩) .error := by
  have apart : Message.errorKind ≠ Message.doneKind := by decide
  have kind : f.message.kind = f.kind := rfl
  have payload : f.message.payload = f.payload := rfl
  simp only [addMessage, Frame.fault?, Frame.device?, kind, payload]
  by_cases done : f.kind = Message.doneKind
  · simp [done, apart.symm, empty]
  by_cases error : f.kind = Message.errorKind
  · simp only [error, apart, if_false, if_true]
    cases Message.checkError f.payload <;> simp [Except.map, empty, apart]
  by_cases same : f.kind = family
  · simp [← same, done, error, empty]
  · simp [done, error, same, empty]

theorem decode_flatMap (family : UInt16) (frames : List Frame) :
    decode (frames.flatMap Frame.encode) family =
      (frames.findSome? Frame.fault?).elim
        (.ok ⟨frames.filterMap (Frame.device? family), frames.any (·.kind == Message.doneKind)⟩)
        .error := by
  rw [decode, Frame.splitMessages_flatMap]
  refine (?_ : (frames.map Frame.message).foldlM (addMessage family) empty = _)
  induction frames with
  | nil => rfl
  | cons f rest ih =>
      rw [List.map_cons, List.foldlM_cons, addMessage_message]
      cases fault : f.fault? with
      | some e =>
          rw [List.findSome?_cons, fault]
          rfl
      | none =>
          have told := foldlM_append_batch family
            ⟨(f.device? family).toList, f.kind == Message.doneKind⟩ empty (rest.map Frame.message)
          rw [append_empty, ih] at told
          refine told.trans ?_
          rw [List.findSome?_cons, fault]
          cases List.findSome? Frame.fault? rest with
          | some e => rfl
          | none => cases device : f.device? family <;> simp [Except.map, append_def, device]

end Batch

def datagram (frames : List Frame) : Datagram := .data (frames.flatMap Frame.encode)

theorem arrive_datagram {frames : List Frame} (some : frames ≠ [])
    (fits : (frames.flatMap Frame.encode).length ≤ Datagram.bufferSize) :
    (datagram frames).arrive = .ok (.some (frames.flatMap Frame.encode)) := by
  have filled : (frames.flatMap Frame.encode).isEmpty = false := by
    obtain ⟨f, rest, rfl⟩ := List.exists_cons_of_ne_nil some
    have header : f.encode ≠ [] := by
      intro none
      have length := f.length_encode
      have := le_align4 f.length
      rw [none, Frame.length, headerLength] at *
      simp at *
      omega
    simp [header]
  simp [datagram, Datagram.arrive, filled, List.take_of_length_le fits]

theorem collectDump_cons (family : UInt16) {part : List Frame} (some : part ≠ [])
    (fits : (part.flatMap Frame.encode).length ≤ Datagram.bufferSize) (rest : List Datagram) :
    (collectDump family (datagram part :: rest)).1 =
      (part.findSome? Frame.fault?).elim
        (if part.any (·.kind == Message.doneKind) then .ok (part.filterMap (Frame.device? family))
          else (collectDump family rest).1.map (part.filterMap (Frame.device? family) ++ ·))
        fun e => .error (.undecodable e) := by
  rw [collectDump, arrive_datagram some fits]
  dsimp only
  rw [Batch.decode_flatMap]
  cases part.findSome? Frame.fault? with
  | some e => rfl
  | none =>
      dsimp only [Option.elim]
      split <;> rfl

theorem collectDump_of_cut (family : UInt16) {parts : List (List Frame)} {body : List Frame}
    {last : Frame} (cut : parts.flatten = body ++ [last]) (ends : last.kind = Message.doneKind)
    (goes : ∀ f ∈ body, f.kind ≠ Message.doneKind)
    (fits : ∀ part ∈ parts, part ≠ [] ∧ (part.flatMap Frame.encode).length ≤ Datagram.bufferSize)
    (later : List Datagram) :
    (collectDump family (parts.map datagram ++ later)).1 =
      (body.findSome? Frame.fault?).elim (.ok (body.filterMap (Frame.device? family)))
        fun e => .error (.undecodable e) := by
  induction parts generalizing body with
  | nil => simp at cut
  | cons part rest ih =>
      rw [List.forall_mem_cons] at fits
      rw [List.map_cons, List.cons_append, collectDump_cons family fits.1.1 fits.1.2]
      rw [List.flatten_cons] at cut
      rcases List.eq_nil_or_concat rest.flatten with nothing | ⟨init, final, more⟩
      · rw [nothing, List.append_nil] at cut
        subst cut
        simp [List.findSome?_append, Frame.fault?_of_done ends, Frame.device?_of_done family ends, ends]
      · rw [more, List.concat_eq_append, ← List.append_assoc] at cut
        obtain ⟨rfl, same⟩ := List.append_inj' cut rfl
        cases same
        simp only [List.forall_mem_append] at goes
        have going : part.any (·.kind == Message.doneKind) = false := by simpa using goes.1
        rw [going, ih (by rw [more, List.concat_eq_append]) goes.2 fits.2, List.findSome?_append]
        cases part.findSome? Frame.fault? with
        | some e => rfl
        | none => cases init.findSome? Frame.fault? <;> simp [Except.map]

namespace Connection

/-- A dump is the same however its messages are cut into datagrams: the first refusal among them
fails it, and without one it gives every device that they describe, in order. Only a refusal with the
least code is not told but overflows. It rests on the law that whole messages and the bytes behind
them decode together to what they decode to apart. -/
theorem dump_of_cut {c : Connection} (s : Sockets) {parts : List (List Frame)} {body : List Frame}
    {last : Frame} {later : List Datagram} (sent : c.script.sendErrnos.headD 0 = 0)
    (arrives : c.script.datagrams = parts.map datagram ++ later)
    (cut : parts.flatten = body ++ [last]) (ends : last.kind = Message.doneKind)
    (goes : ∀ f ∈ body, f.kind ≠ Message.doneKind)
    (fits : ∀ part ∈ parts,
      part ≠ [] ∧ (part.flatMap Frame.encode).length ≤ Datagram.bufferSize) :
    ((c.dump s).1 =
        (body.findSome? Frame.fault?).elim (.ok (body.filterMap (Frame.device? c.family.id)))
          fun e => .error (.undecodable e)) ∧
      ((∃ e, (c.dump s).1 = .error e) ↔ ∃ f ∈ body, f.Refuses) ∧
      ((c.dump s).1 = .error (.undecodable .codeOverflow) ↔ ∃ before f after,
        body = before ++ f :: after ∧ (∀ g ∈ before, ¬g.Refuses) ∧ f.message.ReportsLeast) ∧
      ∀ (family : UInt16) (frames : List Frame) (rest : Bytes),
        let whole := frames.flatMap Frame.encode
        (∀ a b, Batch.decode whole family = .ok a → Batch.decode rest family = .ok b →
          Batch.decode (whole ++ rest) family = .ok ⟨a.devices ++ b.devices, a.done || b.done⟩) ∧
        ((∃ e, Batch.decode (whole ++ rest) family = .error e) ↔
          (∃ e, Batch.decode whole family = .error e) ∨
            ∃ e, Batch.decode rest family = .error e) ∧
        (Batch.decode (whole ++ rest) family = .error .codeOverflow ↔
          (∃ later, splitMessages rest = .ok later) ∧
            (Batch.decode whole family = .error .codeOverflow ∨
              (∃ a, Batch.decode whole family = .ok a) ∧
                Batch.decode rest family = .error .codeOverflow)) := by
  have result : (c.dump s).1 =
      (body.findSome? Frame.fault?).elim (.ok (body.filterMap (Frame.device? c.family.id)))
        fun e => .error (.undecodable e) := by
    have went : ¬(sendOutcome c.script).1 ≠ 0 := not_not.2 sent
    simp only [dump]
    rw [if_neg went]
    refine (?_ : (collectDump c.family.id c.script.datagrams).1 = _)
    rw [arrives]
    exact collectDump_of_cut _ cut ends goes fits later
  refine ⟨result, ?_, ?_, fun family frames rest => ⟨fun a b => Batch.decode_append_of_ok,
    Batch.decode_append_eq_error_iff family frames rest,
    Batch.decode_append_eq_codeOverflow_iff family frames rest⟩⟩
  · simp only [← Frame.fault?_isSome_iff]
    rw [result, ← List.findSome?_isSome_iff]
    cases body.findSome? Frame.fault? <;> simp
  · have first : (c.dump s).1 = .error (.undecodable .codeOverflow) ↔
        body.findSome? Frame.fault? = some .codeOverflow := by
      rw [result]
      cases body.findSome? Frame.fault? <;> simp
    simp only [first, List.findSome?_eq_some_iff, ← Frame.fault?_isSome_iff,
      ← Frame.fault?_eq_codeOverflow_iff, Option.not_isSome_iff_eq_none]
    exact exists₃_congr fun before f after => and_congr_right fun _ => and_comm

/-! A dump of one device behind an acknowledgement, in two datagrams. -/

private def awaiting (datagrams : List Datagram) : Connection :=
  ⟨⟨0, 0, 0, 0, [], datagrams⟩, 1, ⟨21, []⟩⟩

private def clockDevice : Device := ⟨3, "ice", 7, 2, 3, 2⟩

private def reply : Request := ⟨21, 2, 2, getCommand, 1, clockDevice.attributes⟩

private theorem reply_tells : reply.Tells 21 clockDevice := by constructor <;> decide +kernel

private def replyFrame : Frame := reply.frame reply_tells.fits

private def accepted : Frame := ⟨2, 0, 2, 0, [0, 0, 0, 0, 2, 2], [0, 0], by decide, rfl⟩

private def dumpEnd : Frame := ⟨3, 2, 2, 0, [], [], by decide, rfl⟩

theorem dump_of_cut_in_two :
    let body := [accepted, replyFrame]
    let parts := [[accepted], [replyFrame, dumpEnd]]
    let c := awaiting (parts.map datagram)
    c.script.sendErrnos.headD 0 = 0 ∧ c.script.datagrams = parts.map datagram ++ [] ∧
      parts.flatten = body ++ [dumpEnd] ∧ dumpEnd.kind = Message.doneKind ∧
      (∀ f ∈ body, f.kind ≠ Message.doneKind) ∧
      (∀ part ∈ parts,
        part ≠ [] ∧ (part.flatMap Frame.encode).length ≤ Datagram.bufferSize) ∧
      (c.dump (.ofScripts [])).1 = .ok [clockDevice] := by
  intro body parts c
  have sent : c.script.sendErrnos.headD 0 = 0 := rfl
  have arrives : c.script.datagrams = parts.map datagram ++ [] := (List.append_nil _).symm
  have cut : parts.flatten = body ++ [dumpEnd] := rfl
  have goes : ∀ f ∈ body, f.kind ≠ Message.doneKind := by
    simp only [body, List.forall_mem_cons]
    decide
  have fits : ∀ part ∈ parts,
      part ≠ [] ∧ (part.flatMap Frame.encode).length ≤ Datagram.bufferSize := by
    simp only [parts, List.forall_mem_cons]
    decide +kernel
  obtain ⟨dumped, -⟩ := dump_of_cut (.ofScripts []) sent arrives cut rfl goes fits
  refine ⟨sent, arrives, cut, rfl, goes, fits, dumped.trans ?_⟩
  have told : replyFrame.device? 21 = some clockDevice := Batch.device?_payload reply_tells
  have calm : body.findSome? Frame.fault? = none := rfl
  have read : body.filterMap (Frame.device? 21) = [clockDevice] := by
    rw [List.filterMap_cons_none rfl, List.filterMap_cons_some told, List.filterMap_nil]
  rw [calm]
  exact congrArg Except.ok read

private def leastRefusal : Frame := ⟨2, 0, 2, 0, [0, 0, 0, 0x80], [], by decide, rfl⟩

theorem dump_overflows :
    leastRefusal.Refuses ∧
      ((awaiting [datagram [leastRefusal, dumpEnd]]).dump (.ofScripts [])).1 =
        .error (.undecodable .codeOverflow) := by
  have cut : [[leastRefusal, dumpEnd]].flatten = [leastRefusal] ++ [dumpEnd] := rfl
  exact ⟨⟨rfl, .inr (by decide)⟩, collectDump_of_cut 21 cut rfl (by decide) (by decide) []⟩

end Connection

end DpllWatch.Netlink
