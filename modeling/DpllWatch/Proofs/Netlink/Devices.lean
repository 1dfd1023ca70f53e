import DpllWatch.Netlink.Device
import DpllWatch.Proofs.Netlink.Framing
import DpllWatch.Proofs.Text.Utf8
import Mathlib.Data.List.Nodup

/-! Devices that are told in a buffer are found there, in order, whatever the order of their
attributes and whatever else the buffer tells. -/

namespace DpllWatch.Netlink

namespace Attribute

theorem uint32?_ofNat (kind : UInt16) (w : UInt32) :
    uint32? ⟨kind, Bytes.ofNat 4 w.toNat⟩ = some w := by
  have read := uint32_ofNat_append w []
  rw [List.append_nil] at read
  simp [uint32?, read]

theorem uint64?_ofNat (kind : UInt16) (w : UInt64) :
    uint64? ⟨kind, Bytes.ofNat 8 w.toNat⟩ = some w := by
  have read := uint64_ofNat_append w []
  rw [List.append_nil] at read
  simp [uint64?, read]

end Attribute

namespace Device

def nameData (name : String) : Bytes := Text.Utf8.encode name.toList ++ [0]

/-- A name as it may be sent: alone, or ended by a zero byte. -/
def IsName (name : String) (data : Bytes) : Prop :=
  ∃ tail, data = Text.Utf8.encode name.toList ++ tail ∧ ∀ b ∈ tail.head?, b = 0

theorem nameOf_of_isName {name : String} (whole : '\x00' ∉ name.toList) {data : Bytes}
    (h : IsName name data) : nameOf data = name := by
  obtain ⟨tail, rfl, ended⟩ := h
  have nonzero : ∀ b ∈ Text.Utf8.encode name.toList, (b != 0) = true := by
    intro b member
    rw [bne_iff_ne]
    exact ne_of_mem_of_not_mem member (Text.Utf8.zero_not_mem_encode whole)
  have dropped : tail.takeWhile (· != 0) = [] := by
    cases tail with
    | nil => rfl
    | cons b rest => simp [ended b rfl]
  rw [nameOf, List.takeWhile_append_of_pos nonzero, dropped, List.append_nil,
    Text.Utf8.decodeLossy_encode, String.ofList_toList]

theorem nameOf_nameData {name : String} (whole : '\x00' ∉ name.toList) :
    nameOf (nameData name) = name :=
  nameOf_of_isName whole ⟨[0], rfl, by simp⟩

def attributes (d : Device) : List Attribute :=
  [⟨idKind, Bytes.ofNat 4 d.id.toNat⟩, ⟨moduleNameKind, nameData d.moduleName⟩,
    ⟨clockIdKind, Bytes.ofNat 8 d.clockId.toNat⟩, ⟨modeKind, Bytes.ofNat 4 d.mode.toNat⟩,
    ⟨lockKind, Bytes.ofNat 4 d.lock.toNat⟩, ⟨typeKind, Bytes.ofNat 4 d.kindCode.toNat⟩]

def kinds : List UInt16 := [idKind, moduleNameKind, clockIdKind, modeKind, lockKind, typeKind]

theorem kinds_attributes (d : Device) : d.attributes.map Attribute.kind = kinds := rfl

theorem foldl_attributes {d : Device} (whole : '\x00' ∉ d.moduleName.toList) :
    d.attributes.foldl withAttribute blank = d := by
  simp only [attributes, List.foldl_cons, List.foldl_nil, withAttribute,
    Attribute.uint32?_ofNat, Attribute.uint64?_ofNat, nameOf_nameData whole, Option.getD_some]
  rfl

theorem withAttribute_of_not_mem (d : Device) {a : Attribute} (h : a.kind ∉ kinds) :
    d.withAttribute a = d := by
  simp only [kinds, List.mem_cons, List.not_mem_nil, or_false, not_or] at h
  simp [withAttribute, h]

/-! An attribute sets the field of its kind and leaves the others. -/

@[grind =] theorem withAttribute_id (d : Device) (a : Attribute) :
    (d.withAttribute a).id = if a.kind = idKind then a.uint32?.getD 0 else d.id := by
  grind [withAttribute]

@[grind =] theorem withAttribute_moduleName (d : Device) (a : Attribute) :
    (d.withAttribute a).moduleName =
      if a.kind = moduleNameKind then nameOf a.data else d.moduleName := by
  grind [withAttribute, idKind, moduleNameKind]

@[grind =] theorem withAttribute_clockId (d : Device) (a : Attribute) :
    (d.withAttribute a).clockId =
      if a.kind = clockIdKind then a.uint64?.getD 0 else d.clockId := by
  grind [withAttribute, idKind, moduleNameKind, clockIdKind]

@[grind =] theorem withAttribute_mode (d : Device) (a : Attribute) :
    (d.withAttribute a).mode = if a.kind = modeKind then a.uint32?.getD 0 else d.mode := by
  grind [withAttribute, idKind, moduleNameKind, clockIdKind, modeKind]

@[grind =] theorem withAttribute_lock (d : Device) (a : Attribute) :
    (d.withAttribute a).lock = if a.kind = lockKind then a.uint32?.getD 0 else d.lock := by
  grind [withAttribute, idKind, moduleNameKind, clockIdKind, modeKind, lockKind]

@[grind =] theorem withAttribute_kindCode (d : Device) (a : Attribute) :
    (d.withAttribute a).kindCode =
      if a.kind = typeKind then a.uint32?.getD 0 else d.kindCode := by
  grind [withAttribute, idKind, moduleNameKind, clockIdKind, modeKind, lockKind, typeKind]

attribute [ext] Device

theorem withAttribute_comm (d : Device) {a b : Attribute} (h : a.kind ≠ b.kind) :
    (d.withAttribute a).withAttribute b = (d.withAttribute b).withAttribute a := by
  ext <;> grind

theorem nodup_kinds : kinds.Nodup := by decide

theorem eq_of_kind_eq {d : Device} {a b : Attribute} (ha : a ∈ d.attributes)
    (hb : b ∈ d.attributes) (h : a.kind = b.kind) : a = b :=
  List.inj_on_of_nodup_map (d.kinds_attributes ▸ nodup_kinds) ha hb h

theorem foldl_filter_kinds (attributes : List Attribute) (d : Device) :
    (attributes.filter (·.kind ∈ kinds)).foldl withAttribute d =
      attributes.foldl withAttribute d := by
  rw [List.foldl_filter]
  congr
  funext d a
  split
  · rfl
  · next other => exact (d.withAttribute_of_not_mem (by simpa using other)).symm

theorem foldl_of_perm {d : Device} (whole : '\x00' ∉ d.moduleName.toList)
    {attributes : List Attribute}
    (known : (attributes.filter (·.kind ∈ kinds)).Perm d.attributes) :
    attributes.foldl withAttribute blank = d := by
  have commutes : ∀ a ∈ attributes.filter (·.kind ∈ kinds),
      ∀ b ∈ attributes.filter (·.kind ∈ kinds), ∀ e : Device,
        (e.withAttribute a).withAttribute b = (e.withAttribute b).withAttribute a := by
    intro a ha b hb e
    by_cases same : a.kind = b.kind
    · rw [eq_of_kind_eq (known.mem_iff.1 ha) (known.mem_iff.1 hb) same]
    · exact e.withAttribute_comm same
  rw [← foldl_filter_kinds, known.foldl_eq' commutes, foldl_attributes whole]

end Device

/-- A message of the family that tells a device: its attributes come in any order, with or without
flags, and others of unknown kinds may stand between them. What does not fit the length word is no
message (`Request.splitMessages_encode_iff`). -/
structure Request.Tells (r : Request) (family : UInt16) (d : Device) : Prop where
  family : r.family = family
  command : r.command = getCommand ∨ r.command = createdCommand ∨ r.command = changedCommand
  short : ∀ a ∈ r.attributes, a.data.length ≤ Attribute.maxData
  fits : r.encode.length < 2 ^ 32
  known : ((r.attributes.map Attribute.plain).filter (·.kind ∈ Device.kinds)).Perm d.attributes
  whole : '\x00' ∉ d.moduleName.toList

structure Frame.Mute (f : Frame) (family : UInt16) : Prop where
  command : f.kind = family → genericHeaderLength ≤ f.payload.length →
    f.payload.head? ∉ [some getCommand, some createdCommand, some changedCommand]
  acknowledges : f.kind = Message.errorKind → f.payload.take 4 = [0, 0, 0, 0]

theorem Message.checkError_of_zero {payload : Bytes} (h : payload.take 4 = [0, 0, 0, 0]) :
    checkError payload = .ok () := by
  have whole : ¬payload.length < 4 := by
    have := congrArg List.length h
    simp at this
    omega
  have code : uint32 payload = 0 := by
    rw [uint32, Bytes.word, List.drop_zero, h]
    rfl
  simp [checkError, whole, code]

namespace Batch

theorem device?_payload {r : Request} {family : UInt16} {d : Device} (h : r.Tells family d) :
    device? r.payload = some d := by
  have told : Device.ofAttributes (r.attributes.flatMap Attribute.encode) = d := by
    rw [Device.ofAttributes, Attribute.splitAttributes_flatMap h.short]
    exact Device.foldl_of_perm h.whole h.known
  simp [device?, Request.payload, h.command, told]

theorem device?_of_mute {f : Frame} {family : UInt16} (h : f.Mute family)
    (same : f.kind = family) : device? f.payload = none := by
  have silent := h.command same
  unfold device?
  split
  · next payload =>
    rw [payload] at silent
    simp [genericHeaderLength] at silent
    simp [silent]
  · rfl

/-- What a buffer tells: the devices in it, in order, and whether it ends a dump. -/
inductive Told (family : UInt16) : Bytes → List Device → Bool → Prop where
  | nil : Told family [] [] false
  | device {r : Request} {d : Device} {rest : Bytes} {devices : List Device} {done : Bool} :
      r.Tells family d → Told family rest devices done →
      Told family (r.encode ++ rest) (d :: devices) done
  | other {f : Frame} {rest : Bytes} {devices : List Device} {done : Bool} :
      f.Mute family → Told family rest devices done →
      Told family (f.encode ++ rest) devices (f.kind == Message.doneKind || done)

theorem addMessage_device {r : Request} {family : UInt16} {d : Device} (h : r.Tells family d)
    (notError : family ≠ Message.errorKind) (notDone : family ≠ Message.doneKind) (batch : Batch) :
    addMessage family batch ⟨r.family, r.payload⟩ =
      .ok { batch with devices := batch.devices ++ [d] } := by
  simp [addMessage, h.family, notError, notDone, device?_payload h]

theorem addMessage_other {f : Frame} {family : UInt16} (h : f.Mute family) (batch : Batch) :
    addMessage family batch f.message =
      .ok { batch with done := f.kind == Message.doneKind || batch.done } := by
  unfold addMessage Frame.message
  dsimp only
  split
  · next done => simp [done]
  next going =>
  have kept : (f.kind == Message.doneKind || batch.done) = batch.done := by simp [going]
  rw [kept]
  split
  · next error =>
    rw [Message.checkError_of_zero (h.acknowledges error)]
    rfl
  split
  · next same => simp [device?_of_mute h same]
  · rfl

theorem Told.messages {family : UInt16} (notError : family ≠ Message.errorKind)
    (notDone : family ≠ Message.doneKind) {buffer : Bytes} {devices : List Device} {done : Bool}
    (h : Told family buffer devices done) :
    ∃ messages, splitMessages buffer = .ok messages ∧
      ∀ batch : Batch, messages.foldlM (addMessage family) batch =
        .ok ⟨batch.devices ++ devices, batch.done || done⟩ := by
  -- The batch stays open in the induction, since a message adds to what was told before it.
  induction h with
  | nil =>
      refine ⟨[], Frame.splitMessages_flatMap [], fun batch => ?_⟩
      simp [List.foldlM, pure, Except.pure]
  | @device r d rest devices done tells _ ih =>
      obtain ⟨messages, split, added⟩ := ih
      refine ⟨⟨r.family, r.payload⟩ :: messages, ?_, fun batch => ?_⟩
      · rw [← r.frame_encode tells.fits, Frame.splitMessages_append, split]
        rfl
      · rw [List.foldlM_cons, addMessage_device tells notError notDone]
        refine (added _).trans ?_
        simp
  | @other f rest devices done mute _ ih =>
      obtain ⟨messages, split, added⟩ := ih
      refine ⟨f.message :: messages, ?_, fun batch => ?_⟩
      · rw [Frame.splitMessages_append, split]
        rfl
      · rw [List.foldlM_cons, addMessage_other mute]
        refine (added _).trans ?_
        simp only [Bool.or_assoc, Bool.or_left_comm]

private def first : Device := ⟨0, "ice", 0x507C6FFFFF1FC2C8, 2, 3, 2⟩

private def second : Device := ⟨1, "é", 7, 1, 4, 1⟩

private def change : Request where
  family := 21
  flags := 0x300
  sequence := 9
  command := changedCommand
  version := 3
  attributes := [⟨0x8009, [2, 0, 0, 0]⟩, ⟨0x4007, [3, 0, 0, 0]⟩, ⟨0xC006, [1, 2, 3]⟩,
    ⟨5, [2, 0, 0, 0]⟩, ⟨0x4004, [0xC8, 0xC2, 0x1F, 0xFF, 0xFF, 0x6F, 0x7C, 0x50]⟩, ⟨0x3FFF, []⟩,
    ⟨2, [0x69, 0x63, 0x65, 0]⟩, ⟨1, [0, 0, 0, 0]⟩]

private def foreign : Frame := ⟨16, 0, 0, 0, [2, 0, 0, 0, 9], [1, 2, 3], by decide, rfl⟩

end Batch

end DpllWatch.Netlink
