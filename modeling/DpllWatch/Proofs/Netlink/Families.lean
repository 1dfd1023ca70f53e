import DpllWatch.Netlink.Socket
import DpllWatch.Proofs.Netlink.Checked
import DpllWatch.Proofs.Netlink.Devices

/-! A family that the controller tells is found with its number and its groups, whatever the order
of the attributes at each of the three levels and whatever stands around them. -/

namespace DpllWatch.Netlink

namespace Attribute

theorem length_data_le {attributes : List Attribute} {a : Attribute} (member : a ∈ attributes) :
    a.data.length ≤ (attributes.flatMap encode).length := by
  have inside := (List.sublist_flatten_of_mem (List.mem_map_of_mem (f := encode) member)).length_le
  rw [← List.flatMap_def, length_encode] at inside
  have := le_align4 (attributeHeaderLength + a.data.length)
  omega

theorem filter_kind_of_perm {attributes known : List Attribute} {kinds : List UInt16}
    (perm : (attributes.filter (·.kind ∈ kinds)).Perm known) {kind : UInt16} (member : kind ∈ kinds)
    {a : Attribute} (only : known.filter (·.kind = kind) = [a]) :
    attributes.filter (·.kind = kind) = [a] := by
  have within : (attributes.filter (·.kind ∈ kinds)).filter (·.kind = kind) =
      attributes.filter (·.kind = kind) := by
    rw [List.filter_filter]
    congr
    funext b
    by_cases same : b.kind = kind
    · simp [same, member]
    · simp [same]
  have found := perm.filter (·.kind = kind)
  rw [within, only] at found
  exact List.perm_singleton.1 found

theorem foldl_filter_kind {β : Type} (read : β → Attribute → β) (kind : UInt16)
    (attributes : List Attribute) (start : β) :
    attributes.foldl (fun b a => if a.kind = kind then read b a else b) start =
      (attributes.filter (·.kind = kind)).foldl read start := by
  simp [List.foldl_filter]

end Attribute

namespace Family

def groupKinds : List UInt16 := [groupNameKind, groupIdKind]

def kinds : List UInt16 := [familyIdKind, groupsKind]

/-- The attribute encloses the name and the number of a group, in any order, with or without flags,
and among others. It may be of any kind. -/
def TellsGroup (a : Attribute) (group : String × UInt32) : Prop :=
  ∃ (attributes : List Attribute) (name : Bytes), a.data = attributes.flatMap Attribute.encode ∧
    '\x00' ∉ group.1.toList ∧ Device.IsName group.1 name ∧
    ((attributes.map Attribute.plain).filter (·.kind ∈ groupKinds)).Perm
      [⟨groupNameKind, name⟩, ⟨groupIdKind, Bytes.ofNat 4 group.2.toNat⟩]

theorem group?_of_tellsGroup {a : Attribute} {group : String × UInt32} (h : TellsGroup a group)
    (short : a.data.length ≤ Attribute.maxData) : group? a.data = some group := by
  obtain ⟨attributes, name, enclosed, whole, named, known⟩ := h
  have inner : ∀ b ∈ attributes, b.data.length ≤ Attribute.maxData := by
    intro b member
    rw [enclosed] at short
    exact (Attribute.length_data_le member).trans short
  have read : splitAttributes a.data = attributes.map Attribute.plain := by
    rw [enclosed, Attribute.splitAttributes_flatMap inner]
  have isName : groupNameKind ∈ groupKinds := by decide
  have isId : groupIdKind ∈ groupKinds := by decide
  have names := Attribute.filter_kind_of_perm known isName rfl
  have ids := Attribute.filter_kind_of_perm known isId rfl
  simp only [group?, read, Attribute.foldl_filter_kind, names, ids, List.foldl_cons, List.foldl_nil,
    Device.nameOf_of_isName whole named, Attribute.uint32?_ofNat]
  rfl

theorem addGroups_of_tellsGroup {nest : List Attribute} {groups : Table UInt32}
    (tell : List.Forall₂ TellsGroup nest groups)
    (short : (nest.flatMap Attribute.encode).length ≤ Attribute.maxData)
    (distinct : (groups.map Prod.fst).Nodup) :
    addGroups [] (nest.flatMap Attribute.encode) = groups := by
  have inner : ∀ a ∈ nest, a.data.length ≤ Attribute.maxData :=
    fun a member => (Attribute.length_data_le member).trans short
  have read : (nest.map Attribute.plain).filterMap (fun a => group? a.data) = groups := by
    clear short distinct
    induction tell with
    | nil => rfl
    | @cons a group _ _ told _ ih =>
        rw [List.forall_mem_cons] at inner
        have first : group? a.plain.data = some group := group?_of_tellsGroup told inner.1
        rw [List.map_cons, List.filterMap_cons, first, ih inner.2]
  rw [addGroups, Attribute.splitAttributes_flatMap inner, read]
  exact Table.ofList_of_nodup distinct

theorem foldl_withAttribute (attributes : List Attribute) (f : Family) :
    attributes.foldl withAttribute f =
      ⟨(attributes.filter (·.kind = familyIdKind)).foldl
          (fun id a => if 2 ≤ a.data.length then uint16 a.data else id) f.id,
        (attributes.filter (·.kind = groupsKind)).foldl
          (fun groups a => addGroups groups a.data) f.groups⟩ := by
  have apart : familyIdKind ≠ groupsKind := by decide
  induction attributes generalizing f with
  | nil => rfl
  | cons a rest ih =>
      rw [List.foldl_cons, ih, withAttribute]
      by_cases id : a.kind = familyIdKind
      · by_cases long : 2 ≤ a.data.length <;> simp [id, long, apart]
      · by_cases groups : a.kind = groupsKind <;> simp [id, groups, apart.symm]

end Family

/-- A message of the controller that tells a family: its number and its groups, in any order, with
or without flags, and among others. What does not fit the length word is no message
(`Request.splitMessages_encode_iff`). -/
structure Request.Announces (r : Request) (f : Family) : Prop where
  family : r.family = Family.controllerId
  fits : r.encode.length < 2 ^ 32
  numbered : f.id ≠ 0
  distinct : (f.groups.map Prod.fst).Nodup
  known : ∃ nest : List Attribute, List.Forall₂ Family.TellsGroup nest f.groups ∧
    ((r.attributes.map Attribute.plain).filter (·.kind ∈ Family.kinds)).Perm
      [⟨Family.familyIdKind, Bytes.ofNat 2 f.id.toNat⟩,
        ⟨Family.groupsKind, nest.flatMap Attribute.encode⟩]

/-- A message that is passed over in the search for a family: an acknowledgement, a message of the
controller without a number, or any message of another kind. -/
structure Frame.PassedOver (f : Frame) : Prop where
  acknowledges : f.kind = Message.errorKind → f.payload.take 4 = [0, 0, 0, 0]
  unnumbered : f.kind = Family.controllerId →
    ∀ a ∈ splitAttributes (f.payload.drop genericHeaderLength),
      a.kind = Family.familyIdKind → 2 ≤ a.data.length → uint16 a.data = 0

namespace Family

theorem ofPayload_of_announces {r : Request} {f : Family} (h : r.Announces f)
    (short : ∀ a ∈ r.attributes, a.data.length ≤ Attribute.maxData) : ofPayload r.payload = f := by
  obtain ⟨nest, tell, known⟩ := h.known
  have enclosed : (nest.flatMap Attribute.encode).length ≤ Attribute.maxData := by
    have member := known.mem_iff.2 (List.mem_cons_of_mem _ List.mem_cons_self)
    obtain ⟨a, there, same⟩ := List.mem_map.1 (List.mem_of_mem_filter member)
    have data : a.data = nest.flatMap Attribute.encode := congrArg Attribute.data same
    exact data ▸ short a there
  have isId : familyIdKind ∈ kinds := by decide
  have isGroups : groupsKind ∈ kinds := by decide
  have ids := Attribute.filter_kind_of_perm known isId rfl
  have groups := Attribute.filter_kind_of_perm known isGroups rfl
  have number := uint16_ofNat_append f.id []
  rw [List.append_nil] at number
  have behind : r.payload.drop genericHeaderLength = r.attributes.flatMap Attribute.encode := rfl
  rw [ofPayload, behind, Attribute.splitAttributes_flatMap short, foldl_withAttribute, ids, groups]
  simp only [List.foldl_cons, List.foldl_nil, Bytes.length_ofNat, if_true, Nat.le_refl, number,
    blank, addGroups_of_tellsGroup tell enclosed h.distinct]

theorem ofPayload_of_passedOver {f : Frame} (h : f.PassedOver) (answers : f.kind = controllerId) :
    (ofPayload f.payload).id = 0 := by
  rw [ofPayload, foldl_withAttribute]
  refine List.foldlRecOn (motive := (· = 0)) _ _ rfl fun id zero a member => ?_
  obtain ⟨there, numbers⟩ := List.mem_filter.1 member
  split
  · next long => exact h.unnumbered answers a there (of_decide_eq_true numbers) long
  · exact zero

theorem find_of_passedOver {f : Frame} (h : f.PassedOver) : find [f.message] = .ok none := by
  have kind : f.message.kind = f.kind := rfl
  have payload : f.message.payload = f.payload := rfl
  simp only [find, kind, payload]
  split
  · next error =>
    rw [Message.checkError_of_zero (h.acknowledges error)]
    rfl
  split
  · next answers => rw [if_pos (ofPayload_of_passedOver h answers.1)]
  · rfl

theorem find_append_of_passedOver {before : List Frame} (passed : ∀ f ∈ before, f.PassedOver)
    (rest : List Message) : find (before.map Frame.message ++ rest) = find rest := by
  induction before with
  | nil => rfl
  | cons f before ih =>
      rw [List.forall_mem_cons] at passed
      rw [List.map_cons, List.cons_append, find_cons, find_of_passedOver passed.1]
      exact ih passed.2

theorem find_of_announces {r : Request} {f : Family} (h : r.Announces f)
    (short : ∀ a ∈ r.attributes, a.data.length ≤ Attribute.maxData) (rest : List Message) :
    find (⟨r.family, r.payload⟩ :: rest) = .ok (some f) := by
  have apart : controllerId ≠ Message.errorKind := by decide
  have whole : genericHeaderLength ≤ r.payload.length := Nat.le_add_left 4 _
  rw [find]
  simp only [h.family, apart, whole, ofPayload_of_announces h short, h.numbered, and_self, if_true,
    if_false]

/-- A family that the controller tells is found in a buffer, with exactly the groups that are told,
behind any messages that are passed over. Each attribute must fit its length word. -/
theorem decode_of_announces {r : Request} {f : Family} (h : r.Announces f)
    (short : ∀ a ∈ r.attributes, a.data.length ≤ Attribute.maxData) {before : List Frame}
    (passed : ∀ b ∈ before, b.PassedOver) (after : List Frame) :
    decode (before.flatMap Frame.encode ++ (r.encode ++ after.flatMap Frame.encode)) =
      .ok (some f) := by
  have buffer : before.flatMap Frame.encode ++ (r.encode ++ after.flatMap Frame.encode) =
      (before ++ r.frame h.fits :: after).flatMap Frame.encode := by
    rw [List.flatMap_append, List.flatMap_cons, Request.frame_encode]
  rw [buffer, decode, Frame.splitMessages_flatMap, List.map_append]
  refine (find_append_of_passedOver passed _).trans ?_
  exact find_of_announces h short _

/-! Two groups, told in orders of their own, with flags and among other attributes, behind an
acknowledgement, a message of another family and an answer without a number. -/

private def monitorGroup : Attribute :=
  ⟨0x8001, [⟨groupIdKind, [5, 0, 0, 0]⟩, ⟨groupNameKind, Device.nameData groupName⟩].flatMap
    Attribute.encode⟩

private theorem monitorGroup_tells : TellsGroup monitorGroup (groupName, 5) :=
  ⟨_, Device.nameData groupName, rfl, by decide, ⟨[0], rfl, by simp⟩, by decide +kernel⟩

private def eventGroup : Attribute :=
  ⟨2, [⟨0x4001, [0xC3, 0xA9]⟩, ⟨9, [1]⟩, ⟨0x8002, [9, 1, 0, 0]⟩].flatMap Attribute.encode⟩

private theorem eventGroup_tells : TellsGroup eventGroup ("é", 265) :=
  ⟨_, [0xC3, 0xA9], rfl, by decide, ⟨[], by decide +kernel, nofun⟩, by decide +kernel⟩

private def answer : Request where
  family := controllerId
  flags := 0
  sequence := 1
  command := 1
  version := 2
  attributes := [⟨familyNameKind, Device.nameData familyName⟩,
    ⟨0x8007, [monitorGroup, eventGroup].flatMap Attribute.encode⟩, ⟨0x3FFF, []⟩, ⟨0x4001, [21, 0]⟩]

private def answered : Frame := ⟨2, 0, 1, 0, [0, 0, 0, 0, 1], [0, 0, 0], by decide, rfl⟩

private def others : Frame := ⟨21, 0, 0, 0, [6, 1, 0, 0], [], by decide, rfl⟩

private def numberless : Frame :=
  ⟨16, 0, 1, 0, [1, 2, 0, 0] ++ [⟨1, [0, 0]⟩, ⟨7, []⟩].flatMap Attribute.encode, [], by decide, rfl⟩

theorem decode_of_announces_two :
    let f : Family := ⟨21, [(groupName, 5), ("é", 265)]⟩
    let before := [answered, others, numberless]
    answer.Announces f ∧ (∀ a ∈ answer.attributes, a.data.length ≤ Attribute.maxData) ∧
      (∀ b ∈ before, b.PassedOver) ∧
      decode (before.flatMap Frame.encode ++ (answer.encode ++ [].flatMap Frame.encode)) =
        .ok (some f) := by
  intro f before
  have announces : answer.Announces f :=
    ⟨rfl, by decide +kernel, by decide, by decide, [monitorGroup, eventGroup],
      .cons monitorGroup_tells (.cons eventGroup_tells .nil), by decide +kernel⟩
  have short : ∀ a ∈ answer.attributes, a.data.length ≤ Attribute.maxData := by decide +kernel
  have zero : numberless.PassedOver := by
    refine ⟨by decide, fun _ => ?_⟩
    have told : numberless.payload.drop genericHeaderLength =
        [⟨1, [0, 0]⟩, ⟨7, []⟩].flatMap Attribute.encode := rfl
    rw [told, Attribute.splitAttributes_flatMap (by decide)]
    decide
  have passed : ∀ b ∈ before, b.PassedOver := by
    simp only [before, List.forall_mem_cons]
    exact ⟨⟨by decide, by decide⟩, ⟨by decide, by decide⟩, zero, nofun⟩
  exact ⟨announces, short, passed, decode_of_announces announces short passed []⟩

/-! ## An attribute that is too long -/

theorem splitAttributes_of_wrapped {a : Attribute}
    (wraps : (attributeHeaderLength + a.data.length) % 2 ^ 16 < attributeHeaderLength)
    (rest : Bytes) : splitAttributes (a.encode ++ rest) = [] := by
  have word : (a.encode ++ rest).word 0 2 =
      (attributeHeaderLength + a.data.length) % 256 ^ 2 := by
    simp only [Attribute.encode, List.append_assoc]
    exact Bytes.word_append 2 _ _
  rw [splitAttributes]
  split
  · rfl
  dsimp only
  rw [dif_pos]
  exact .inl (word ▸ wraps)

theorem decode_encode {r : Request} (fits : r.encode.length < 2 ^ 32) :
    decode r.encode = find [⟨r.family, r.payload⟩] := by
  rw [decode, (Request.splitMessages_encode_iff r).2 fits]
  rfl

private def monitored : Family := ⟨21, [(groupName, 5)]⟩

/-- The first attribute takes up 2^16 bytes, which its length word holds as zero. -/
private def overlong : Request where
  family := controllerId
  flags := 0
  sequence := 1
  command := 1
  version := 2
  attributes := [⟨99, List.replicate 65532 0⟩, ⟨familyIdKind, [21, 0]⟩,
    ⟨groupsKind, monitorGroup.encode⟩]

theorem hidden_by_overlong :
    overlong.Announces monitored ∧ decode overlong.encode = .ok none := by
  have fits : overlong.encode.length < 2 ^ 32 := by
    rw [Request.length_encode]
    simp only [Request.payload, overlong, List.flatMap_cons, List.flatMap_nil, List.length_append,
      Attribute.length_encode, List.length_replicate]
    decide
  refine ⟨⟨rfl, fits, by decide, by decide, [monitorGroup], .cons monitorGroup_tells .nil,
    by decide +kernel⟩, ?_⟩
  have hidden : splitAttributes (overlong.payload.drop genericHeaderLength) = [] := by
    refine splitAttributes_of_wrapped (a := ⟨99, List.replicate 65532 0⟩) ?_ _
    rw [List.length_replicate]
    decide
  have nothing : (ofPayload overlong.payload).id = 0 := by
    rw [ofPayload, hidden]
    rfl
  rw [decode_encode fits, find, if_neg (by decide)]
  split
  · exact if_pos nothing
  · rfl

end Family

end DpllWatch.Netlink
