import DpllWatch.Proofs.Monitor.Batches
import DpllWatch.Proofs.Netlink.Sifting

/-! What a monitor takes from a buffer of device messages that lack attributes. A message without a
lock status or without a type says nothing. One without a clock id counts as one about the clock with
the id zero, so it says nothing to the other monitors only. -/

namespace DpllWatch

open Netlink (Attribute Batch DecodeError Device DeviceKind Message Request complete getCommand sift
  splitMessages)

namespace Netlink.Device

variable {clock : UInt64} {d : Device} {attributes : List Attribute}

theorem half?_of_lock (zero : d.lock = 0) : d.half? clock = none := by
  have invalid : d.status = .invalid := by simp [status, zero, LockStatus.ofCode]
  rw [half?, if_pos (.inr invalid)]

theorem half?_of_kindCode (zero : d.kindCode = 0) : d.half? clock = none := by
  have other : d.kind = .other 0 := by simp [kind, zero, DeviceKind.ofCode]
  rw [half?, other]
  split <;> rfl

theorem half?_of_clockId (zero : d.clockId = 0) (clock_ne : clock ≠ 0) : d.half? clock = none := by
  rw [half?, if_pos (.inl (zero ▸ clock_ne.symm))]

def neededKinds : List UInt16 := [clockIdKind, lockKind, typeKind]

/-- What a message leaves out is zero, and no monitor of another clock than zero takes a zero. -/
theorem half?_foldl_of_absent {kind : UInt16} (needed : kind ∈ neededKinds)
    (absent : ∀ a ∈ attributes, a.kind ≠ kind) (clock_ne : kind = clockIdKind → clock ≠ 0) :
    (attributes.foldl withAttribute blank).half? clock = none := by
  simp only [neededKinds, List.mem_cons, List.not_mem_nil, or_false] at needed
  rcases needed with rfl | rfl | rfl
  · refine half?_of_clockId ?_ (clock_ne rfl)
    exact foldl_of_absent clockId (by grind) absent blank
  · exact half?_of_lock (foldl_of_absent lock (by grind) absent blank)
  · exact half?_of_kindCode (foldl_of_absent kindCode (by grind) absent blank)

end Netlink.Device

namespace Netlink.Batch

def heeded (clock : UInt64) (batch : Batch) : Batch :=
  { batch with devices := Device.relevant clock batch.devices }

variable {clock : UInt64} {family : UInt16} {batch batch' : Batch}

theorem heeded_concat (devices : List Device) :
    heeded clock { batch with devices := batch.devices ++ devices } =
      { batch.heeded clock with
        devices := (batch.heeded clock).devices ++ Device.relevant clock devices } := by
  simp [heeded, Device.relevant]

theorem addMessage_heeded (same : batch.heeded clock = batch'.heeded clock) (m : Message) :
    (addMessage family batch m).map (heeded clock) =
      (addMessage family batch' m).map (heeded clock) := by
  unfold addMessage
  split
  · simp only [heeded, Batch.mk.injEq] at same
    simp [Except.map, heeded, same.1]
  split
  · cases Message.checkError m.payload with
    | error e => rfl
    | ok _ => exact congrArg Except.ok same
  split
  · simp only [Except.map, heeded_concat, same]
  · exact congrArg Except.ok same

theorem foldlM_filter_heeded {keep : Message → Bool} (unheard : ∀ m, keep m = false →
      ∃ attributes, m.described? family = some attributes ∧
        (attributes.foldl Device.withAttribute Device.blank).half? clock = none)
    (messages : List Message) (same : batch'.heeded clock = batch.heeded clock) :
    ((messages.filter keep).foldlM (addMessage family) batch').map (heeded clock) =
      (messages.foldlM (addMessage family) batch).map (heeded clock) := by
  induction messages generalizing batch batch' with
  | nil => exact congrArg Except.ok same
  | cons m rest ih =>
      cases kept : keep m with
      | true =>
          have step : (addMessage family batch' m).map (heeded clock) =
              (addMessage family batch m).map (heeded clock) := addMessage_heeded same m
          rw [List.filter_cons_of_pos kept, List.foldlM_cons, List.foldlM_cons]
          cases added : addMessage family batch m <;> cases added' : addMessage family batch' m <;>
            rw [added, added'] at step
          · exact congrArg Except.error (Except.error.inj step)
          · nomatch step
          · nomatch step
          · exact ih (Except.ok.inj step)
      | false =>
          obtain ⟨attributes, described, nothing⟩ := unheard m kept
          rw [List.filter_cons_of_neg (by simp [kept]), List.foldlM_cons,
            addMessage_described described]
          refine ih ?_
          rw [same, heeded_concat]
          simp [heeded, Device.relevant, nothing]

end Netlink.Batch

namespace Netlink.Request

def anonymous : Request where
  family := 21
  flags := 0
  sequence := 0
  command := getCommand
  version := 1
  attributes := [⟨Device.lockKind, Bytes.ofNat 4 2⟩, ⟨Device.typeKind, Bytes.ofNat 4 2⟩]

theorem splitMessages_anonymous :
    splitMessages anonymous.encode = .ok [⟨21, anonymous.payload⟩] :=
  (splitMessages_encode_iff anonymous).2 (by decide)

theorem described?_anonymous :
    Message.described? 21 ⟨21, anonymous.payload⟩ = some anonymous.attributes := by
  have read : splitAttributes (anonymous.attributes.flatMap Attribute.encode) =
      anonymous.attributes.map Attribute.plain :=
    Attribute.splitAttributes_flatMap (by decide)
  exact congrArg some read

theorem decode_anonymous :
    Batch.decode anonymous.encode 21 = .ok ⟨[⟨0, "", 0, 0, 2, 2⟩], false⟩ := by
  rw [Batch.decode, splitMessages_anonymous]
  exact (bind_pure _).trans (Batch.addMessage_described described?_anonymous Batch.empty)

theorem decode_complete_anonymous :
    Batch.decode (complete 21 Device.neededKinds anonymous.encode) 21 = .ok Batch.empty := by
  have lacks : Message.lacks 21 Device.neededKinds ⟨21, anonymous.payload⟩ = true :=
    Message.lacks_eq_true_iff.2
      ⟨_, described?_anonymous, Device.clockIdKind, List.mem_cons_self, by decide⟩
  rw [Batch.decode, complete, splitMessages_sift, splitMessages_anonymous]
  simp only [Except.map, List.filter_cons, lacks]
  rfl

end Netlink.Request

namespace Monitor

/-- A monitor takes the devices that a buffer describes; the flag tells whether it fails on them. -/
def receive (m : Monitor) (family : UInt16) (buffer : Bytes) :
    Except DecodeError ((Bool × Monitor × List Report) × Bool) :=
  (Batch.decode buffer family).map fun batch =>
    (m.ingest batch.devices, m.fails (.ingest batch.devices))

variable {m : Monitor}

theorem receive_eq (m : Monitor) (family : UInt16) (buffer : Bytes) :
    m.receive family buffer =
      ((Batch.decode buffer family).map (Batch.heeded m.settings.clockId)).map fun batch =>
        (m.ingest batch.devices, m.fails (.ingest batch.devices)) := by
  rw [receive]
  cases Batch.decode buffer family with
  | error e => rfl
  | ok batch =>
      have taken : m.takeDevices (Device.relevant m.settings.clockId batch.devices) =
          m.takeDevices batch.devices :=
        takeDevices_congr fun half => Device.about_relevant m.settings.clockId half batch.devices
      simp only [Except.map, Batch.heeded, ingest, fails, consults, taken]

theorem receive_sift {family : UInt16} {keep : Message → Bool}
    (unheard : ∀ message, keep message = false →
      ∃ attributes, message.described? family = some attributes ∧
        (attributes.foldl Device.withAttribute Device.blank).half? m.settings.clockId = none)
    (buffer : Bytes) : m.receive family (sift keep buffer) = m.receive family buffer := by
  rw [receive_eq, receive_eq, Batch.decode, Batch.decode, Netlink.splitMessages_sift]
  cases splitMessages buffer with
  | error e => rfl
  | ok messages =>
      exact congrArg _ (Batch.foldlM_filter_heeded unheard messages rfl)

theorem receive_complete {family : UInt16} {kinds : List UInt16}
    (needed : kinds ⊆ Device.neededKinds)
    (clock_ne : Device.clockIdKind ∈ kinds → m.settings.clockId ≠ 0) (buffer : Bytes) :
    m.receive family (complete family kinds buffer) = m.receive family buffer := by
  refine receive_sift (fun message dropped => ?_) buffer
  rw [Bool.not_eq_false', Message.lacks_eq_true_iff] at dropped
  obtain ⟨attributes, described, kind, member, absent⟩ := dropped
  exact ⟨attributes, described, Device.half?_foldl_of_absent (needed member) absent
    fun same => clock_ne (same ▸ member)⟩

theorem receive_anonymous (zero : m.settings.clockId = 0) :
    (m.receive 21 Request.anonymous.encode).map (·.1.1) = .ok true ∧
      (m.receive 21 (complete 21 Device.neededKinds Request.anonymous.encode)).map (·.1.1) =
        .ok false := by
  rw [receive, receive, Request.decode_anonymous, Request.decode_complete_anonymous]
  simp only [Except.map, ingest_eq, zero]
  exact ⟨rfl, rfl⟩

/-- No monitor takes a message that lacks the lock status or the type. Those that lack the clock id
are left alone as well, exactly if the monitor's own clock id is not zero. -/
theorem ignores_incomplete_iff (m : Monitor) :
    (∀ family buffer, m.receive family
        (complete family [Device.lockKind, Device.typeKind] buffer) = m.receive family buffer) ∧
      ((∀ family buffer, m.receive family
          (complete family Device.neededKinds buffer) = m.receive family buffer) ↔
        m.settings.clockId ≠ 0) := by
  refine ⟨fun _ buffer => receive_complete (List.subset_cons_self _ _)
    (fun member => absurd member (by decide)) buffer, ?_, ?_⟩
  · intro same zero
    obtain ⟨taken, ignored⟩ := receive_anonymous zero
    rw [same 21 Request.anonymous.encode, taken] at ignored
    nomatch ignored
  · intro clock_ne _ buffer
    exact receive_complete (List.Subset.refl _) (fun _ => clock_ne) buffer

/-- A monitor can be set up for the clock zero, and there a message without a clock id makes it
decide. -/
theorem decides_on_anonymous :
    ∃ m, create (.standard 0 "ens1f0" [.gnss]) = .ok m ∧
      (m.receive 21 Request.anonymous.encode).map
          (fun r => (r.1.1, r.1.2.1.frequency, r.1.2.1.decisions)) = .ok (true, .locked, 1) ∧
      (m.receive 21 (complete 21 Device.neededKinds Request.anonymous.encode)).map
          (fun r => (r.1.1, r.1.2.1.frequency, r.1.2.1.decisions)) = .ok (false, .unknown, 0) := by
  refine ⟨_, rfl, ?_, ?_⟩
  · rw [receive, Request.decode_anonymous]
    rfl
  · rw [receive, Request.decode_complete_anonymous]
    rfl

end Monitor

end DpllWatch
