import DpllWatch.Proofs.Monitor.Step

/-! What a monitor takes from a batch of device messages. Only the messages about its clock count,
and of those about one half of the clock only the last does; one decision follows them all. -/

namespace DpllWatch

open Netlink (Device DeviceKind)

inductive Half where
  | frequency
  | phase
deriving DecidableEq, Repr

def Half.kind : Half → DeviceKind
  | frequency => .eec
  | phase => .pps

def Netlink.Device.half? (clock : UInt64) (d : Device) : Option Half :=
  if d.clockId ≠ clock ∨ d.status = .invalid then none
  else
    match d.kind with
    | .eec => some .frequency
    | .pps => some .phase
    | .other _ => none

theorem Netlink.Device.half?_eq_some_iff {clock : UInt64} {d : Device} {half : Half} :
    d.half? clock = some half ↔ d.clockId = clock ∧ d.status ≠ .invalid ∧ d.kind = half.kind := by
  unfold half?
  split
  · rename_i unheard
    refine iff_of_false nofun fun h => ?_
    rcases unheard with foreign | invalid
    · exact foreign h.1
    · exact h.2.1 invalid
  · rename_i heard
    rw [not_or, Decidable.not_not] at heard
    cases half <;> cases d.kind <;> simp [heard, Half.kind]

namespace Monitor

/-- What a monitor knows after messages about the frequency and messages about the phase, however
they were mixed. -/
def informed (m : Monitor) (frequency phase : List Device) : Monitor :=
  { m with
    frequency := (frequency.getLast?.map Device.status).getD m.frequency
    phase := (phase.getLast?.map Device.status).getD m.phase
    phaseOffset := if phase = [] then m.phaseOffset else 0
    offset := if phase = [] ∨ m.sourceLost = true then m.offset else 0 }

variable {m : Monitor} {d : Device}

theorem informed_nil (m : Monitor) : m.informed [] [] = m := rfl

theorem informed_cons_frequency (m : Monitor) (d : Device) (frequency phase : List Device) :
    (m.informed [d] []).informed frequency phase = m.informed (d :: frequency) phase := by
  cases frequency <;> simp [informed, List.getLast?_cons]

theorem informed_cons_phase (m : Monitor) (d : Device) (frequency phase : List Device) :
    (m.informed [] [d]).informed frequency phase = m.informed frequency (d :: phase) := by
  cases phase <;> cases lost : m.sourceLost <;> simp [informed, List.getLast?_cons, lost]

theorem takeDevice_of_unheard (h : d.half? m.settings.clockId = none) :
    m.takeDevice d = (m, false) := by
  unfold Device.half? at h
  unfold takeDevice
  split at h
  · rename_i discarded
    rw [if_pos discarded]
  · rename_i heard
    rw [if_neg heard]
    cases kind : d.kind with
    | other code => rfl
    | eec | pps => simp [kind] at h

theorem takeDevice_of_frequency (h : d.half? m.settings.clockId = some .frequency) :
    m.takeDevice d = (m.informed [d] [], true) := by
  obtain ⟨own, valid, kind⟩ := Device.half?_eq_some_iff.1 h
  simp [takeDevice, own, valid, kind, Half.kind, informed]

theorem takeDevice_of_phase (h : d.half? m.settings.clockId = some .phase) :
    m.takeDevice d = (m.informed [] [d], true) := by
  obtain ⟨own, valid, kind⟩ := Device.half?_eq_some_iff.1 h
  simp [takeDevice, own, valid, kind, Half.kind, informed]

end Monitor

def Netlink.Device.relevant (clock : UInt64) (devices : List Device) : List Device :=
  devices.filter fun d => (d.half? clock).isSome

def Netlink.Device.about (clock : UInt64) (half : Half) (devices : List Device) : List Device :=
  devices.filter fun d => d.half? clock = some half

theorem Netlink.Device.relevant_eq_nil_iff {clock : UInt64} {devices : List Device} :
    Device.relevant clock devices = [] ↔ ∀ half, Device.about clock half devices = [] := by
  simp only [relevant, about, List.filter_eq_nil_iff, Option.isSome_iff_exists, decide_eq_true_eq,
    not_exists]
  grind

theorem Netlink.Device.about_relevant (clock : UInt64) (half : Half) (devices : List Device) :
    Device.about clock half (Device.relevant clock devices) = Device.about clock half devices := by
  rw [about, relevant, List.filter_filter]
  refine List.filter_congr fun d _ => ?_
  cases h : d.half? clock <;> simp

namespace Monitor

theorem takeDevices_eq (m : Monitor) (devices : List Device) :
    m.takeDevices devices =
      (m.informed (Device.about m.settings.clockId .frequency devices)
        (Device.about m.settings.clockId .phase devices),
        !(Device.relevant m.settings.clockId devices).isEmpty) := by
  induction devices generalizing m with
  | nil => rfl
  | cons d rest ih =>
      cases h : d.half? m.settings.clockId with
      | none =>
          rw [takeDevices, takeDevice_of_unheard h]
          simp [ih, Device.about, Device.relevant, h]
      | some half =>
          cases half with
          | frequency =>
              rw [takeDevices, takeDevice_of_frequency h]
              have clock : (m.informed [d] []).settings = m.settings := rfl
              simp [ih, Device.about, Device.relevant, h, clock, informed_cons_frequency]
          | phase =>
              rw [takeDevices, takeDevice_of_phase h]
              have clock : (m.informed [] [d]).settings = m.settings := rfl
              simp [ih, Device.about, Device.relevant, h, clock, informed_cons_phase]

theorem takeDevices_congr {m : Monitor} {devices devices' : List Device}
    (same : ∀ half, Device.about m.settings.clockId half devices' =
      Device.about m.settings.clockId half devices) :
    m.takeDevices devices' = m.takeDevices devices := by
  have empty : (Device.relevant m.settings.clockId devices').isEmpty =
      (Device.relevant m.settings.clockId devices).isEmpty := by
    rw [Bool.eq_iff_iff, List.isEmpty_iff, List.isEmpty_iff]
    simp only [Device.relevant_eq_nil_iff, same]
  rw [takeDevices_eq, takeDevices_eq, same, same, empty]

theorem ingest_eq (m : Monitor) (devices : List Device) :
    m.ingest devices =
      if Device.relevant m.settings.clockId devices = [] then (false, m, [])
      else
        (true, (m.informed (Device.about m.settings.clockId .frequency devices)
          (Device.about m.settings.clockId .phase devices)).decide) := by
  unfold ingest
  rw [takeDevices_eq]
  by_cases irrelevant : Device.relevant m.settings.clockId devices = []
  · have silent := Device.relevant_eq_nil_iff.1 irrelevant
    simp [irrelevant, silent, informed_nil]
  · simp [irrelevant]

theorem fails_ingest_iff (m : Monitor) (devices : List Device) :
    m.fails (.ingest devices) = true ↔
      Device.relevant m.settings.clockId devices ≠ [] ∧ m.profile = none ∧
        m.settings.maxInSpecOffset = 9223372036854775808 := by
  simp [fails, consults, takeDevices_eq, window?_eq_none_iff]

/-- A batch is worth its relevant messages. If there are none, nothing changes; otherwise one
decision is made, by a monitor that has taken over the last message about each half. Only that
decision can fail, and does where no window is in force: what the batch comes to is said of a run
that does not fail. -/
theorem ingest_heeds_relevant (m : Monitor) (devices : List Device) :
    let clock := m.settings.clockId
    let relevant := Device.relevant clock devices
    let taken := m.informed (Device.about clock .frequency devices)
      (Device.about clock .phase devices)
    m.ingest devices = (if relevant = [] then (false, m, []) else (true, taken.decide)) ∧
      (m.ingest devices).2.1.decisions = m.decisions + (if relevant = [] then 0 else 1) ∧
      (m.fails (.ingest devices) = true ↔
        relevant ≠ [] ∧ m.profile = none ∧
          m.settings.maxInSpecOffset = 9223372036854775808) ∧
      m.ingest devices = m.ingest relevant ∧
      m.fails (.ingest devices) = m.fails (.ingest relevant) ∧
      ∀ devices', (∀ half, Device.about clock half devices' = Device.about clock half devices) →
        m.ingest devices' = m.ingest devices ∧
          m.fails (.ingest devices') = m.fails (.ingest devices) := by
  intro clock relevant taken
  have congr {devices' : List Device}
      (same : ∀ half, Device.about clock half devices' = Device.about clock half devices) :
      m.ingest devices' = m.ingest devices ∧
        m.fails (.ingest devices') = m.fails (.ingest devices) := by
    have taken := takeDevices_congr same
    simp only [ingest, fails, consults, taken, and_self]
  have sifted := congr fun half => Device.about_relevant clock half devices
  refine ⟨m.ingest_eq devices, ?_, m.fails_ingest_iff devices, sifted.1.symm, sifted.2.symm,
    fun _ => congr⟩
  rw [ingest_eq]
  split
  · rfl
  · rw [decide_decisions]
    rfl

theorem ingest_heeds_relevant_shuffled :
    ∃ m, create (.standard 1 "ens1f0" [.gnss]) = .ok m ∧
      let plain : List Device := [⟨0, "ice", 1, 2, 3, 2⟩, ⟨1, "ice", 1, 2, 2, 1⟩]
      let mixed : List Device := [⟨1, "ice", 1, 2, 2, 1⟩, ⟨0, "ice", 2, 2, 4, 2⟩,
        ⟨0, "ice", 1, 2, 0, 2⟩, ⟨0, "ice", 1, 2, 3, 2⟩]
      mixed ≠ plain ∧ m.ingest mixed = m.ingest plain ∧ (m.ingest mixed).2.1.decisions = 1 := by
  have created : create (.standard 1 "ens1f0" [.gnss]) = .ok _ := rfl
  refine ⟨_, created, by decide, ?_, rfl⟩
  obtain ⟨_, _, _, _, _, congr⟩ := ingest_heeds_relevant _ _
  exact (congr _ fun half => by cases half <;> decide).1

/-- A monitor without a profile, whose bound gives no window, fails on the first message about its
clock. -/
theorem ingest_fails_unbound :
    ∃ m, create { Settings.standard 1 "ens1f0" [.gnss] with
        maxInSpecOffset := 9223372036854775808 } = .ok m ∧
      let devices : List Device := [⟨0, "ice", 1, 2, 2, 2⟩]
      Device.relevant m.settings.clockId devices = devices ∧
        m.fails (.ingest devices) = true := by
  refine ⟨_, rfl, by decide, by decide⟩

end Monitor

end DpllWatch
