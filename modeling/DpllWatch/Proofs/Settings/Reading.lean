import DpllWatch.Monitor
import DpllWatch.Proofs.Text.Decimal
import Mathlib.Data.List.Forall2

/-! Which settings a table gives to an interface: those that its numbers spell, if they are valid.
Only the entries with the interface's clock id and with the limits count. -/

namespace DpllWatch.Settings

variable {interface : String} {table table' : Table String} {dependsOn : List Source} {s : Settings}

def limitKeys : List String := [maxHoldoverOffsetKey, holdoverTimeoutKey, maxInSpecOffsetKey]

theorem clockIdKey_injective {a b : String} (h : clockIdKey a = clockIdKey b) : a = b := by
  rw [clockIdKey, clockIdKey, String.append_left_inj, String.append_right_inj] at h
  exact h

theorem clockIdKey_not_mem_limitKeys (interface : String) : clockIdKey interface ∉ limitKeys := by
  have first : (clockIdKey interface).toList.head? = some 'c' := by
    simp [clockIdKey, String.toList_append]
  have others : ∀ key ∈ limitKeys, key.toList.head? ≠ some 'c' := by decide
  exact fun member => others _ member first

theorem number_clockIdText (key : String) (id : UInt64) : number key (clockIdText id) = .ok id := by
  rw [number, clockIdText, String.toList_ofList, Text.trim_decimal, Text.readUInt64_decimal]

theorem ofTable_congr
    (same : ∀ key ∈ clockIdKey interface :: limitKeys, table.get? key = table'.get? key) :
    ofTable interface table dependsOn = ofTable interface table' dependsOn := by
  simp only [limitKeys, List.forall_mem_cons] at same
  obtain ⟨clockId, maxOffset, timeout, inSpec, -⟩ := same
  simp only [ofTable, numberOr, clockId, maxOffset, timeout, inSpec]

/-! ## Results without a fault -/

section

variable {ε ε' α β : Type}

theorem bind_eq_ok_iff {x : Except ε α} {f : α → Except ε β} {b : β} :
    (x >>= f) = .ok b ↔ ∃ a, x = .ok a ∧ f a = .ok b := by
  cases x <;> simp [bind, Except.bind]

theorem mapError_eq_ok_iff {f : ε → ε'} {x : Except ε α} {a : α} :
    x.mapError f = .ok a ↔ x = .ok a := by
  cases x <;> simp [Except.mapError]

theorem mapM_eq_ok_iff {f : α → Except ε β} {xs : List α} {ys : List β} :
    xs.mapM f = .ok ys ↔ List.Forall₂ (fun x y => f x = .ok y) xs ys := by
  induction xs generalizing ys with
  | nil => simp [pure, Except.pure, eq_comm]
  | cons x xs ih =>
      rw [List.mapM_cons, bind_eq_ok_iff, List.forall₂_cons_left_iff]
      simp only [bind_eq_ok_iff, ih, pure, Except.pure, Except.ok.injEq]
      grind

theorem exists_mapM_eq_ok_iff {f : α → Except ε β} {xs : List α} :
    (∃ ys, xs.mapM f = .ok ys) ↔ ∀ x ∈ xs, ∃ y, f x = .ok y := by
  induction xs with
  | nil => simp [pure, Except.pure]
  | cons x xs ih =>
      rw [List.forall_mem_cons, ← ih]
      simp only [List.mapM_cons, bind_eq_ok_iff, pure, Except.pure, Except.ok.injEq]
      grind

end

/-! ## Valid settings -/

structure Valid (s : Settings) : Prop where
  named : s.interface ≠ ""
  timeout : s.holdoverTimeout ≠ 0
  maxOffset : s.maxHoldoverOffset ≠ 0

theorem validate_eq_ok_iff {s' : Settings} : s.validate = .ok s' ↔ s.Valid ∧ s = s' := by
  unfold validate
  split
  · next unnamed => exact iff_of_false nofun fun h => h.1.named (String.isEmpty_iff.1 unnamed)
  next named =>
  split
  · next timeout => exact iff_of_false nofun fun h => h.1.timeout timeout
  next timeout =>
  split
  · next maxOffset => exact iff_of_false nofun fun h => h.1.maxOffset maxOffset
  next maxOffset =>
  have valid : s.Valid := ⟨mt String.isEmpty_iff.2 named, timeout, maxOffset⟩
  simp [valid]

theorem exists_create_iff : (∃ m, Monitor.create s = .ok m) ↔ s.Valid := by
  constructor
  · rintro ⟨m, created⟩
    cases checked : s.validate with
    | error e =>
        rw [Monitor.create, checked] at created
        nomatch created
    | ok s' => exact (validate_eq_ok_iff.1 checked).1
  · intro valid
    have drifts : s.drift.isOk = true := Drift.isOk_ofLimits.2 ⟨valid.timeout, valid.maxOffset⟩
    simp only [Monitor.create, validate_eq_ok_iff.2 ⟨valid, rfl⟩]
    cases drift : s.drift with
    | error e =>
        rw [drift] at drifts
        nomatch drifts
    | ok d => exact ⟨_, rfl⟩

/-! ## What a table spells -/

/-- The table spells every number of the settings or leaves it at its default, and the settings are
valid. -/
structure Spelled (interface : String) (table : Table String) (dependsOn : List Source)
    (s : Settings) : Prop where
  name : s.interface = interface
  sources : s.dependsOn = dependsOn
  clockId : ∃ raw, table.get? (clockIdKey interface) = some raw ∧
    number (clockIdKey interface) raw = .ok s.clockId
  maxOffset : numberOr table maxHoldoverOffsetKey 1500 = .ok s.maxHoldoverOffset
  timeout : numberOr table holdoverTimeoutKey 14400 = .ok s.holdoverTimeout
  inSpec : numberOr table maxInSpecOffsetKey 100 = .ok s.maxInSpecOffset
  valid : s.Valid

theorem ofTable_eq_ok_iff :
    ofTable interface table dependsOn = .ok s ↔ Spelled interface table dependsOn s := by
  cases found : table.get? (clockIdKey interface) with
  | none =>
      simp only [ofTable, found]
      refine iff_of_false nofun fun h => ?_
      obtain ⟨raw, other, -⟩ := h.clockId
      nomatch found.symm.trans other
  | some raw =>
      simp only [ofTable, found, bind_eq_ok_iff, validate_eq_ok_iff]
      constructor
      · rintro ⟨clockId, spelled, maxOffset, maxOffset_eq, timeout, timeout_eq, inSpec, inSpec_eq,
          valid, rfl⟩
        exact ⟨rfl, rfl, ⟨raw, found, spelled⟩, maxOffset_eq, timeout_eq, inSpec_eq, valid⟩
      · rintro ⟨rfl, rfl, ⟨raw', found', spelled⟩, maxOffset, timeout, inSpec, valid⟩
        obtain rfl := Option.some.inj (found.symm.trans found')
        exact ⟨s.clockId, spelled, s.maxHoldoverOffset, maxOffset, s.holdoverTimeout, timeout,
          s.maxInSpecOffset, inSpec, valid, rfl⟩

end DpllWatch.Settings
