import DpllWatch.Proofs.Monitor.Offset
import DpllWatch.Proofs.Settings.Reading
import Mathlib.Algebra.Group.Int.Defs
import Mathlib.Algebra.Group.Nat.Defs

/-! The offset window of a monitor without a profile. It is meant to hold the offsets up to the
in-spec bound in size. The bound is taken as a signed word, so it does that for the bounds that are
one. For the bound next to them there is no window, and for larger ones the window is empty. -/

namespace DpllWatch

namespace Window

variable {bound : UInt64} {w : Window}

theorem toInt_toInt64 (bound : UInt64) :
    bound.toInt64.toInt =
      if bound.toNat < 2 ^ 63 then (bound.toNat : Int) else bound.toNat - 2 ^ 64 := by
  rw [← Int64.toInt_toBitVec, UInt64.toBitVec_toInt64, BitVec.toInt_eq_toNat_cond,
    UInt64.toNat_toBitVec]
  split <;> split <;> omega

theorem toInt_neg_of_ne {x : Int64} (h : x ≠ Int64.minValue) : (-x).toInt = -x.toInt := by
  have least : x.toInt ≠ -2 ^ 63 := by
    rw [← Int64.toInt_minValue]
    exact mt Int64.toInt_inj.1 h
  have := x.le_toInt
  have := x.toInt_lt
  rw [Int64.toInt_neg]
  exact Int.bmod_eq_of_le (by omega) (by omega)

theorem contains_around?_iff (h : around? bound = some w) (x : Int64) :
    w.contains x = true ↔ bound.toNat < 2 ^ 63 ∧ x.toInt.natAbs ≤ bound.toNat := by
  have size := toInt_toInt64 bound
  unfold around? at h
  dsimp only at h
  split at h
  · nomatch h
  rename_i signed
  have lower := toInt_neg_of_ne signed
  obtain rfl := Option.some.inj h
  rw [contains_iff]
  dsimp only
  rw [lower, size]
  have := bound.toNat_lt
  split <;> omega

theorem around?_eq_none_iff_toNat : around? bound = none ↔ bound.toNat = 2 ^ 63 := by
  rw [around?_eq_none_iff, ← UInt64.toNat_inj]
  rfl

end Window

namespace Monitor

variable {m : Monitor} {s : Settings}

theorem settings_of_mem_history {inputs : List Input} {t : Turn} (ht : t ∈ m.history inputs) :
    t.before.settings = m.settings := by
  induction inputs generalizing m with
  | nil => nomatch ht
  | cons input rest ih =>
      rcases List.mem_cons.1 ht with rfl | later
      · rfl
      · exact (ih later).trans (m.step_settings input)

theorem Turn.settings_after (t : Turn) : t.after.settings = t.before.settings :=
  t.before.step_settings t.input

theorem window?_of_unbound (unbound : m.profile = none) : m.window? = m.settings.window? := by
  unfold window?
  rw [unbound]

theorem settings_of_created (created : create s = .ok m) : m.settings = s := by
  unfold create at created
  split at created
  · nomatch created
  rename_i s' checked
  obtain rfl := (Settings.validate_eq_ok_iff.1 checked).2
  split at created
  · nomatch created
  cases created
  rfl

theorem window_of_locks {inputs : List Input} {t : Turn} (ht : t ∈ m.history inputs)
    (unbound : t.after.profile = none) (before : t.before.state ≠ .locked)
    (after : t.after.state = .locked) :
    ∃ w, m.settings.window? = some w ∧ w.contains t.after.offset = true := by
  obtain ⟨-, w, window, inRange⟩ := t.contains_of_locks before after
  rw [window?_of_unbound unbound, t.settings_after, settings_of_mem_history ht] at window
  exact ⟨w, window, inRange⟩

/-- Valid settings give the window of the offsets up to their bound in size, and a monitor of theirs
without a profile consults only windows that contain zero, exactly if the bound is below two to the
63rd. That one gives no window, and with it or a larger one the monitor cannot lock before it is
bound to a profile. -/
theorem window_exact_iff (valid : s.validate = .ok s) :
    ∃ m, create s = .ok m ∧
      (((∃ w, s.window? = some w ∧
            ∀ x : Int64, w.contains x = true ↔ x.toInt.natAbs ≤ s.maxInSpecOffset.toNat) ∧
          ∀ inputs, ∀ t ∈ m.history inputs, t.before.profile = none →
            t.before.consults t.input = true →
              ∃ w, t.before.window? = some w ∧ w.contains 0 = true) ↔
        s.maxInSpecOffset.toNat < 2 ^ 63) ∧
      (s.window? = none ↔ s.maxInSpecOffset.toNat = 2 ^ 63) ∧
      (2 ^ 63 ≤ s.maxInSpecOffset.toNat → ∀ inputs, ∀ t ∈ m.history inputs,
        t.after.profile = none → t.before.state ≠ .locked → t.after.state ≠ .locked) := by
  obtain ⟨m, created⟩ := Settings.exists_create_iff.2 (Settings.validate_eq_ok_iff.1 valid).1
  have own := settings_of_created created
  have zero : (0 : Int64).toInt.natAbs ≤ s.maxInSpecOffset.toNat := Nat.zero_le _
  refine ⟨m, created, ⟨fun h => ?_, fun fits => ?_⟩, Window.around?_eq_none_iff_toNat,
    fun beyond inputs t ht unbound before after => ?_⟩
  · obtain ⟨⟨w, window, contains⟩, -⟩ := h
    exact ((Window.contains_around?_iff window 0).1 ((contains 0).2 zero)).1
  · have signed : s.window? ≠ none := fun none =>
      Nat.ne_of_lt fits (Window.around?_eq_none_iff_toNat.1 none)
    obtain ⟨w, window⟩ := Option.ne_none_iff_exists'.1 signed
    have contains (x : Int64) : w.contains x = true ↔ x.toInt.natAbs ≤ s.maxInSpecOffset.toNat :=
      (Window.contains_around?_iff window x).trans (and_iff_right fits)
    refine ⟨⟨w, window, contains⟩, fun inputs t ht unbound _ => ?_⟩
    rw [window?_of_unbound unbound, settings_of_mem_history ht, own]
    exact ⟨w, window, (contains 0).2 zero⟩
  · obtain ⟨w, window, inRange⟩ := window_of_locks ht unbound before after
    rw [own] at window
    have fits := ((Window.contains_around?_iff window _).1 inRange).1
    exact absurd fits (Nat.not_lt.2 beyond)

theorem window_exact_iff_largest :
    let s := { Settings.standard 1 "ens1f0" [.gnss] with maxInSpecOffset := 9223372036854775807 }
    s.validate = .ok s ∧ s.maxInSpecOffset.toNat < 2 ^ 63 ∧ ∃ w, s.window? = some w ∧
      w.contains (-9223372036854775807) = true ∧ w.contains Int64.minValue = false := by
  intro s
  have valid : s.validate = .ok s := rfl
  have fits : s.maxInSpecOffset.toNat < 2 ^ 63 := by decide
  obtain ⟨m, -, iff, -⟩ := window_exact_iff valid
  obtain ⟨⟨w, window, contains⟩, -⟩ := iff.2 fits
  refine ⟨valid, fits, w, window, (contains _).2 (by decide), ?_⟩
  exact Bool.eq_false_iff.2 (mt (contains _).1 (by decide))

/-- With the largest of all bounds no offset is in range, and a clock that reports a lock and no
offset at all runs free. Two to the 63rd gives no window. -/
theorem largest_bound_excludes_zero :
    ∃ s m, Settings.ofTable "ens1f0"
        [("clockId[ens1f0]", "1"), ("MaxInSpecOffset", "18446744073709551615")] [.gnss] = .ok s ∧
      create s = .ok m ∧ (0 : Int64).toInt.natAbs ≤ s.maxInSpecOffset.toNat ∧
      s.window? = some ⟨1, -1⟩ ∧ (Window.mk 1 (-1)).contains 0 = false ∧
      (m.sample ⟨some 2, some 2, some 0⟩).1.fused = .locked ∧
      (m.sample ⟨some 2, some 2, some 0⟩).1.state = .freeRun ∧
      { s with maxInSpecOffset := 9223372036854775808 }.window? = none := by
  exact ⟨_, _, rfl, rfl, by decide, rfl, rfl, rfl, rfl, rfl⟩

end Monitor

end DpllWatch
