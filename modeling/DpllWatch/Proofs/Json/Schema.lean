import DpllWatch.Json.Schema
import DpllWatch.Proofs.Json.Reader

/-! What is written for a value of the program stands for that value: words, names out of a finite
list, lists, and records whose fields have names of their own. -/

namespace DpllWatch.Json

variable {α β γ : Type}

-- Not by rfl, which would have a word compared with its limit by counting up to it.
@[simp] theorem field?_some (value? : Json → Option α) (v : Json) :
    field? value? (some v) = value? v := by
  rw [field?, Option.bind_some]

@[simp] theorem uint64?_toNat (w : UInt64) : uint64? (.int w.toNat) = some w := by
  have fits : (w.toNat : Int) < UInt64.size := Int.ofNat_lt.2 w.toNat_lt_size
  rw [uint64?, if_pos ⟨Int.natCast_nonneg _, fits⟩, Int.toNat_natCast, UInt64.ofNat_toNat]

@[simp] theorem int64?_toInt (w : Int64) : int64? (.int w.toInt) = some w := by
  have low : Int64.minValue.toInt ≤ w.toInt := w.le_toInt
  have high : w.toInt ≤ Int64.maxValue.toInt := Int.le_of_lt_add_one w.toInt_lt
  rw [int64?, if_pos ⟨low, high⟩, Int64.ofInt_toInt]

theorem filter_name {all : List α} {name : α → String} (distinct : (all.map name).Nodup) {a : α}
    (member : a ∈ all) : all.filter (name · == name a) = [a] := by
  induction all with
  | nil => exact absurd member List.not_mem_nil
  | cons b later ih =>
      rw [List.map_cons, List.nodup_cons] at distinct
      rcases List.mem_cons.1 member with rfl | member
      · have none : later.filter (name · == name a) = [] :=
          List.filter_eq_nil_iff.2 fun b other same =>
            distinct.1 (eq_of_beq same ▸ List.mem_map_of_mem other)
        rw [List.filter_cons, beq_self_eq_true, if_pos rfl, none]
      · have other : name b ≠ name a := fun same =>
          distinct.1 (same ▸ List.mem_map_of_mem member)
        rw [List.filter_cons_of_neg (by simpa using other), ih distinct.2 member]

theorem find?_name {all : List α} {name : α → String} (distinct : (all.map name).Nodup) {a : α}
    (member : a ∈ all) : all.find? (name · == name a) = some a := by
  rw [← List.head?_filter, filter_name distinct member]
  rfl

theorem choice?_text {all : List α} {name : α → String} (distinct : (all.map name).Nodup) {a : α}
    (member : a ∈ all) : choice? all name (.text (name a)) = some a :=
  find?_name distinct member

theorem mapM_map_eq_some {read : β → Option γ} {write : α → β} {value : α → γ} {l : List α}
    (each : ∀ a ∈ l, read (write a) = some (value a)) :
    (l.map write).mapM read = some (l.map value) := by
  induction l with
  | nil => rfl
  | cons a later ih =>
      rw [List.forall_mem_cons] at each
      rw [List.map_cons, List.mapM_cons, each.1, ih each.2]
      rfl

theorem list?_map {toJson : α → Json} {ofJson? : Json → Option α}
    (back : ∀ a, ofJson? (toJson a) = some a) (l : List α) :
    list? ofJson? (.array (l.map toJson)) = some l := by
  rw [list?, mapM_map_eq_some fun a _ => back a, List.map_id']

theorem members?_record (members : List (String × Json)) :
    (record members).members? = some members := by
  refine (mapM_map_eq_some fun m _ => ?_).trans (congrArg some (List.map_id' members))
  rfl

theorem single?_of_mem {members : List (String × Json)} (distinct : (members.map (·.1)).Nodup)
    {m : String × Json} (member : m ∈ members) : single? members m.1 = some (some m.2) := by
  rw [single?, filter_name distinct member]

theorem fields?_record {names : List String} {values : List Json} (distinct : names.Nodup)
    (same : names.length = values.length) :
    fields? names (record (names.zip values)) = some (values.map some) := by
  have keys : (names.zip values).map (·.1) = names := List.map_fst_zip (Nat.le_of_eq same)
  have contents : (names.zip values).map (·.2) = values :=
    List.map_snd_zip (Nat.le_of_eq same.symm)
  have each : ∀ m ∈ names.zip values, single? (names.zip values) m.1 = some (some m.2) :=
    fun m => single?_of_mem (keys.symm ▸ distinct)
  calc fields? names (record (names.zip values))
      = (record (names.zip values)).members?.bind (names.mapM ∘ single?) := rfl
    _ = ((names.zip values).map (·.1)).mapM (single? (names.zip values)) := by
        rw [members?_record, keys]
        rfl
    _ = some ((names.zip values).map fun m => some m.2) := mapM_map_eq_some each
    _ = some (((names.zip values).map (·.2)).map some) := by rw [List.map_map]; rfl
    _ = some (values.map some) := by rw [contents]

theorem exact_record {members : List (String × Json)} (each : ∀ m ∈ members, Exact m.2) :
    Exact (record members) := by
  refine .object fun m member => ?_
  obtain ⟨n, among, rfl⟩ := List.mem_map.1 member
  exact each n among

theorem exact_record_zip {values : List Json} (each : ∀ v ∈ values, Exact v)
    (names : List String) : Exact (record (names.zip values)) :=
  exact_record fun m among => each m.2 (List.of_mem_zip among).2

end DpllWatch.Json
