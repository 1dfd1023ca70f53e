import DpllWatch.Monitor.Snapshot
import DpllWatch.Proofs.Json.Schema
import DpllWatch.Settings.Document

/-! Events, snapshots and settings are read back from the documents that are written for them. Each
part of a value is read back on its own, and the value then from its fields. -/

namespace DpllWatch

open Json

/-- The document of a value is read as the value, and what is read from it has no other document. -/
structure ReadsBack {α : Type} (toJson : α → Json) (ofJson? : Json → Option α) (a : α) : Prop where
  value : (parse? (toJson a).render).bind ofJson? = some a
  again : ∀ b, (parse? (toJson a).render).bind ofJson? = some b →
    (toJson b).render = (toJson a).render

theorem readsBack_of_exact {α : Type} {toJson : α → Json} {ofJson? : Json → Option α} {a : α}
    (exact : Exact (toJson a)) (back : ofJson? (toJson a) = some a) :
    ReadsBack toJson ofJson? a := by
  have value : (parse? (toJson a).render).bind ofJson? = some a := by
    rw [parse?_render exact, Option.bind_some, back]
  refine ⟨value, fun b read => ?_⟩
  rw [Option.some.inj (value.symm.trans read)]

/-! ## Names -/

@[simp] theorem SyncState.ofJson?_toJson (s : SyncState) : ofJson? s.toJson = some s :=
  choice?_text (by decide) s.mem_all

@[simp] theorem Source.ofJson?_toJson (s : Source) : ofJson? s.toJson = some s :=
  choice?_text (by decide) s.mem_all

@[simp] theorem ClockKind.ofJson?_toJson (k : ClockKind) : ofJson? k.toJson = some k :=
  choice?_text (by decide) k.mem_all

@[simp] theorem LockStatus.ofJson?_toJson (s : LockStatus) : ofJson? s.toJson = some s :=
  choice?_text (by decide) s.mem_all

@[simp] theorem Backend.ofJson?_toJson (b : Backend) : ofJson? b.toJson = some b :=
  choice?_text (by decide) b.mem_all

/-! ## Records -/

namespace Readings

theorem entry?_of_reading (entry : Reading × Int64) :
    entry? (entry.1.name, .int entry.2.toInt) = some entry := by
  unfold entry?
  rw [find?_name (by decide) entry.1.mem_all, int64?_toInt]
  rfl

theorem foldl_set_toList (t : Readings) :
    t.toList.foldl (fun t entry => t.set entry.1 entry.2) empty = t := by
  obtain ⟨frequencyStatus, offset, phaseStatus⟩ := t
  cases frequencyStatus <;> cases offset <;> cases phaseStatus <;> rfl

@[simp] theorem ofJson?_toJson (t : Readings) : ofJson? t.toJson = some t := by
  have entries : (t.toList.map fun entry => (entry.1.name, Json.int entry.2.toInt)).mapM entry? =
      some t.toList := by
    rw [mapM_map_eq_some fun entry _ => entry?_of_reading entry, List.map_id']
  rw [ofJson?, toJson, members?_record]
  simp [entries, foldl_set_toList]

theorem exact_toJson (t : Readings) : Exact t.toJson := by
  apply exact_record
  intro m member
  obtain ⟨entry, -, rfl⟩ := List.mem_map.1 member
  exact .int _

end Readings

namespace Event

theorem ofJson?_toJson (e : Event) : ofJson? e.toJson = some e := by
  rw [ofJson?, toJson, fields?_record (by decide) rfl, Option.bind_eq_bind, Option.bind_some]
  simp [text, text?, bool?]

theorem exact_toJson (e : Event) : Exact e.toJson := by
  apply exact_record_zip
  simp only [List.forall_mem_cons]
  exact ⟨.string _, .string _, .string _, .string _, .string _, .int _, e.readings.exact_toJson,
    .bool _, .bool _, List.forall_mem_nil _⟩

end Event

namespace Snapshot

theorem ofJson?_toJson (s : Snapshot) : ofJson? s.toJson = some s := by
  rw [ofJson?, toJson, fields?_record (by decide) rfl, Option.bind_eq_bind, Option.bind_some]
  simp [text, text?, bool?]

theorem exact_toJson (s : Snapshot) : Exact s.toJson := by
  apply exact_record_zip
  simp only [List.forall_mem_cons]
  exact ⟨.string _, .int _, .string _, .string _, .string _, .int _, .int _, .string _, .bool _,
    .bool _, .bool _, .bool _, .int _, List.forall_mem_nil _⟩

end Snapshot

namespace Settings

theorem ofJson?_toJson (s : Settings) : ofJson? s.toJson = some s := by
  rw [ofJson?, toJson, fields?_record (by decide) rfl, Option.bind_eq_bind, Option.bind_some]
  simp [text, text?, list?_map Source.ofJson?_toJson]

theorem exact_toJson (s : Settings) : Exact s.toJson := by
  have sources : Exact (.array (s.dependsOn.map Source.toJson)) := by
    apply Exact.array
    intro item member
    obtain ⟨source, -, rfl⟩ := List.mem_map.1 member
    exact .string _
  apply exact_record_zip
  simp only [List.forall_mem_cons]
  exact ⟨.int _, .string _, .int _, .int _, .int _, sources, List.forall_mem_nil _⟩

end Settings

/-- Every event, snapshot and settings, whatever texts and numbers they hold, are read back from
their documents, and the document of an event takes one line. -/
theorem documents_read_back :
    (∀ e : Event, ReadsBack Event.toJson Event.ofJson? e ∧ '\n' ∉ e.toJson.render.toList) ∧
      (∀ s : Snapshot, ReadsBack Snapshot.toJson Snapshot.ofJson? s) ∧
      ∀ s : Settings, ReadsBack Settings.toJson Settings.ofJson? s := by
  refine ⟨fun e => ⟨readsBack_of_exact e.exact_toJson e.ofJson?_toJson, fun newline => ?_⟩,
    fun s => readsBack_of_exact s.exact_toJson s.ofJson?_toJson,
    fun s => readsBack_of_exact s.exact_toJson s.ofJson?_toJson⟩
  rw [render, String.toList_ofList] at newline
  exact absurd (plain_print e.exact_toJson _ newline) (by decide)

end DpllWatch
