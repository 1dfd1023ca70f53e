import DpllWatch.Proofs.Settings.Reading
import DpllWatch.Settings.Daemon

/-! The settings of several interfaces. Each interface gets what it would get alone, up to the first
one that fails, and a clock id is looked up once for each interface that has none. -/

namespace DpllWatch.DaemonSettings

open Settings (clockIdKey clockIdText limitKeys numberOr maxHoldoverOffsetKey holdoverTimeoutKey
  maxInSpecOffsetKey)

variable {ε : Type} {d : DaemonSettings} {answer : String → Except ε UInt64}
  {lookup : List String → String → Except ε UInt64} {done rest : List String}
  {table : Table String} {interface : String} {s : Settings}

def unidentified (d : DaemonSettings) (interface : String) : Bool :=
  (d.ptpSettings.get? (clockIdKey interface)).isNone

/-- The interfaces that need a lookup, each where it occurs first. -/
def lookups (d : DaemonSettings) (interfaces : List String) : List String :=
  (interfaces.filter d.unidentified).eraseDups

/-- What a lookup answers about an interface at its turn. -/
def answers (d : DaemonSettings) (lookup : List String → String → Except ε UInt64)
    (interface : String) : Except ε UInt64 :=
  lookup ((d.lookups d.interfaces).takeWhile (· != interface)) interface

/-- The settings of one interface, from the configured table and its own clock id. -/
def alone (d : DaemonSettings) (answer : String → Except ε UInt64) (interface : String) :
    Except (ConfigureError ε) Settings :=
  if d.unidentified interface then
    match answer interface with
    | .error e => .error (.noClockId interface e)
    | .ok id =>
      (Settings.ofTable interface (d.ptpSettings.put (clockIdKey interface) (clockIdText id))
        d.dependsOn).mapError .settings
  else (Settings.ofTable interface d.ptpSettings d.dependsOn).mapError .settings

/-- The interfaces up to the first one that fails, which is among them. -/
def reached (d : DaemonSettings) (answer : String → Except ε UInt64) (interfaces : List String) :
    List String :=
  interfaces.take (interfaces.findIdx (fun i => !(d.alone answer i).isOk) + 1)

theorem mem_lookups {interfaces : List String} :
    interface ∈ d.lookups interfaces ↔ interface ∈ interfaces ∧ d.unidentified interface = true := by
  rw [lookups, List.mem_eraseDups, List.mem_filter]

theorem lookups_append (interfaces more : List String) :
    d.lookups (interfaces ++ more) =
      d.lookups interfaces ++ ((more.filter d.unidentified).removeAll
        (interfaces.filter d.unidentified)).eraseDups := by
  rw [lookups, List.filter_append, List.eraseDups_append, lookups]

theorem lookups_append_cons (needed : d.unidentified interface = true)
    (new : interface ∉ d.lookups done) (rest : List String) :
    d.lookups (done ++ interface :: rest) = d.lookups done ++ interface ::
      (((rest.filter d.unidentified).removeAll (done.filter d.unidentified)).filter
        (fun i => !i == interface)).eraseDups := by
  have absent : (done.filter d.unidentified).contains interface = false := by
    simpa [mem_lookups] using new
  rw [lookups_append, List.filter_cons_of_pos needed, List.cons_removeAll, if_pos absent,
    List.eraseDups_cons]

theorem lookups_concat_of_new (needed : d.unidentified interface = true)
    (new : interface ∉ d.lookups done) :
    d.lookups (done ++ [interface]) = d.lookups done ++ [interface] := by
  rw [lookups_append_cons needed new, List.filter_nil, List.nil_removeAll, List.filter_nil,
    List.eraseDups_nil]

theorem lookups_concat_of_known
    (known : d.unidentified interface = true → interface ∈ d.lookups done) :
    d.lookups (done ++ [interface]) = d.lookups done := by
  have nothing : ([interface].filter d.unidentified).removeAll (done.filter d.unidentified) = [] := by
    cases needed : d.unidentified interface with
    | false => simp [needed]
    | true =>
        have present := (mem_lookups.1 (known needed)).1
        simp [needed, present, List.cons_removeAll]
  rw [lookups_append, nothing, List.eraseDups_nil, List.append_nil]

theorem answers_eq (whole : done ++ interface :: rest = d.interfaces)
    (needed : d.unidentified interface = true) (new : interface ∉ d.lookups done) :
    d.answers lookup interface = lookup (d.lookups done) interface := by
  have others : ∀ i ∈ d.lookups done, (i != interface) = true := fun i member =>
    bne_iff_ne.2 fun same => new (same ▸ member)
  rw [answers, ← whole, lookups_append_cons needed new, List.takeWhile_append_of_pos others,
    List.takeWhile_cons_of_neg (by simp), List.append_nil]

/-! ## The table -/

/-- What the table holds when some interfaces are done: the clock ids that were looked up for them,
beside what it held before. -/
structure Known (d : DaemonSettings) (answer : String → Except ε UInt64) (done : List String)
    (table : Table String) : Prop where
  found : ∀ i ∈ d.lookups done, ∃ id, answer i = .ok id ∧
    table.get? (clockIdKey i) = some (clockIdText id)
  kept : ∀ key, (∀ i ∈ d.lookups done, clockIdKey i ≠ key) →
    table.get? key = d.ptpSettings.get? key

theorem Known.start : Known d answer [] d.ptpSettings where
  found i member := by simp [lookups] at member
  kept _ _ := rfl

theorem Known.limit (h : Known d answer done table) {key : String} (limit : key ∈ limitKeys) :
    table.get? key = d.ptpSettings.get? key :=
  h.kept key fun i _ same => Settings.clockIdKey_not_mem_limitKeys i (same ▸ limit)

theorem Known.other (h : Known d answer done table) (new : interface ∉ d.lookups done) :
    table.get? (clockIdKey interface) = d.ptpSettings.get? (clockIdKey interface) :=
  h.kept _ fun _ member same => new (Settings.clockIdKey_injective same ▸ member)

theorem Known.put {id : UInt64} (h : Known d answer done table)
    (needed : d.unidentified interface = true) (new : interface ∉ d.lookups done)
    (answered : answer interface = .ok id) :
    Known d answer (done ++ [interface])
      (table.put (clockIdKey interface) (clockIdText id)) where
  found i member := by
    rw [lookups_concat_of_new needed new, List.mem_append, List.mem_singleton] at member
    rcases member with old | rfl
    · obtain ⟨id', before, found⟩ := h.found i old
      have different : clockIdKey i ≠ clockIdKey interface := fun same =>
        new (Settings.clockIdKey_injective same ▸ old)
      exact ⟨id', before, by rw [Table.get?_put, if_neg different, found]⟩
    · exact ⟨id, answered, by rw [Table.get?_put, if_pos rfl]⟩
  kept key others := by
    rw [lookups_concat_of_new needed new] at others
    have different := others interface (List.mem_append_right _ (List.mem_singleton_self _))
    rw [Table.get?_put, if_neg (Ne.symm different)]
    exact h.kept key fun i member => others i (List.mem_append_left _ member)

theorem Known.alone_eq (h : Known d answer done table)
    (known : d.unidentified interface = true → interface ∈ d.lookups done) :
    d.alone answer interface =
      (Settings.ofTable interface table d.dependsOn).mapError .settings := by
  unfold alone
  split
  · next needed =>
    obtain ⟨id, answered, found⟩ := h.found interface (known needed)
    have same : ∀ key ∈ clockIdKey interface :: limitKeys,
        (d.ptpSettings.put (clockIdKey interface) (clockIdText id)).get? key = table.get? key := by
      rw [List.forall_mem_cons]
      refine ⟨by rw [Table.get?_put, if_pos rfl, found], fun key limit => ?_⟩
      have different : key ≠ clockIdKey interface := fun same =>
        Settings.clockIdKey_not_mem_limitKeys interface (same ▸ limit)
      rw [Table.get?_put, if_neg different, h.limit limit]
    simp only [answered, Settings.ofTable_congr same]
  · next needless =>
    have new : interface ∉ d.lookups done := fun member => needless (mem_lookups.1 member).2
    have same : ∀ key ∈ clockIdKey interface :: limitKeys,
        d.ptpSettings.get? key = table.get? key := by
      rw [List.forall_mem_cons]
      exact ⟨(h.other new).symm, fun key limit => (h.limit limit).symm⟩
    rw [Settings.ofTable_congr same]

theorem Known.identify_eq (h : Known d (d.answers lookup) done table)
    (whole : done ++ interface :: rest = d.interfaces) :
    (∃ table', identify lookup (d.lookups done) table interface =
        (d.lookups (done ++ [interface]), .ok table') ∧
      Known d (d.answers lookup) (done ++ [interface]) table') ∨
    ∃ e, identify lookup (d.lookups done) table interface =
        (d.lookups (done ++ [interface]), .error e) ∧
      d.alone (d.answers lookup) interface = .error e := by
  by_cases known : d.unidentified interface = true → interface ∈ d.lookups done
  · have holds : ∃ raw, table.get? (clockIdKey interface) = some raw := by
      cases needed : d.unidentified interface with
      | true =>
          obtain ⟨id, -, found⟩ := h.found interface (known needed)
          exact ⟨_, found⟩
      | false =>
          have new : interface ∉ d.lookups done := fun member =>
            Bool.false_ne_true (needed.symm.trans (mem_lookups.1 member).2)
          rw [h.other new]
          exact Option.isSome_iff_exists.1 (Option.isNone_eq_false_iff.1 needed)
    obtain ⟨raw, found⟩ := holds
    refine .inl ⟨table, ?_, ?_⟩
    · rw [identify, found, lookups_concat_of_known known]
    · constructor <;> rw [lookups_concat_of_known known]
      · exact h.found
      · exact h.kept
  · obtain ⟨needed, new⟩ := Classical.not_imp.1 known
    have absent : table.get? (clockIdKey interface) = none := by
      rw [h.other new]
      exact Option.isNone_iff_eq_none.1 needed
    have asked : d.answers lookup interface = lookup (d.lookups done) interface :=
      answers_eq whole needed new
    rw [identify, absent, ← asked, lookups_concat_of_new needed new]
    cases answered : d.answers lookup interface with
    | ok id => exact .inl ⟨_, rfl, h.put needed new answered⟩
    | error e => exact .inr ⟨_, rfl, by rw [alone, if_pos needed, answered]⟩

/-! ## A whole run -/

theorem reached_cons_of_ok (ok : d.alone answer interface = .ok s) (rest : List String) :
    d.reached answer (interface :: rest) = interface :: d.reached answer rest := by
  simp [reached, List.findIdx_cons, ok, Except.isOk, Except.toBool]

theorem reached_cons_of_error {e : ConfigureError ε} (failed : d.alone answer interface = .error e)
    (rest : List String) : d.reached answer (interface :: rest) = [interface] := by
  simp [reached, List.findIdx_cons, failed, Except.isOk, Except.toBool]

theorem configureFrom_eq :
    ∀ {done : List String} {table : Table String}, Known d (d.answers lookup) done table →
      done ++ rest = d.interfaces →
      configureFrom lookup d.dependsOn (d.lookups done) table rest =
        (d.lookups (done ++ d.reached (d.answers lookup) rest),
          rest.mapM (d.alone (d.answers lookup))) := by
  induction rest with
  | nil =>
      intro done table _ _
      rw [configureFrom, List.mapM_nil, reached, List.take_nil, List.append_nil]
      rfl
  | cons interface rest ih =>
      intro done table h whole
      rw [List.mapM_cons, configureFrom]
      rcases h.identify_eq whole with ⟨table', identified, h'⟩ | ⟨e, identified, failed⟩
      · have known : d.unidentified interface = true → interface ∈ d.lookups (done ++ [interface]) :=
          fun needed => mem_lookups.2 ⟨List.mem_append_right _ (List.mem_singleton_self _), needed⟩
        have single := h'.alone_eq known
        have whole' : (done ++ [interface]) ++ rest = d.interfaces := by
          rw [List.append_assoc, List.singleton_append, whole]
        simp only [identified]
        cases made : Settings.ofTable interface table' d.dependsOn with
        | error e =>
            rw [made] at single
            rw [single, reached_cons_of_error single]
            rfl
        | ok s =>
            rw [made] at single
            rw [single, reached_cons_of_ok single, ih h' whole', List.append_assoc,
              List.singleton_append]
            cases rest.mapM (d.alone (d.answers lookup)) <;> rfl
      · simp only [identified]
        rw [failed, reached_cons_of_error failed]
        rfl

/-! ## What each interface gets -/

/-- What an interface gets on its own: its clock id is the one that was looked up or the one that is
configured, the rest is what the configured table says, and a monitor accepts it. -/
structure Given (d : DaemonSettings) (answer : String → Except ε UInt64) (interface : String)
    (s : Settings) : Prop where
  name : s.interface = interface
  sources : s.dependsOn = d.dependsOn
  found : d.unidentified interface = true → answer interface = .ok s.clockId
  configured : ∀ raw, d.ptpSettings.get? (clockIdKey interface) = some raw →
    Settings.number (clockIdKey interface) raw = .ok s.clockId
  maxOffset : numberOr d.ptpSettings maxHoldoverOffsetKey 1500 = .ok s.maxHoldoverOffset
  timeout : numberOr d.ptpSettings holdoverTimeoutKey 14400 = .ok s.holdoverTimeout
  inSpec : numberOr d.ptpSettings maxInSpecOffsetKey 100 = .ok s.maxInSpecOffset
  accepted : ∃ m, Monitor.create s = .ok m

/-- The configured table and the name of an interface make valid settings, whatever clock id it may
still need. -/
structure Sound (d : DaemonSettings) (interface : String) : Prop where
  named : interface ≠ ""
  clockId : ∀ raw, d.ptpSettings.get? (clockIdKey interface) = some raw →
    ∃ id, Settings.number (clockIdKey interface) raw = .ok id
  maxOffset : ∃ n, numberOr d.ptpSettings maxHoldoverOffsetKey 1500 = .ok n ∧ n ≠ 0
  timeout : ∃ n, numberOr d.ptpSettings holdoverTimeoutKey 14400 = .ok n ∧ n ≠ 0
  inSpec : ∃ n, numberOr d.ptpSettings maxInSpecOffsetKey 100 = .ok n

theorem numberOr_put_clockId {key : String} (limit : key ∈ limitKeys) (text : String)
    (default : UInt64) :
    numberOr (d.ptpSettings.put (clockIdKey interface) text) key default =
      numberOr d.ptpSettings key default := by
  have different : key ≠ clockIdKey interface := fun same =>
    Settings.clockIdKey_not_mem_limitKeys interface (same ▸ limit)
  rw [numberOr, numberOr, Table.get?_put, if_neg different]

theorem spelled_put_iff {id : UInt64} :
    Settings.Spelled interface (d.ptpSettings.put (clockIdKey interface) (clockIdText id))
        d.dependsOn s ↔
      s.interface = interface ∧ s.dependsOn = d.dependsOn ∧ id = s.clockId ∧
        numberOr d.ptpSettings maxHoldoverOffsetKey 1500 = .ok s.maxHoldoverOffset ∧
        numberOr d.ptpSettings holdoverTimeoutKey 14400 = .ok s.holdoverTimeout ∧
        numberOr d.ptpSettings maxInSpecOffsetKey 100 = .ok s.maxInSpecOffset ∧ s.Valid := by
  have reads : (d.ptpSettings.put (clockIdKey interface) (clockIdText id)).get?
      (clockIdKey interface) = some (clockIdText id) := by
    rw [Table.get?_put, if_pos rfl]
  constructor
  · rintro ⟨name, sources, ⟨raw, found, spelled⟩, maxOffset, timeout, inSpec, valid⟩
    obtain rfl := Option.some.inj (reads.symm.trans found)
    rw [numberOr_put_clockId (by decide)] at maxOffset timeout inSpec
    exact ⟨name, sources, Except.ok.inj ((Settings.number_clockIdText _ id).symm.trans spelled),
      maxOffset, timeout, inSpec, valid⟩
  · rintro ⟨name, sources, rfl, maxOffset, timeout, inSpec, valid⟩
    refine ⟨name, sources, ⟨_, reads, Settings.number_clockIdText _ _⟩, ?_, ?_, ?_, valid⟩ <;>
      rwa [numberOr_put_clockId (by decide)]

theorem alone_eq_ok_iff : d.alone answer interface = .ok s ↔ d.Given answer interface s := by
  unfold alone
  split
  · next needed =>
    have unset : d.ptpSettings.get? (clockIdKey interface) = none :=
      Option.isNone_iff_eq_none.1 needed
    have bare : ∀ raw, d.ptpSettings.get? (clockIdKey interface) ≠ some raw := by simp [unset]
    cases answered : answer interface with
    | error e =>
        refine iff_of_false nofun fun h => ?_
        nomatch answered.symm.trans (h.found needed)
    | ok id =>
        simp only [Settings.mapError_eq_ok_iff, Settings.ofTable_eq_ok_iff, spelled_put_iff]
        constructor
        · rintro ⟨name, sources, rfl, maxOffset, timeout, inSpec, valid⟩
          exact ⟨name, sources, fun _ => answered, fun raw found => absurd found (bare raw),
            maxOffset, timeout, inSpec, Settings.exists_create_iff.2 valid⟩
        · intro h
          exact ⟨h.name, h.sources, Except.ok.inj (answered.symm.trans (h.found needed)),
            h.maxOffset, h.timeout, h.inSpec, Settings.exists_create_iff.1 h.accepted⟩
  · next needless =>
    obtain ⟨raw, set⟩ : ∃ raw, d.ptpSettings.get? (clockIdKey interface) = some raw :=
      Option.ne_none_iff_exists'.1 fun unset => needless (Option.isNone_iff_eq_none.2 unset)
    rw [Settings.mapError_eq_ok_iff, Settings.ofTable_eq_ok_iff]
    constructor
    · rintro ⟨name, sources, ⟨raw', found, spelled⟩, maxOffset, timeout, inSpec, valid⟩
      refine ⟨name, sources, fun needed => absurd needed needless, fun raw'' found' => ?_,
        maxOffset, timeout, inSpec, Settings.exists_create_iff.2 valid⟩
      obtain rfl := Option.some.inj (found.symm.trans found')
      exact spelled
    · intro h
      exact ⟨h.name, h.sources, ⟨raw, set, h.configured raw set⟩, h.maxOffset, h.timeout, h.inSpec,
        Settings.exists_create_iff.1 h.accepted⟩

theorem exists_clockId
    (answered : d.unidentified interface = true → ∃ id, answer interface = .ok id)
    (spelled : ∀ raw, d.ptpSettings.get? (clockIdKey interface) = some raw →
      ∃ id, Settings.number (clockIdKey interface) raw = .ok id) :
    ∃ id, (d.unidentified interface = true → answer interface = .ok id) ∧
      ∀ raw, d.ptpSettings.get? (clockIdKey interface) = some raw →
        Settings.number (clockIdKey interface) raw = .ok id := by
  cases set : d.ptpSettings.get? (clockIdKey interface) with
  | none =>
      obtain ⟨id, found⟩ := answered (Option.isNone_iff_eq_none.2 set)
      exact ⟨id, fun _ => found, nofun⟩
  | some raw =>
      obtain ⟨id, configured⟩ := spelled raw set
      refine ⟨id, fun needed => ?_, ?_⟩
      · nomatch (Option.isNone_iff_eq_none.1 needed).symm.trans set
      · rintro _ ⟨⟩
        exact configured

theorem exists_given_iff : (∃ s, d.Given answer interface s) ↔
    (d.unidentified interface = true → ∃ id, answer interface = .ok id) ∧ d.Sound interface := by
  constructor
  · rintro ⟨s, h⟩
    have valid := Settings.exists_create_iff.1 h.accepted
    exact ⟨fun needed => ⟨_, h.found needed⟩, h.name ▸ valid.named,
      fun raw found => ⟨_, h.configured raw found⟩, ⟨_, h.maxOffset, valid.maxOffset⟩,
      ⟨_, h.timeout, valid.timeout⟩, ⟨_, h.inSpec⟩⟩
  · rintro ⟨answered, named, spelled, ⟨maxOffset, maxOffset_eq, maxOffset_ne⟩,
      ⟨timeout, timeout_eq, timeout_ne⟩, ⟨inSpec, inSpec_eq⟩⟩
    obtain ⟨id, found, configured⟩ := exists_clockId answered spelled
    exact ⟨⟨id, interface, maxOffset, timeout, inSpec, d.dependsOn⟩, rfl, rfl, found, configured,
      maxOffset_eq, timeout_eq, inSpec_eq,
      Settings.exists_create_iff.2 ⟨named, timeout_ne, maxOffset_ne⟩⟩

/-- The interfaces are looked up and set up one after the other until one fails. All of them succeed
if every lookup does and every interface is sound, and then each one has what it gets on its own. -/
theorem configures_each_alone (d : DaemonSettings)
    (lookup : List String → String → Except ε UInt64) :
    (d.configureWith lookup).1 = d.lookups (d.reached (d.answers lookup) d.interfaces) ∧
      (d.configureWith lookup).2 = d.interfaces.mapM (d.alone (d.answers lookup)) ∧
      (∀ configs, (d.configureWith lookup).2 = .ok configs ↔
        List.Forall₂ (d.Given (d.answers lookup)) d.interfaces configs) ∧
      ((∃ configs, (d.configureWith lookup).2 = .ok configs) ↔ ∀ i ∈ d.interfaces,
        (d.unidentified i = true → ∃ id, d.answers lookup i = .ok id) ∧ d.Sound i) := by
  have run : d.configureWith lookup = (d.lookups (d.reached (d.answers lookup) d.interfaces),
      d.interfaces.mapM (d.alone (d.answers lookup))) :=
    configureFrom_eq Known.start rfl
  rw [run]
  refine ⟨rfl, rfl, fun configs => ?_, ?_⟩
  · simp only [Settings.mapM_eq_ok_iff, alone_eq_ok_iff]
  · simp only [Settings.exists_mapM_eq_ok_iff, alone_eq_ok_iff, exists_given_iff]

/-- The second time an interface has the clock id that was looked up the first time. -/
example :
    let lookup (asked : List String) (_ : String) : Except Unit UInt64 := .ok (.ofNat asked.length)
    let run := configureWith { standard with interfaces := ["b", "a", "b"] } lookup
    (run.1, (run.2.map (·.map (·.clockId))).toOption) = (["b", "a"], some [0, 1, 0]) := by
  cbv

end DpllWatch.DaemonSettings
