import DpllWatch.SourceStates
import Mathlib.Data.List.Induction

/-! A table of source states after any history. What it holds of a source is the last report of it,
and the worst of that is up to date after every call. How reports of different sources were mixed
leaves no trace. -/

namespace DpllWatch

namespace SyncState

theorem meet_eq_or (a b : SyncState) : meet a b = a ∨ meet a b = b := by
  unfold meet
  split
  · exact .inl rfl
  · exact .inr rfl

theorem foldl_meet_mem (s : SyncState) (rest : List SyncState) : rest.foldl meet s ∈ s :: rest := by
  induction rest generalizing s with
  | nil => exact List.mem_cons_self
  | cons r rest ih =>
      rcases List.mem_cons.1 (ih (meet s r)) with same | later
      · rw [List.foldl_cons, same]
        rcases meet_eq_or s r with h | h <;> simp [h]
      · exact List.mem_cons_of_mem s (List.mem_cons_of_mem r later)

theorem rank_foldl_meet_le (s : SyncState) (rest : List SyncState) :
    ∀ r ∈ s :: rest, (rest.foldl meet s).rank ≤ r.rank := by
  induction rest generalizing s with
  | nil => simp
  | cons r rest ih =>
      have both := ih (meet s r)
      rw [List.forall_mem_cons, rank_meet] at both
      simp only [List.forall_mem_cons, List.foldl_cons]
      exact ⟨by omega, by omega, both.2⟩

theorem sublist_of_rank_le {a b : SyncState} (le : a.rank ≤ b.rank) :
    b = a ∨ [a, b].Sublist [unknown, freeRun, holdover, locked] := by
  cases a <;> cases b <;> revert le <;> decide

end SyncState

namespace SourceStates

inductive Notice where
  | register (source : Source)
  | update (source : Source) (state : SyncState)
  | record (source : Source) (state : SyncState)
deriving DecidableEq, Repr

namespace Notice

def source : Notice → Source
  | register source | update source _ | record source _ => source

def report? : Notice → Option SyncState
  | register _ => none
  | update _ state | record _ state => some state

def handed? : Notice → Option (Source × SyncState)
  | record source state => some (source, state)
  | register _ | update .. => none

end Notice

/-! ## What a history says -/

/-- The last report of a source, or that it has been heard of and has not reported. -/
def lastKnown (history : List Notice) (source : Source) : Option SyncState :=
  let own := history.filter (·.source = source)
  if own.isEmpty then none else some ((own.filterMap Notice.report?).getLast?.getD .unknown)

theorem lastKnown_concat (history : List Notice) (n : Notice) (source : Source) :
    lastKnown (history ++ [n]) source =
      if source = n.source then some (n.report?.getD ((lastKnown history source).getD .unknown))
      else lastKnown history source := by
  unfold lastKnown
  by_cases own : n.source = source
  · simp only [List.filter_append, List.filterMap_append, own, List.filter_cons_of_pos,
      List.filter_nil, decide_true, if_true]
    cases report : n.report? with
    | none =>
        cases history.filter (·.source = source) <;> simp [report]
    | some state => simp [report]
  · simp [List.filter_append, own, Ne.symm own]

theorem lastKnown_congr {history history' : List Notice} {source : Source}
    (same : history'.filter (·.source = source) = history.filter (·.source = source)) :
    lastKnown history' source = lastKnown history source := by
  unfold lastKnown
  rw [same]

/-! ## What a table holds -/

/-- Of what is known of the sources, the state is the worst; it is free running if nothing is. -/
structure Worst (known : Source → Option SyncState) (worst : SyncState) : Prop where
  idle : (∀ source, known source = none) → worst = .freeRun
  held : (∃ source, (known source).isSome) → ∃ source, known source = some worst
  least : ∀ source state, known source = some state →
    state = worst ∨ [worst, state].Sublist [.unknown, .freeRun, .holdover, .locked]

theorem mem_reported {t : PerSource (Option SyncState)} {state : SyncState} :
    state ∈ reported t ↔ ∃ source, t.get source = some state := by
  simp [reported, List.mem_filterMap, Source.mem_all]

theorem worst_worstOf (t : PerSource (Option SyncState)) : Worst t.get (worstOf t) := by
  unfold worstOf
  cases reports : reported t with
  | nil =>
      have nothing : ∀ source state, t.get source ≠ some state := by
        intro source state h
        have member := mem_reported.2 ⟨source, h⟩
        rw [reports] at member
        nomatch member
      refine ⟨fun _ => rfl, ?_, fun source state h => absurd h (nothing source state)⟩
      rintro ⟨source, some⟩
      obtain ⟨state, h⟩ := Option.isSome_iff_exists.1 some
      exact absurd h (nothing source state)
  | cons s rest =>
      have least := SyncState.foldl_meet_mem s rest
      rw [← reports, mem_reported] at least
      refine ⟨fun nothing => ?_, fun _ => least, fun source state h => ?_⟩
      · obtain ⟨source, h⟩ := least
        rw [nothing] at h
        nomatch h
      · have member := mem_reported.2 ⟨source, h⟩
        rw [reports] at member
        exact SyncState.sublist_of_rank_le (SyncState.rank_foldl_meet_le s rest state member)

def Fresh (u : SourceStates) : Prop := u.worst = worstOf u.states

theorem Fresh.ext {u u' : SourceStates} (h : u.Fresh) (h' : u'.Fresh)
    (same : ∀ source, u'.stateOf source = u.stateOf source) : u' = u := by
  obtain ⟨states, worst⟩ := u
  obtain ⟨states', worst'⟩ := u'
  obtain rfl : states' = states := PerSource.ext_get same
  obtain rfl : worst = worst' := h.trans h'.symm
  rfl

section

variable {σ : Type} (next : Source → SyncState → σ → σ)

/-- Tells a table something. Reports that it records are handed on to `next`. -/
def heed : SourceStates × σ → Notice → SourceStates × σ
  | (u, s), .register source => (u.register source, s)
  | (u, s), .update source state => ((u.update source state).2, s)
  | (u, s), .record source state => (u.record source state (next source state) s).2

def heedAll (history : List Notice) (s : σ) : SourceStates × σ :=
  history.foldl (heed next) (empty, s)

theorem heedAll_concat (history : List Notice) (n : Notice) (s : σ) :
    heedAll next (history ++ [n]) s = heed next (heedAll next history s) n := by
  rw [heedAll, List.foldl_append, List.foldl_cons, List.foldl_nil, heedAll]

theorem stateOf_heed (u : SourceStates) (s : σ) (n : Notice) (source : Source) :
    (heed next (u, s) n).1.stateOf source =
      if source = n.source then some (n.report?.getD ((u.stateOf source).getD .unknown))
      else u.stateOf source := by
  cases n with
  | register own =>
      refine (PerSource.get_set _ _ _ _).trans ?_
      by_cases h : source = own
      · subst h
        rfl
      · simp [h, Notice.source, stateOf]
  | update own state => exact PerSource.get_set _ _ _ _
  | record own state => exact PerSource.get_set _ _ _ _

theorem fresh_heed (u : SourceStates) (s : σ) (n : Notice) : (heed next (u, s) n).1.Fresh := by
  cases n <;> rfl

theorem handed_heed (u : SourceStates) (s : σ) (n : Notice) :
    (heed next (u, s) n).2 = n.handed?.elim s fun report => next report.1 report.2 s := by
  cases n <;> rfl

theorem stateOf_heedAll (history : List Notice) (s : σ) (source : Source) :
    (heedAll next history s).1.stateOf source = lastKnown history source := by
  induction history using List.reverseRecOn with
  | nil => exact PerSource.get_const none source
  | append_singleton history n ih => rw [heedAll_concat, stateOf_heed, ih, lastKnown_concat]

theorem fresh_heedAll (history : List Notice) (s : σ) : (heedAll next history s).1.Fresh := by
  cases history using List.reverseRecOn with
  | nil => rfl
  | append_singleton history n =>
      rw [heedAll_concat]
      exact fresh_heed next _ _ n

theorem handed_heedAll (history : List Notice) (s : σ) :
    (heedAll next history s).2 =
      (history.filterMap Notice.handed?).foldl (fun s report => next report.1 report.2 s) s := by
  induction history using List.reverseRecOn with
  | nil => rfl
  | append_singleton history n ih =>
      rw [heedAll_concat, handed_heed, ih, List.filterMap_append, List.foldl_append]
      cases h : n.handed? <;> simp [h]

theorem update_fst_iff {u : SourceStates} {source : Source} {state : SyncState} :
    (u.update source state).1 = true ↔ state ≠ (u.stateOf source).getD .unknown := by
  simp only [update, bne_iff_ne, stateOf]
  exact ne_comm

/-- After any history a table holds the last report of each source and the worst of them. Every
recorded report has been handed on once, and the next one will be, whether it is a repeated one or
not; an update tells which it is. Histories that agree on the last reports give one table. -/
theorem holds_last_reports (history : List Notice) (s : σ) :
    let told := heedAll next history s
    let known := lastKnown history
    (∀ source, told.1.stateOf source = known source) ∧
      Worst known told.1.worst ∧
      told.2 =
        (history.filterMap Notice.handed?).foldl (fun s report => next report.1 report.2 s) s ∧
      (∀ source state,
        ((told.1.update source state).1 = true ↔ state ≠ (known source).getD .unknown) ∧
        ∀ f : σ → σ, ((told.1.record source state f told.2).1 = true ↔
            state ≠ (known source).getD .unknown) ∧
          (told.1.record source state f told.2).2 = ((told.1.update source state).2, f told.2)) ∧
      (∀ history' s', (heedAll next history' s').1 = told.1 ↔ lastKnown history' = known) ∧
      ∀ history' s', (∀ source, history'.filter (·.source = source) =
        history.filter (·.source = source)) → (heedAll next history' s').1 = told.1 := by
  intro told known
  have stateOf (source : Source) : told.1.stateOf source = known source :=
    stateOf_heedAll next history s source
  have worst : Worst known told.1.worst := by
    have fresh : told.1.Fresh := fresh_heedAll next history s
    have held : told.1.states.get = known := funext stateOf
    rw [fresh, ← held]
    exact worst_worstOf _
  have changed (source : Source) (state : SyncState) :
      (told.1.update source state).1 = true ↔ state ≠ (known source).getD .unknown := by
    rw [update_fst_iff, stateOf]
  have same_iff (history' : List Notice) (s' : σ) :
      (heedAll next history' s').1 = told.1 ↔ lastKnown history' = known := by
    refine ⟨fun same => ?_, fun same => ?_⟩
    · funext source
      rw [← stateOf_heedAll next history' s', same, stateOf]
    · refine (fresh_heedAll next history s).ext (fresh_heedAll next history' s') fun source => ?_
      rw [stateOf_heedAll, same]
      exact (stateOf source).symm
  refine ⟨stateOf, worst, handed_heedAll next history s, ?_, same_iff, ?_⟩
  · exact fun source state => ⟨changed source state, fun f => ⟨changed source state, rfl⟩⟩
  · exact fun history' s' same => (same_iff history' s').2
      (funext fun source => lastKnown_congr (same source))

end

end SourceStates

end DpllWatch
