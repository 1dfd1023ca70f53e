import DpllWatch.Proofs.Monitor.Step
import Mathlib.Data.List.Induction

/-! Notifications that say nothing new. A monitor keeps what each source last told it, and a
notification that tells the same again leaves no trace: nothing that happens later depends on it. -/

namespace DpllWatch.Monitor

variable {m : Monitor}

/-- What a source tells the monitor with an input. Only a monitor that is monitoring listens. -/
def Turn.told? (source : Source) (t : Turn) : Option SyncState :=
  match t.input with
  | .notify s state => if t.before.monitoring = true ∧ s = source then some state else none
  | _ => none

def Turn.changes (source : Source) (t : Turn) : Bool :=
  (t.told? source).any (t.before.lastSeen.get source != ·)

/-- The state that a source told last in a run; unknown, if it told none. -/
def lastTold (m : Monitor) (source : Source) (inputs : List Input) : SyncState :=
  ((m.history inputs).filterMap (Turn.told? source)).getLast?.getD .unknown

theorem hear_lastSeen (m : Monitor) (source : Source) (state : SyncState) :
    (m.hear source state).lastSeen = m.lastSeen.set source state := by
  unfold hear
  dsimp only
  split <;> rfl

theorem notify_of_repeated {source : Source} {state : SyncState}
    (h : m.monitoring = false ∨ m.lastSeen.get source = state) :
    m.step (.notify source state) = (m, []) := by
  refine step_of_not_hears ?_
  rcases h with idle | same
  · simp [hears, idle]
  · simp [hears, same]

theorem notify_of_change {source : Source} {state : SyncState} (active : m.monitoring = true)
    (news : m.lastSeen.get source ≠ state) :
    m.step (.notify source state) = (m.hear source state).decide := by
  simp [step, notify, active, news]

theorem repeated_of_notified (m : Monitor) (source : Source) (state : SyncState) :
    (m.step (.notify source state)).1.monitoring = false ∨
      (m.step (.notify source state)).1.lastSeen.get source = state := by
  by_cases repeated : m.monitoring = false ∨ m.lastSeen.get source = state
  · rw [notify_of_repeated repeated]
    exact repeated
  · rw [not_or, Bool.not_eq_false] at repeated
    rw [notify_of_change repeated.1 repeated.2, decide_lastSeen, hear_lastSeen,
      PerSource.get_set_self]
    exact .inr rfl

theorem step_of_not_notify {input : Input} (other : ∀ source state, input ≠ .notify source state) :
    (m.step input).1.lastSeen = m.lastSeen ∧ (m.step input).1.sourceLost = m.sourceLost := by
  have step := step_transition m input
  generalize (m.step input).1 = m' at step ⊢
  cases step with
  | concluded outcome => cases outcome <;> exact ⟨rfl, rfl⟩
  | @decided _ m' p =>
      rw [decide_lastSeen, decide_sourceLost]
      cases p with
      | @notify source state => exact absurd rfl (other source state)
      | sample r | ingest r =>
          obtain ⟨_, _, _, _, rfl⟩ := r.frame
          exact ⟨rfl, rfl⟩
      | @finish _ outcome => cases outcome <;> exact ⟨rfl, rfl⟩
  | _ => exact ⟨rfl, rfl⟩

theorem Turn.told?_notify (source s : Source) (state : SyncState) :
    told? source ⟨m, .notify s state⟩ =
      if m.monitoring = true ∧ s = source then some state else none := rfl

theorem Turn.lastSeen_after (t : Turn) (source : Source) :
    t.after.lastSeen.get source = (t.told? source).getD (t.before.lastSeen.get source) := by
  obtain ⟨m, input⟩ := t
  cases input with
  | notify s state =>
      rw [told?_notify, after]
      by_cases repeated : m.monitoring = false ∨ m.lastSeen.get s = state
      · rw [notify_of_repeated repeated]
        split
        · next told =>
          obtain ⟨active, rfl⟩ := told
          simpa [active] using repeated
        · rfl
      · rw [not_or, Bool.not_eq_false] at repeated
        rw [notify_of_change repeated.1 repeated.2, decide_lastSeen, hear_lastSeen,
          PerSource.get_set, repeated.1]
        by_cases told : s = source
        · simp [told]
        · simp [told, Ne.symm told]
  | _ =>
      refine congrArg (·.get source) (step_of_not_notify fun _ _ same => ?_).1
      cases same

theorem Turn.lastSeen_of_not_changes (t : Turn) (source : Source)
    (h : t.changes source = false) :
    t.after.lastSeen.get source = t.before.lastSeen.get source := by
  rw [lastSeen_after]
  unfold changes at h
  cases told : t.told? source <;> simp_all

theorem Turn.changes_of_repeated {s : Source} {state : SyncState}
    (repeated : m.monitoring = false ∨ m.lastSeen.get s = state) (source : Source) :
    changes source ⟨m, .notify s state⟩ = false := by
  rw [changes, told?_notify]
  split
  · next told =>
    obtain ⟨active, rfl⟩ := told
    simpa [active] using repeated
  · rfl

theorem Turn.sourceLost_after_eq (t : Turn) : t.after.sourceLost =
    if t.changes .gnss then t.after.lastSeen.get .gnss != .locked else t.before.sourceLost := by
  obtain ⟨m, input⟩ := t
  cases input with
  | notify s state =>
      by_cases repeated : m.monitoring = false ∨ m.lastSeen.get s = state
      · rw [after, notify_of_repeated repeated, changes_of_repeated repeated]
        rfl
      · rw [not_or, Bool.not_eq_false] at repeated
        rw [after, notify_of_change repeated.1 repeated.2, decide_lastSeen, hear_lastSeen,
          PerSource.get_set, decide_sourceLost, hear_sourceLost, changes, told?_notify]
        by_cases gnss : s = .gnss
        · subst gnss
          simp [repeated.1, repeated.2]
        · simp [gnss]
  | _ =>
      refine (step_of_not_notify fun _ _ same => ?_).2
      cases same

theorem run_append (m : Monitor) (earlier later : List Input) :
    m.run (earlier ++ later) = (((m.run earlier).1.run later).1,
      (m.run earlier).2 ++ ((m.run earlier).1.run later).2) := by
  induction earlier generalizing m with
  | nil => rfl
  | cons input rest ih => simp [run_cons, ih]

theorem history_append (m : Monitor) (earlier later : List Input) :
    m.history (earlier ++ later) = m.history earlier ++ (m.run earlier).1.history later := by
  induction earlier generalizing m with
  | nil => rfl
  | cons input rest ih => simp [history, run_cons, ih]

theorem run_lastSeen (m : Monitor) (source : Source) (inputs : List Input) :
    (m.run inputs).1.lastSeen.get source =
      ((m.history inputs).filterMap (Turn.told? source)).getLast?.getD
        (m.lastSeen.get source) := by
  induction inputs generalizing m with
  | nil => rfl
  | cons input rest ih =>
      have first := Turn.lastSeen_after ⟨m, input⟩ source
      rw [run_cons, ih, history, List.filterMap_cons]
      cases told : Turn.told? source ⟨m, input⟩ <;>
        simp_all [Turn.after, List.getLast?_cons]

theorem run_sourceLost (m : Monitor) (inputs : List Input) :
    (m.run inputs).1.sourceLost =
      if (m.history inputs).any (Turn.changes .gnss) then
        (m.run inputs).1.lastSeen.get .gnss != .locked
      else m.sourceLost := by
  -- By the last input: it decides if it brings a change, and else what was before it does.
  induction inputs using List.reverseRecOn with
  | nil => rfl
  | append_singleton inputs input ih =>
      have last : (m.run (inputs ++ [input])).1 = Turn.after ⟨(m.run inputs).1, input⟩ := by
        rw [run_append]
        rfl
      have kept := Turn.lastSeen_of_not_changes ⟨(m.run inputs).1, input⟩ .gnss
      rw [last, Turn.sourceLost_after_eq, history_append, List.any_append]
      cases changes : Turn.changes .gnss ⟨(m.run inputs).1, input⟩ with
      | true => simp [history, changes]
      | false => simp [history, changes, kept changes, ih]

section

variable {settings : Settings}

theorem lastSeen_of_created (created : create settings = .ok m) (inputs : List Input)
    (source : Source) : (m.run inputs).1.lastSeen.get source = m.lastTold source inputs := by
  obtain ⟨settings, drift, rfl⟩ := eq_fresh_of_create created
  have blank : (fresh settings drift).lastSeen.get source = .unknown := PerSource.get_const _ _
  rw [run_lastSeen, blank, lastTold]

theorem sourceLost_of_created (created : create settings = .ok m) (inputs : List Input) :
    (m.run inputs).1.sourceLost = true ↔
      (∃ t ∈ m.history inputs, t.changes .gnss = true) ∧ m.lastTold .gnss inputs ≠ .locked := by
  rw [run_sourceLost, lastSeen_of_created created]
  obtain ⟨settings, drift, rfl⟩ := eq_fresh_of_create created
  simp [fresh]

end

end DpllWatch.Monitor
