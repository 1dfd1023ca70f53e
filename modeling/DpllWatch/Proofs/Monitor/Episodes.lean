import DpllWatch.Proofs.Monitor.Overlap

/-! Which countdown a monitor listens to. Episodes are numbered from one in the order in which they
begin, and the owned one is always the last. So a countdown that was given up is never listened to
again, and what it still has to say can be left out of a run. -/

namespace DpllWatch.Monitor

variable {m m' m'' : Monitor} {number : Nat}

inductive Succession (m m' : Monitor) : Prop where
  | kept : m'.episode = m.episode → m'.nextEpisode = m.nextEpisode → Succession m m'
  | released : m'.episode = none → m'.nextEpisode = m.nextEpisode → Succession m m'
  | begun : m'.episode = some m.nextEpisode → m'.nextEpisode = m.nextEpisode + 1 →
      Succession m m'

theorem Verdict.succession {inRange : Bool} (v : m.Verdict inRange m') : Succession m m' := by
  cases v with
  | unusable => exact .released rfl rfl
  | tracking => exact .released rfl rfl
  | straying => exact .released rfl rfl
  | recovered => exact .released rfl rfl
  | holding => exact .kept rfl rfl
  | latched => exact .kept rfl rfl
  | armed => exact .begun rfl rfl
  | spent => exact .released rfl rfl
  | kept => exact .kept rfl rfl

theorem decide_succession (m : Monitor) : Succession m m.decide.1 := by
  refine decide_cases (fun _ => .kept rfl rfl) fun w m' _ verdict => ?_
  cases verdict.succession with
  | kept same next => exact .kept same next
  | released idle next => exact .released idle next
  | begun owned next => exact .begun owned next

theorem Prelude.episode {input : Input} (p : Prelude m input m') :
    (m'.episode = m.episode ∨ m'.episode = none) ∧ m'.nextEpisode = m.nextEpisode := by
  rcases p.frame with ⟨_, outcome, _, _, rfl⟩ | ⟨_, _, _, _, _, _, _, _, rfl⟩
  · cases outcome <;> exact ⟨.inr rfl, rfl⟩
  · exact ⟨.inl rfl, rfl⟩

theorem Succession.of_prelude (before : m'.episode = m.episode ∨ m'.episode = none)
    (next : m'.nextEpisode = m.nextEpisode) (s : Succession m' m'') : Succession m m'' := by
  cases s with
  | kept same next' =>
      rcases before with before | before
      · exact .kept (same.trans before) (next'.trans next)
      · exact .released (same.trans before) (next'.trans next)
  | released idle next' => exact .released idle (next'.trans next)
  | begun owned next' => exact .begun (next ▸ owned) (next ▸ next')

theorem step_succession (m : Monitor) (input : Input) : Succession m (m.step input).1 := by
  have step := step_transition m input
  generalize (m.step input).1 = m' at step ⊢
  cases step with
  | concluded outcome => cases outcome <;> exact .released rfl rfl
  | tornDown => exact .released rfl rfl
  | decided p => exact .of_prelude p.episode.1 p.episode.2 (decide_succession _)
  | _ => exact .kept rfl rfl

theorem act_succession (m : Monitor) (move : Move) : Succession m (m.act move).1 := by
  cases move with
  | call input => exact step_succession m input
  | start => exact .kept rfl rfl
  | deliver source state =>
      rcases m.deliver_cases source state with same | decided
      · exact .kept (congrArg episode same) (congrArg nextEpisode same)
      · have owned := m.hear_episode source state
        have next := m.hear_nextEpisode source state
        rw [act, decided]
        exact .of_prelude (.inl owned) next (decide_succession _)
  | letGo =>
      rw [act, letGo, release_eq]
      exact .released rfl rfl
  | farewell => exact .kept rfl rfl
  | goDeaf => exact .kept rfl rfl

structure Numbered (m : Monitor) : Prop where
  next_pos : 0 < m.nextEpisode
  owned : ∀ episode, m.episode = some episode → 0 < episode ∧ episode + 1 = m.nextEpisode

theorem Succession.numbered (h : Numbered m) (s : Succession m m') : Numbered m' := by
  have pos := h.next_pos
  cases s with
  | kept same next =>
      refine ⟨by omega, ?_⟩
      intro episode owned
      rw [next]
      exact h.owned episode (same ▸ owned)
  | released idle next =>
      refine ⟨by omega, ?_⟩
      intro episode owned
      rw [idle] at owned
      nomatch owned
  | begun last next =>
      refine ⟨by omega, ?_⟩
      intro episode owned
      rw [last, Option.some.injEq] at owned
      omega

theorem numbered_of_create {settings : Settings} (created : create settings = .ok m) :
    Numbered m := by
  obtain ⟨_, _, rfl⟩ := eq_fresh_of_create created
  exact ⟨Nat.one_pos, nofun⟩

theorem Numbered.play (h : Numbered m) (moves : List Move) : Numbered (m.play moves).1 := by
  induction moves generalizing m with
  | nil => exact h
  | cons move rest ih => exact ih ((act_succession m move).numbered h)

def Past (m : Monitor) (number : Nat) : Prop :=
  number < m.nextEpisode ∧ m.episode ≠ some number

theorem Succession.past (h : Past m number) (s : Succession m m') : Past m' number := by
  obtain ⟨old, released⟩ := h
  cases s with
  | kept same next => exact ⟨next ▸ old, same ▸ released⟩
  | released idle next => exact ⟨next ▸ old, by simp [idle]⟩
  | begun owned next =>
      refine ⟨by omega, ?_⟩
      rw [owned, ne_eq, Option.some.injEq]
      omega

theorem Past.play (h : Past m number) (moves : List Move) : Past (m.play moves).1 number := by
  induction moves generalizing m with
  | nil => exact h
  | cons move rest ih => exact ih ((act_succession m move).past h)

theorem Past.not_owns (h : Past m number) : m.owns number = false := by
  rw [Bool.eq_false_iff, ne_eq, owns_iff]
  exact h.2

theorem Past.extrapolate (h : Past m number) (offset : Int64) :
    m.extrapolate number offset = (m, false) := by
  simp [Monitor.extrapolate, h.not_owns]

theorem Past.finish (h : Past m number) (outcome : Countdown.Outcome) :
    m.finish number outcome = (m, []) := by
  simp [Monitor.finish, h.not_owns]

/-- The episode that begins in a move, if one does: the monitor owns it afterwards and did not
before. -/
def Moment.begins (t : Moment) : Option Nat :=
  if t.after.episode = t.before.episode then none else t.after.episode

def begun (m : Monitor) (moves : List Move) : List Nat :=
  (m.moments moves).filterMap Moment.begins

theorem Moment.begins_cases {t : Moment} (h : Numbered t.before) :
    t.begins = none ∧ t.after.nextEpisode = t.before.nextEpisode ∨
      t.begins = some t.before.nextEpisode ∧
        t.after.nextEpisode = t.before.nextEpisode + 1 := by
  unfold Moment.begins
  have succession : Succession t.before t.after := act_succession _ _
  cases succession with
  | kept same next => exact .inl ⟨if_pos same, next⟩
  | released idle next =>
      refine .inl ⟨?_, next⟩
      rw [idle, ite_self]
  | begun owned next =>
      -- The number is fresh, so the new episode is not the old one again.
      have new : t.after.episode ≠ t.before.episode := by
        rw [owned]
        intro old
        have := h.owned _ old.symm
        omega
      exact .inr ⟨by rw [if_neg new, owned], next⟩

theorem begun_eq_range' (h : Numbered m) (moves : List Move) :
    ∃ n, m.begun moves = List.range' m.nextEpisode n ∧
      (m.play moves).1.nextEpisode = m.nextEpisode + n := by
  induction moves generalizing m with
  | nil => exact ⟨0, rfl, rfl⟩
  | cons move rest ih =>
      obtain ⟨n, later, next⟩ := ih ((act_succession m move).numbered h)
      have moment := Moment.begins_cases (t := ⟨m, move⟩) h
      simp only [Moment.after] at moment
      simp only [begun, moments, play] at later next ⊢
      rcases moment with ⟨first, same⟩ | ⟨first, up⟩
      · refine ⟨n, ?_, by omega⟩
        rw [List.filterMap_cons_none first, later, same]
      · refine ⟨n + 1, ?_, by omega⟩
        rw [List.filterMap_cons_some first, later, up, List.range'_succ]

/-- A call of a countdown that the monitor does not own. -/
def Moment.late (t : Moment) : Bool :=
  match t.move with
  | .call (.extrapolate episode _) | .call (.finish episode _) => !t.before.owns episode
  | _ => false

theorem Moment.act_of_late {t : Moment} (h : t.late = true) :
    t.before.act t.move = (t.before, []) := by
  obtain ⟨m, move⟩ := t
  cases move with
  | call input =>
      apply step_of_not_hears
      cases input <;> simp_all [Moment.late, hears]
  | _ => simp [Moment.late] at h

theorem play_filter_of_late (kept : Moment → Bool) {moves : List Move}
    (h : ∀ t ∈ m.moments moves, kept t = false → t.late = true) :
    m.play (((m.moments moves).filter kept).map Moment.move) = m.play moves := by
  induction moves generalizing m with
  | nil => rfl
  | cons move rest ih =>
      simp only [moments, List.forall_mem_cons] at h
      have later := ih h.2
      cases keep : kept ⟨m, move⟩ with
      | true =>
          rw [moments, List.filter_cons_of_pos keep, List.map_cons, play_cons, play_cons, later]
      | false =>
          have still : m.act move = (m, []) := Moment.act_of_late (h.1 keep)
          rw [still] at later
          rw [moments, List.filter_cons_of_neg (by simp [keep]), play_cons, still, later]
          rfl

/-- In every run the episodes have different numbers and the monitor owns the one that began last
or none at all. Leaving out calls of countdowns that are not owned makes no difference to
where the run ends or to what is offered. -/
theorem late_calls_inert {settings : Settings} (created : create settings = .ok m)
    (moves : List Move) :
    (m.begun moves).Nodup ∧
      (∀ episode, (m.play moves).1.owns episode = true →
        (m.begun moves).getLast? = some episode) ∧
      ∀ kept : Moment → Bool, (∀ t ∈ m.moments moves, kept t = false → t.late = true) →
        m.play (((m.moments moves).filter kept).map Moment.move) = m.play moves := by
  have start := numbered_of_create created
  have first : m.nextEpisode = 1 := by
    obtain ⟨_, _, rfl⟩ := eq_fresh_of_create created
    rfl
  obtain ⟨n, numbers, next⟩ := begun_eq_range' start moves
  refine ⟨?_, ?_, fun kept late => play_filter_of_late kept late⟩
  · rw [numbers]
    exact List.nodup_range'
  · intro episode owned
    obtain ⟨pos, last⟩ := (start.play moves).owned episode (owns_iff.1 owned)
    rw [numbers, List.getLast?_range', if_neg (by omega), Option.some.injEq]
    omega

/-- Two outages. The countdown of the first still speaks during the second, and that of the second
when a stop has given it up. A notification that was let in before starts a third. -/
def overlap : List Move :=
  [Input.bind .standard, .resolved .sysfs, .activate, .sample ⟨some 3, some 3, some 40⟩,
    .notify .gnss .freeRun, .notify .gnss .locked, .extrapolate 1 500, .notify .gnss .freeRun,
    .extrapolate 2 20, .finish 1 .expired].map .call ++
  [.letGo, .call (.finish 2 .cancelled), .farewell, .goDeaf, .deliver .gnss .holdover]

theorem late_calls_inert_overlap :
    ∃ m, create (.standard 1 "ens1f0" [.gnss]) = .ok m ∧ m.begun overlap = [1, 2, 3] ∧
      (m.begun overlap).Nodup ∧ (m.play overlap).1.owns 3 = true ∧
      (m.begun overlap).getLast? = some 3 ∧
      m.play (overlap.eraseIdx 11 |>.eraseIdx 9 |>.eraseIdx 6) = m.play overlap := by
  obtain ⟨m, created, begun, owned, few⟩ :
      ∃ m, create (.standard 1 "ens1f0" [.gnss]) = .ok m ∧ m.begun overlap = [1, 2, 3] ∧
        (m.play overlap).1.owns 3 = true ∧
        ((m.moments overlap).filter (!·.late)).map Moment.move =
          (overlap.eraseIdx 11 |>.eraseIdx 9 |>.eraseIdx 6) := ⟨_, rfl, rfl, rfl, rfl⟩
  obtain ⟨distinct, last, inert⟩ := late_calls_inert created overlap
  refine ⟨m, created, begun, distinct, owned, last 3 owned, ?_⟩
  rw [← few]
  exact inert (!·.late) (by simp)

end DpllWatch.Monitor
