import DpllWatch.Proofs.Monitor.Overlap

/-! What a monitor offers in the course of a run: while it is bound and does not stop, a report of
every decision, and when it is torn down a reset report, which is the last. So the last report
offered always shows the monitor as it is. -/

namespace DpllWatch.Monitor

variable {m m' : Monitor}

/-- A teardown is complete: what the monitor offers now is its last word. -/
def Moment.closes (t : Moment) : Bool :=
  match t.move with
  | .farewell => true
  | .call .teardown => !t.before.tornDown
  | _ => false

/-- The report of the decision made in this moment, if one is made and is to be heard of. -/
def Moment.news (t : Moment) : List Report :=
  if t.before.stopping || t.after.decisions == t.before.decisions then []
  else (t.before.profile.map t.after.report).toList

def Moment.lastWord (t : Moment) : List Report :=
  if t.closes then (t.before.profile.map t.before.resetReport).toList else []

theorem letGo_eq (m : Monitor) : m.letGo = { m with
    tornDown := true, stopping := true, episode := none,
    inSpec := m.episode.isSome || m.inSpec } := release_eq _

structure Undecided (m m' : Monitor) : Prop where
  decisions : m'.decisions = m.decisions
  stopping : m'.stopping = m.stopping
  tornDown : m'.tornDown = m.tornDown
  profile : m'.profile = m.profile

theorem Undecided.hear (m : Monitor) (source : Source) (state : SyncState) :
    Undecided m (m.hear source state) := by
  obtain ⟨_, _, _, _, h⟩ := m.hear_frame source state
  rw [h]
  exact ⟨rfl, rfl, rfl, rfl⟩

theorem Undecided.refresh (r : Refresh m m') : Undecided m m' := by
  cases r <;> exact ⟨rfl, rfl, rfl, rfl⟩

theorem Undecided.conclude (m : Monitor) (outcome : Countdown.Outcome) :
    Undecided m (m.conclude outcome) := by
  cases outcome <;> exact ⟨rfl, rfl, rfl, rfl⟩

/-- Whatever is done to a monitor either ends in a decision or leaves alone what reports show. -/
inductive Reported (t : Moment) : Prop where
  | decided {m : Monitor} : Undecided t.before m → t.closes = false →
      t.before.act t.move = m.decide → Reported t
  | undecided {m : Monitor} : t.before.act t.move = (m, t.lastWord) →
      m.decisions = t.before.decisions →
      (t.before.stopping = false → m.report = t.before.report) → Reported t

theorem finish_reported {episode : Nat} (outcome : Countdown.Outcome)
    (owned : m.owns episode = true) : Reported ⟨m, .call (.finish episode outcome)⟩ := by
  have undecided := Undecided.conclude m outcome
  cases stopping : m.stopping with
  | true =>
      have still : (m.conclude outcome).stopping = true := undecided.stopping.trans stopping
      have concluded : m.act (.call (.finish episode outcome)) = (m.conclude outcome, []) := by
        simp only [act, step, finish, owned, still, if_true]
      exact .undecided concluded undecided.decisions fun running => by simp [stopping] at running
  | false =>
      have still : (m.conclude outcome).stopping = false := undecided.stopping.trans stopping
      refine .decided undecided rfl ?_
      simp only [act, step, finish, owned, still, if_true, Bool.false_eq_true, if_false]

theorem step_reported (m : Monitor) (input : Input) : Reported ⟨m, .call input⟩ := by
  cases heard : m.hears input with
  | false =>
      have silent : Moment.lastWord ⟨m, .call input⟩ = [] := by
        cases input <;> simp_all [Moment.lastWord, Moment.closes, hears]
      refine .undecided ?_ rfl fun _ => rfl
      rw [silent]
      exact step_of_not_hears heard
  | true =>
      cases input with
      | activate =>
          simp only [hears, Bool.not_eq_true'] at heard
          have begun : m.act (.call .activate) = (m.start, []) := by
            simp [act, step, activate, heard, start]
          exact .undecided begun rfl fun _ => rfl
      | notify source state =>
          simp only [hears, Bool.and_eq_true, bne_iff_ne] at heard
          refine .decided (.hear m source state) rfl ?_
          simp only [act, step, notify, heard, Bool.not_true, Bool.false_eq_true, if_false]
      | sample s => exact .decided (.refresh (takeSample_refresh m s)) rfl rfl
      | ingest devices =>
          simp only [hears] at heard
          refine .decided (.refresh (takeDevices_refresh m devices)) rfl ?_
          simp only [act, step, ingest, heard, if_true]
      | extrapolate episode offset =>
          simp only [hears] at heard
          have told : m.act (.call (.extrapolate episode offset)) =
              ({ m with offset := offset }, []) := by
            simp only [act, step, extrapolate, heard, if_true]
          exact .undecided told rfl fun _ => rfl
      | finish episode outcome => exact finish_reported outcome heard
      | teardown =>
          simp only [hears, Bool.not_eq_true'] at heard
          have ended : m.act (.call .teardown) =
              (m.letGo.goDeaf, (m.profile.map m.resetReport).toList) := by
            rw [act, step, teardown_eq_play heard]
            simp only [play, act, letGo_eq, List.nil_append, List.append_nil]
            rfl
          have lastWord : Moment.lastWord ⟨m, .call .teardown⟩ =
              (m.profile.map m.resetReport).toList := by
            simp [Moment.lastWord, Moment.closes, heard]
          rw [← lastWord, letGo_eq] at ended
          exact .undecided ended rfl fun _ => rfl
      | _ => exact .undecided rfl rfl fun _ => rfl

theorem Moment.reported (t : Moment) : Reported t := by
  obtain ⟨m, move⟩ := t
  cases move with
  | call input => exact step_reported m input
  | deliver source state =>
      by_cases same : m.lastSeen.get source = state
      · have told : m.act (.deliver source state) = (m, []) := by simp [act, deliver, same]
        exact .undecided told rfl fun _ => rfl
      · refine .decided (.hear m source state) rfl ?_
        simp [act, deliver, same]
  | letGo =>
      refine .undecided rfl ?_ fun _ => ?_
      · rw [letGo_eq]
      · rw [letGo_eq]
        rfl
  | _ => exact .undecided rfl rfl fun _ => rfl

theorem Moment.offers (t : Moment) : (t.before.act t.move).2 = t.news ++ t.lastWord := by
  cases t.reported with
  | decided u silent decision =>
      have after : t.after = _ := congrArg Prod.fst decision
      have counted : (t.after.decisions == t.before.decisions) = false := by
        rw [after, decide_decisions, u.decisions]
        simp
      rw [decision, decide_offers, u.stopping, u.profile, ← after]
      simp [news, lastWord, silent, counted]
  | undecided act same =>
      have after : t.after = _ := congrArg Prod.fst act
      simp [news, after, same, act]

theorem Moment.decisions_le (t : Moment) : t.after.decisions ≤ t.before.decisions + 1 := by
  cases t.reported with
  | decided u _ decision =>
      have after : t.after = _ := congrArg Prod.fst decision
      exact Nat.le_of_eq (by rw [after, decide_decisions, u.decisions])
  | undecided act same =>
      have after : t.after = _ := congrArg Prod.fst act
      rw [after, same]
      exact Nat.le_succ _

theorem Moment.told {t : Moment} (running : t.before.stopping = false) :
    t.after.decisions = t.before.decisions ∧ t.after.report = t.before.report ∨
      t.before.decisions < t.after.decisions ∧
        t.news = (t.before.profile.map t.after.report).toList := by
  cases t.reported with
  | decided u _ decision =>
      have after : t.after = _ := congrArg Prod.fst decision
      have counted : t.after.decisions = t.before.decisions + 1 := by
        rw [after, decide_decisions, u.decisions]
      refine .inr ⟨by omega, ?_⟩
      simp [news, running, counted]
  | undecided act same shown =>
      have after : t.after = _ := congrArg Prod.fst act
      rw [after]
      exact .inl ⟨same, shown running⟩

theorem play_offers (m : Monitor) (moves : List Move) :
    (m.play moves).2 = (m.moments moves).flatMap fun t => t.news ++ t.lastWord := by
  induction moves generalizing m with
  | nil => rfl
  | cons move rest ih =>
      rw [play_cons, moments, List.flatMap_cons, ← ih, ← Moment.offers]

/-- What stays true once it is, and what stays the same unless the monitor is bound anew. -/
structure Lasting (move : Move) (m m' : Monitor) : Prop where
  stopping : m.stopping = true → m'.stopping = true
  tornDown : m.tornDown = true → m'.tornDown = true
  profile : (∀ p, move ≠ .call (.bind p)) → m'.profile = m.profile

theorem Undecided.lasting {move : Move} (u : Undecided m m') : Lasting move m m'.decide.1 where
  stopping h := by rw [decide_stopping, u.stopping, h]
  tornDown h := by rw [decide_tornDown, u.tornDown, h]
  profile _ := by rw [decide_profile, u.profile]

theorem Prelude.undecided {input : Input} (p : Prelude m input m') : Undecided m m' := by
  cases p with
  | notify => exact .hear m _ _
  | sample r => exact .refresh r
  | ingest r => exact .refresh r
  | finish => exact .conclude m _

theorem step_lasting (m : Monitor) (input : Input) : Lasting (.call input) m (m.step input).1 := by
  have step := step_transition m input
  generalize (m.step input).1 = m' at step ⊢
  cases step with
  | bound p => exact ⟨fun h => h, fun h => h, fun unbound => absurd rfl (unbound p)⟩
  | concluded outcome => cases outcome <;> exact ⟨fun h => h, fun h => h, fun _ => rfl⟩
  | stopped => exact ⟨fun _ => rfl, fun h => h, fun _ => rfl⟩
  | tornDown => exact ⟨fun _ => rfl, fun _ => rfl, fun _ => rfl⟩
  | decided p => exact p.undecided.lasting
  | _ => exact ⟨fun h => h, fun h => h, fun _ => rfl⟩

theorem act_lasting (m : Monitor) (move : Move) : Lasting move m (m.act move).1 := by
  cases move with
  | call input => exact step_lasting m input
  | deliver source state =>
      rcases m.deliver_cases source state with same | decided
      · rw [act, same]
        exact ⟨fun h => h, fun h => h, fun _ => rfl⟩
      · rw [act, decided]
        exact (Undecided.hear m source state).lasting
  | letGo =>
      rw [act, letGo_eq]
      exact ⟨fun _ => rfl, fun _ => rfl, fun _ => rfl⟩
  | _ => exact ⟨fun h => h, fun h => h, fun _ => rfl⟩

theorem map_move_moments (m : Monitor) (moves : List Move) :
    (m.moments moves).map Moment.move = moves := by
  induction moves generalizing m with
  | nil => rfl
  | cons move rest ih => rw [moments, List.map_cons, ih]

theorem forall_moments {P : Monitor → Prop} (lasting : ∀ m move, P m → P (m.act move).1)
    (h : P m) (moves : List Move) : ∀ t ∈ m.moments moves, P t.before := by
  induction moves generalizing m with
  | nil => simp [moments]
  | cons move rest ih => exact List.forall_mem_cons.2 ⟨h, ih (lasting m move h)⟩

theorem news_of_stopping (h : m.stopping = true) {moves : List Move} {t : Moment}
    (ht : t ∈ m.moments moves) : t.news = [] := by
  have stopping := forall_moments (P := (·.stopping = true))
    (fun m move => (m.act_lasting move).stopping) h moves t ht
  simp [Moment.news, stopping]

theorem farewell_mem_of_closes (h : m.tornDown = true) {moves : List Move} {t : Moment}
    (ht : t ∈ m.moments moves) (closes : t.closes = true) : .farewell ∈ moves := by
  have tornDown := forall_moments (P := (·.tornDown = true))
    (fun m move => (m.act_lasting move).tornDown) h moves t ht
  have said : t.move ∈ moves := by
    rw [← m.map_move_moments moves]
    exact List.mem_map_of_mem ht
  have farewell : t.move = .farewell := by
    unfold Moment.closes at closes
    split at closes
    · assumption
    · simp [tornDown] at closes
    · nomatch closes
  exact farewell ▸ said

def Move.ofTeardown : Move → Bool
  | .letGo | .farewell | .goDeaf => true
  | _ => false

/-- The parts of a teardown come once and in order, and the first of them only to a monitor that has
not been torn down. -/
structure Orderly (m : Monitor) (moves : List Move) : Prop where
  parts : moves.filter Move.ofTeardown <+: [.letGo, .farewell, .goDeaf]
  first : ∀ t ∈ m.moments moves, t.move = .letGo → t.before.tornDown = false

theorem Orderly.letGo_mem {moves : List Move} (h : Orderly m moves)
    (said : .farewell ∈ moves) : .letGo ∈ moves := by
  have due : .farewell ∈ moves.filter Move.ofTeardown := List.mem_filter.2 ⟨said, rfl⟩
  obtain ⟨first, rest, hp⟩ := List.exists_cons_of_ne_nil (List.ne_nil_of_mem due)
  have parts := h.parts
  rw [hp, List.cons_prefix_cons] at parts
  have first : .letGo ∈ moves.filter Move.ofTeardown := by
    rw [hp, parts.1]
    exact List.mem_cons_self
  exact (List.mem_filter.1 first).1

theorem Orderly.farewell_not_mem {moves : List Move} (h : Orderly m moves)
    (tornDown : m.tornDown = true) : .farewell ∉ moves := by
  intro said
  have begun := h.letGo_mem said
  rw [← m.map_move_moments moves, List.mem_map] at begun
  obtain ⟨t, ht, letGo⟩ := begun
  have fresh := h.first t ht letGo
  have late := forall_moments (P := (·.tornDown = true))
    (fun m move => (m.act_lasting move).tornDown) tornDown moves t ht
  rw [late] at fresh
  nomatch fresh

def Silent (t u : Moment) : Prop := t.closes = true → u.closes = false ∧ u.news = []

theorem silent_of_tornDown (tornDown : m.tornDown = true) (stopping : m.stopping = true)
    {moves : List Move} (once : moves.count .farewell ≤ 1) :
    (m.moments moves).Pairwise Silent := by
  induction moves generalizing m with
  | nil => exact .nil
  | cons move rest ih =>
      have lasting := m.act_lasting move
      have later : rest.count .farewell ≤ (move :: rest).count .farewell :=
        (List.sublist_cons_self move rest).count_le _
      refine .cons ?_ (ih (lasting.tornDown tornDown) (lasting.stopping stopping)
        (Nat.le_trans later once))
      intro u hu closes
      refine ⟨?_, news_of_stopping (lasting.stopping stopping) hu⟩
      have farewell : move = .farewell := by
        have said : .farewell ∈ [move] :=
          farewell_mem_of_closes tornDown (List.mem_singleton_self _) closes
        exact (List.mem_singleton.1 said).symm
      rw [farewell, List.count_cons_self] at once
      have said : .farewell ∉ rest := List.count_eq_zero.1 (by omega)
      rw [Bool.eq_false_iff]
      exact fun again => said (farewell_mem_of_closes (lasting.tornDown tornDown) hu again)

theorem Orderly.silent {moves : List Move} (h : Orderly m moves) :
    (m.moments moves).Pairwise Silent := by
  induction moves generalizing m with
  | nil => exact .nil
  | cons move rest ih =>
      have first := h.first
      have parts := h.parts
      simp only [moments, List.forall_mem_cons] at first
      cases part : move.ofTeardown with
      | true =>
          -- No part comes before this one, so it is the first.
          rw [List.filter_cons_of_pos part, List.cons_prefix_cons] at parts
          obtain ⟨rfl, parts⟩ := parts
          have once : rest.count .farewell ≤ 1 := by
            rw [← List.count_filter (p := Move.ofTeardown) rfl]
            exact parts.sublist.count_le .farewell
          refine .cons (fun _ _ => nofun) (silent_of_tornDown ?_ ?_ once)
          · rw [act, letGo_eq]
          · rw [act, letGo_eq]
      | false =>
          rw [List.filter_cons_of_neg (by simp [part])] at parts
          have later : Orderly (m.act move).1 rest := ⟨parts, first.2⟩
          refine .cons ?_ (ih later)
          intro u hu closes
          obtain ⟨stopping, tornDown⟩ : (m.act move).1.stopping = true ∧
              (m.act move).1.tornDown = true := by
            unfold Moment.closes at closes
            split at closes
            · simp_all [Move.ofTeardown]
            · simp_all [act, step, teardown, release_eq]
            · cases closes
          refine ⟨?_, news_of_stopping stopping hu⟩
          rw [Bool.eq_false_iff]
          exact fun again =>
            later.farewell_not_mem tornDown (farewell_mem_of_closes tornDown hu again)

theorem flatMap_offers {moments : List Moment} (silent : moments.Pairwise Silent) :
    (moments.flatMap fun t => t.news ++ t.lastWord) = moments.flatMap Moment.news ++
      ((moments.find? Moment.closes).bind fun t =>
        t.before.profile.map t.before.resetReport).toList := by
  induction moments with
  | nil => rfl
  | cons t rest ih =>
      obtain ⟨after, silent⟩ := List.pairwise_cons.1 silent
      rw [List.flatMap_cons, List.flatMap_cons]
      cases closes : t.closes with
      | true =>
          have quiet : (rest.flatMap fun u => u.news ++ u.lastWord) = [] := by
            refine List.flatMap_eq_nil_iff.2 fun u hu => ?_
            obtain ⟨closed, none⟩ := after u hu closes
            simp [none, Moment.lastWord, closed]
          have none : rest.flatMap Moment.news = [] :=
            List.flatMap_eq_nil_iff.2 fun u hu => (after u hu closes).2
          rw [quiet, none, List.find?_cons_of_pos closes]
          simp [Moment.lastWord, closes]
      | false =>
          rw [ih silent, List.find?_cons_of_neg (by simp [closes])]
          simp [Moment.lastWord, closes]

theorem play_stopping (h : m.stopping = true) (moves : List Move) :
    (m.play moves).1.stopping = true := by
  induction moves generalizing m with
  | nil => exact h
  | cons move rest ih => exact ih ((m.act_lasting move).stopping h)

theorem running_of_play {moves : List Move} (h : (m.play moves).1.stopping = false) :
    m.stopping = false := by
  rw [Bool.eq_false_iff] at h ⊢
  exact fun stopping => h (play_stopping stopping moves)

theorem play_append (m : Monitor) (earlier later : List Move) :
    (m.play (earlier ++ later)).1 = ((m.play earlier).1.play later).1 ∧
      (m.play (earlier ++ later)).2 =
        (m.play earlier).2 ++ ((m.play earlier).1.play later).2 := by
  induction earlier generalizing m with
  | nil => exact ⟨rfl, rfl⟩
  | cons move rest ih =>
      obtain ⟨state, offered⟩ := ih (m.act move).1
      rw [List.cons_append, play_cons, play_cons, state, offered, List.append_assoc]
      exact ⟨rfl, rfl⟩

theorem Orderly.farewell_not_mem_of_running {moves : List Move} (h : Orderly m moves)
    (running : (m.play moves).1.stopping = false) : .farewell ∉ moves := by
  intro said
  obtain ⟨earlier, later, rfl⟩ := List.append_of_mem (h.letGo_mem said)
  rw [(m.play_append earlier _).1, play_cons] at running
  have going := running_of_play (m := ((m.play earlier).1.act .letGo).1) running
  rw [act, letGo_eq] at going
  cases going

theorem lastWord_eq_nil_of_running {move : Move} (running : (m.act move).1.stopping = false)
    (mute : move ≠ .farewell) : Moment.lastWord ⟨m, move⟩ = [] := by
  unfold Moment.lastWord
  rw [if_neg]
  intro closes
  unfold Moment.closes at closes
  split at closes
  · exact mute ‹_›
  · simp_all [act, step, teardown, release_eq]
  · cases closes

theorem last_report {p : Profile} {moves : List Move} (bound : m.profile = some p)
    (unchanged : ∀ q, .call (.bind q) ∉ moves) (mute : .farewell ∉ moves)
    (running : (m.play moves).1.stopping = false) :
    ((m.play moves).1.decisions = m.decisions ∧ (m.play moves).1.report = m.report ∧
        (m.play moves).2 = []) ∨
      (m.play moves).2.getLast? = some ((m.play moves).1.report p) := by
  induction moves generalizing m with
  | nil => exact .inl ⟨rfl, rfl, rfl⟩
  | cons move rest ih =>
      rw [play_cons] at running ⊢
      simp only [List.mem_cons, not_or] at unchanged mute
      have going := running_of_play running
      have here : m.stopping = false := by
        rw [Bool.eq_false_iff]
        intro stopping
        rw [(m.act_lasting move).stopping stopping] at going
        nomatch going
      have still : (m.act move).1.profile = some p := by
        rw [(m.act_lasting move).profile fun q => Ne.symm (unchanged q).1, bound]
      have offers := Moment.offers ⟨m, move⟩
      have told := Moment.told (t := ⟨m, move⟩) here
      rw [lastWord_eq_nil_of_running going (Ne.symm mute.1), List.append_nil] at offers
      simp only [Moment.after, bound] at offers told
      rw [offers]
      rcases ih still (fun q => (unchanged q).2) mute.2 running with ⟨counted, same, none⟩ | last
      · rw [none, List.append_nil, counted, same]
        rcases told with ⟨undecided, shown⟩ | ⟨-, news⟩
        · refine .inl ⟨undecided, shown, ?_⟩
          simp [Moment.news, Moment.after, undecided]
        · exact .inr (by rw [news]; rfl)
      · refine .inr ?_
        rw [List.getLast?_append, last]
        rfl

theorem last_report_of_bind {p : Profile} {earlier later : List Move}
    (unchanged : ∀ q, .call (.bind q) ∉ later) (mute : .farewell ∉ later)
    (running : (m.play (earlier ++ .call (.bind p) :: later)).1.stopping = false)
    (decided : ((m.play earlier).1.bind p).decisions <
      (m.play (earlier ++ .call (.bind p) :: later)).1.decisions) :
    (m.play (earlier ++ .call (.bind p) :: later)).2.getLast? =
      some ((m.play (earlier ++ .call (.bind p) :: later)).1.report p) := by
  have binding : (m.play earlier).1.play (.call (.bind p) :: later) =
      ((m.play earlier).1.bind p).play later := by
    rw [play_cons]
    rfl
  obtain ⟨state, offers⟩ := m.play_append earlier (.call (.bind p) :: later)
  rw [binding] at state offers
  rw [state] at running decided ⊢
  rcases last_report (m := (m.play earlier).1.bind p) rfl unchanged mute running with
    ⟨counted, -⟩ | last
  · omega
  · rw [offers, List.getLast?_append, last]
    rfl

theorem Moment.map_stamp_news (t : Moment) (now : Int64) :
    t.news.map (·.stamp now) =
      if t.before.stopping ∨ t.after.decisions = t.before.decisions then []
      else (t.before.profile.map fun p => (t.after.report p).stamp now).toList := by
  unfold Moment.news
  by_cases quiet : t.before.stopping ∨ t.after.decisions = t.before.decisions
  · rw [if_pos quiet, if_pos (by simpa using quiet), List.map_nil]
  · rw [if_neg quiet, if_neg (by simpa using quiet)]
    cases t.before.profile <;> rfl

/-- What is offered in a run, at whatever time, is an event of every decision that is made while the
monitor is bound and does not stop, as it stands right after it, and then one reset event, if a
profile is bound when the monitor is torn down. So every change of the published state is reported
at once, and once a decision has been made under a profile the last event shows the monitor as it
is. -/
theorem offers_of_orderly {moves : List Move} (orderly : Orderly m moves) (now : Int64) :
    let moments := m.moments moves
    let offered := (m.play moves).2.map (·.stamp now)
    let shows (m : Monitor) (p : Profile) : Event :=
      { source := .dpll, state := m.state, interface := m.settings.interface, profile := p.name,
        clockKind := p.clockKind, timestamp := now,
        readings := {
          frequencyStatus := some m.frequency.code
          offset := some m.phaseOffset
          phaseStatus := some m.phase.code },
        logged := true, reset := false }
    let ends (m : Monitor) (p : Profile) : Event :=
      { source := .dpll, state := .unknown, interface := m.settings.interface, profile := p.name,
        clockKind := p.clockKind, timestamp := now, readings := ⟨none, none, none⟩,
        logged := false, reset := true }
    let news (t : Moment) : List Event :=
      if t.before.stopping ∨ t.after.decisions = t.before.decisions then []
      else (t.before.profile.map (shows t.after)).toList
    offered = moments.flatMap news ++
        ((moments.find? Moment.closes).bind fun t => t.before.profile.map (ends t.before)).toList ∧
      (∀ t ∈ moments, t.after.decisions ≤ t.before.decisions + 1 ∧
        ∀ p, t.before.profile = some p → t.before.stopping = false →
          t.after.state ≠ t.before.state → news t = [shows t.after p]) ∧
      (∀ earlier p later, moves = earlier ++ .call (.bind p) :: later →
        (∀ q, .call (.bind q) ∉ later) → (m.play moves).1.stopping = false →
          ((m.play earlier).1.bind p).decisions < (m.play moves).1.decisions →
            offered.getLast? = some (shows (m.play moves).1 p)) ∧
      [.unknown, .invalid, .freeRun, .locked, .lockedHoldoverAcquired, .holdover].map
        LockStatus.code = [-1, 0, 1, 2, 3, 4] := by
  intro moments offered shows ends news
  have heard (t : Moment) : t.news.map (·.stamp now) = news t := t.map_stamp_news now
  refine ⟨?_, ?_, ?_, rfl⟩
  · have ended (found : Option Moment) :
        (found.bind fun t => t.before.profile.map t.before.resetReport).toList.map (·.stamp now) =
          (found.bind fun t => t.before.profile.map (ends t.before)).toList := by
      rw [← Option.toList_map, Option.map_bind]
      simp only [Function.comp_def, Option.map_map]
      rfl
    rw [← ended, ← funext heard, ← List.map_flatMap, ← List.map_append,
      ← flatMap_offers orderly.silent, ← play_offers]
  · intro t _
    refine ⟨t.decisions_le, ?_⟩
    intro p bound running changed
    rcases t.told running with ⟨-, shown⟩ | ⟨-, told⟩
    · exact absurd (congrArg (fun report => (report p).state) shown) changed
    · rw [← heard, told, bound]
      rfl
  · rintro earlier p later rfl unchanged running decided
    have mute := orderly.farewell_not_mem_of_running running
    simp only [List.mem_append, List.mem_cons, not_or] at mute
    rw [List.getLast?_map, last_report_of_bind unchanged mute.2.2 running decided]
    rfl

def upstream : Profile := ⟨"ts2phc.0.config", .boundary, .standard⟩

def brief : List Move :=
  [Input.resolved .sysfs, .sample ⟨some 3, some 3, some 40⟩, .bind upstream, .activate,
    .notify .gnss .freeRun, .extrapolate 1 20, .sample ⟨some 2, none, none⟩].map .call

/-- A stop. Between the parts of the teardown a late countdown, a notification and a sample are still
taken, and afterwards a second teardown is asked for. -/
def leave : List Move :=
  [.call .beginStop, .letGo, .call (.finish 1 .cancelled), .deliver .gnss .locked, .farewell,
    .call (.sample ⟨some 3, none, none⟩), .goDeaf, .call .teardown]

theorem orderly_of_all {moves : List Move}
    (parts : moves.filter Move.ofTeardown <+: [.letGo, .farewell, .goDeaf])
    (first : (m.moments moves).all (fun t => t.move != .letGo || !t.before.tornDown) = true) :
    Orderly m moves where
  parts := parts
  first := by
    intro t ht letGo
    have fresh := List.all_eq_true.1 first t ht
    simpa [letGo] using fresh

theorem offers_of_orderly_leave :
    ∃ m, create (.standard 1 "ens1f0" [.gnss]) = .ok m ∧ Orderly m (brief ++ leave) ∧
      (m.play brief).1.stopping = false ∧ (m.play (brief ++ leave)).1.decisions = 5 ∧
      let event (state : SyncState) (readings : Readings) (reset : Bool) : Event :=
        ⟨.dpll, state, "ens1f0", "ts2phc.0.config", .boundary, 7, readings, !reset, reset⟩
      ((m.play brief).2.map (·.stamp 7)).getLast? =
          some (event .freeRun ⟨some 2, some 40, some 3⟩ false) ∧
        (m.play (brief ++ leave)).2.map (·.stamp 7) =
          [event .holdover ⟨some 3, some 40, some 3⟩ false,
            event .freeRun ⟨some 2, some 40, some 3⟩ false,
            event .unknown ⟨none, none, none⟩ true] := by
  obtain ⟨m, created⟩ : ∃ m, create (.standard 1 "ens1f0" [.gnss]) = .ok m := ⟨_, rfl⟩
  have calm : Orderly m brief := orderly_of_all List.nil_prefix (by cases created; rfl)
  have whole : Orderly m (brief ++ leave) := orderly_of_all ⟨[], rfl⟩ (by cases created; rfl)
  obtain ⟨-, -, last, -⟩ := offers_of_orderly calm 7
  obtain ⟨offered, -⟩ := offers_of_orderly whole 7
  refine ⟨m, created, whole, by cases created; rfl, by cases created; rfl, ?_, ?_⟩
  · refine (last (brief.take 2) upstream (brief.drop 3) rfl (by simp [brief]) ?_ ?_).trans ?_
    all_goals cases created
    · rfl
    · decide
    · rfl
  · refine offered.trans ?_
    cases created
    rfl

end DpllWatch.Monitor
