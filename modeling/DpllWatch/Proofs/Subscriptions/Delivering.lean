import DpllWatch.Proofs.Subscriptions.Round

/-! A delivery reaches those who are subscribed when it begins, in the order in which they
subscribed, whatever they do to the subscriptions when they are called. -/

namespace DpllWatch.Subscriptions

variable {α : Type} {react : Reaction α} {h h' : Hall α} {signal : Signal} {s : Subscription α}
  {depth depth' : Nat} {targets : List (Subscription α)} {actions : List (Action α)}

/-! ### One action -/

namespace Hall

def enact (perform : Hall α → Action α → Option (Option Nat × Hall α)) (s : Subscription α)
    (h : Hall α) (action : Action α) : Option (Hall α) :=
  (perform h action).map fun r => r.2.note (.acted s r.1)

def change (h : Hall α) (c : Change α) : Hall α :=
  { h with subscriptions := c.apply h.subscriptions }

def follow (h : Hall α) (changes : List (Change α)) (log : List (Entry α)) : Hall α :=
  ⟨changes.foldl Change.apply h.subscriptions, h.history ++ log⟩

theorem follow_nil : h.follow [] [] = h := by
  rw [follow, List.append_nil]
  rfl

theorem follow_follow {changes changes' : List (Change α)} {log log' : List (Entry α)} :
    (h.follow changes log).follow changes' log' =
      h.follow (changes ++ changes') (log ++ log') := by
  rw [follow, follow, follow, List.foldl_append, List.append_assoc]

theorem note_follow {changes : List (Change α)} {entry : Entry α} {log : List (Entry α)} :
    (h.note entry).follow changes log = h.follow changes (entry :: log) := by
  rw [follow, follow, note, List.append_assoc, List.singleton_append]

theorem change_follow {c : Change α} {changes : List (Change α)} {log : List (Entry α)} :
    (h.change c).follow changes log = h.follow (c :: changes) log :=
  rfl

theorem call_eq {perform : Hall α → Action α → Option (Option Nat × Hall α)} :
    h.call react perform signal s =
      (react (h.note (.called s signal)).history s signal).foldlM (enact perform s)
        (h.note (.called s signal)) :=
  rfl

theorem perform_change (react : Reaction α) (depth : Nat) (h : Hall α) (c : Change α) :
    h.perform react depth c.action = some (c.count h.subscriptions, h.change c) := by
  cases c with
  | register s | clear => cases depth <;> rfl
  | unregister topic id =>
      have performed : h.perform react depth (.unregister topic id) =
          some (some (h.subscriptions.unregister topic id).1,
            { h with subscriptions := (h.subscriptions.unregister topic id).2 }) := by
        cases depth <;> rfl
      have tested : isFor topic id =
          fun s : Subscription α => decide (s.topic = topic ∧ s.id = id) :=
        funext (isFor_eq topic id)
      rw [Change.action, performed, unregister, tested]
      simp only [Change.count, change, Change.apply, decide_not]

theorem perform_zero : h.perform react 0 signal.action =
    if (signal.audience h.subscriptions).isEmpty then some (some 0, h) else none := by
  cases signal <;> rfl

theorem perform_succ : h.perform react (depth + 1) signal.action =
    ((signal.audience h.subscriptions).foldlM
      (call react (perform react depth) signal) h).map
        fun h' => (some (signal.audience h.subscriptions).length, h') := by
  cases signal <;> rfl

end Hall

open Hall

/-! ### Deeper nesting

Where calls may nest deeper there are more outcomes, and no others where there were some. -/

theorem foldlM_of_some {β γ : Type} {f g : β → γ → Option β}
    (keeps : ∀ b c b', f b c = some b' → g b c = some b') {l : List γ} {b b' : β}
    (some_f : l.foldlM f b = some b') : l.foldlM g b = some b' := by
  induction l generalizing b with
  | nil => exact some_f
  | cons c rest ih =>
      rw [List.foldlM_cons] at some_f ⊢
      obtain ⟨next, made, rest_made⟩ := Option.bind_eq_some_iff.1 some_f
      exact Option.bind_eq_some_iff.2 ⟨next, keeps _ _ _ made, ih rest_made⟩

theorem some_of_foldlM {β γ : Type} {f : β → γ → Option β} {before after : List γ} {c : γ}
    {b b' : β} (folded : (before ++ c :: after).foldlM f b = some b') :
    ∃ mid next, before.foldlM f b = some mid ∧ f mid c = some next := by
  rw [List.foldlM_append] at folded
  obtain ⟨mid, first, folded⟩ := Option.bind_eq_some_iff.1 folded
  rw [List.foldlM_cons] at folded
  obtain ⟨next, here, -⟩ := Option.bind_eq_some_iff.1 folded
  exact ⟨mid, next, first, here⟩

theorem foldlM_eq {β γ : Type} {f : Nat → β → γ → Option β}
    (keeps : ∀ {m n}, m ≤ n → ∀ b c b', f m b c = some b' → f n b c = some b') {l : List γ}
    {m n : Nat} {b b' b'' : β} (one : l.foldlM (f m) b = some b')
    (other : l.foldlM (f n) b = some b'') : b' = b'' := by
  have one := foldlM_of_some (keeps (Nat.le_max_left m n)) one
  have other := foldlM_of_some (keeps (Nat.le_max_right m n)) other
  exact Option.some.inj (one.symm.trans other)

theorem enact_of_some {perform perform' : Hall α → Action α → Option (Option Nat × Hall α)}
    (keeps : ∀ h action r, perform h action = some r → perform' h action = some r)
    {action : Action α} (made : h.enact perform s action = some h') :
    h.enact perform' s action = some h' := by
  obtain ⟨r, performed, rfl⟩ := Option.map_eq_some_iff.1 made
  exact Option.map_eq_some_iff.2 ⟨r, keeps _ _ _ performed, rfl⟩

theorem call_of_some {perform perform' : Hall α → Action α → Option (Option Nat × Hall α)}
    (keeps : ∀ h action r, perform h action = some r → perform' h action = some r)
    (made : h.call react perform signal s = some h') :
    h.call react perform' signal s = some h' := by
  rw [call_eq] at made ⊢
  exact foldlM_of_some (fun _ _ _ => enact_of_some keeps) made

theorem perform_of_some (react : Reaction α) (le : depth ≤ depth') (h : Hall α)
    (action : Action α) (r : Option Nat × Hall α)
    (performed : h.perform react depth action = some r) :
    h.perform react depth' action = some r := by
  induction depth generalizing depth' h action r with
  | zero =>
      rcases action_cases action with ⟨c, rfl⟩ | ⟨signal, rfl⟩
      · rw [perform_change] at performed ⊢
        exact performed
      · cases depth' with
        | zero => exact performed
        | succ depth' =>
            rw [perform_zero] at performed
            split at performed
            case isTrue none =>
              rw [perform_succ, List.isEmpty_iff.1 none]
              exact performed
            case isFalse => nomatch performed
  | succ depth ih =>
      rcases action_cases action with ⟨c, rfl⟩ | ⟨signal, rfl⟩
      · rw [perform_change] at performed ⊢
        exact performed
      · obtain ⟨more, rfl⟩ := Nat.exists_eq_add_of_lt le
        rw [perform_succ] at performed ⊢
        obtain ⟨h', called, rfl⟩ := Option.map_eq_some_iff.1 performed
        have keeps := ih (Nat.le_add_right depth more)
        have deeper := foldlM_of_some (fun _ _ _ => call_of_some keeps) called
        exact Option.map_eq_some_iff.2 ⟨h', deeper, rfl⟩

/-! ### What a tree comes to -/

/-- The round is what telling the targets comes to. -/
structure Round.Tells (react : Reaction α) (h : Hall α) (signal : Signal)
    (targets : List (Subscription α)) (round : Round α) : Prop where
  called : round.called = targets
  serves : round.Serves h.subscriptions
  heeds : ∀ call ∈ round.calls h.history signal, react.Heeds call

structure Doings.Does (react : Reaction α) (h : Hall α) (s : Subscription α)
    (actions : List (Action α)) (doings : Doings α) : Prop where
  actions : doings.actions = actions
  serves : doings.Serves h.subscriptions
  heeds : ∀ call ∈ doings.calls h.history s, react.Heeds call

theorem Round.tells_nil : Round.nil.Tells react h signal targets ↔ targets = [] :=
  ⟨fun t => t.called.symm, fun none => ⟨none.symm, trivial, nofun⟩⟩

theorem Doings.does_nil : Doings.nil.Does react h s actions ↔ actions = [] :=
  ⟨fun d => d.actions.symm, fun none => ⟨none.symm, trivial, nofun⟩⟩

theorem Round.tells_call {doings : Doings α} {rest : Round α} :
    (Round.call s doings rest).Tells react h signal targets ↔
      ∃ later, targets = s :: later ∧
        doings.Does react (h.note (.called s signal)) s
          (react (h.note (.called s signal)).history s signal) ∧
        rest.Tells react ((h.note (.called s signal)).follow doings.changes (doings.log s))
          signal later := by
  constructor
  · rintro ⟨called, ⟨now, serves⟩, heeds⟩
    refine ⟨rest.called, called.symm, ⟨?_, now, ?_⟩, ⟨rfl, serves, ?_⟩⟩
    · exact (heeds _ List.mem_cons_self).symm
    · exact fun call member => heeds call (.tail _ (List.mem_append_left _ member))
    · exact fun call member => heeds call (.tail _ (List.mem_append_right _ member))
  · rintro ⟨later, rfl, ⟨acts, now, heeds⟩, ⟨called, serves, heeds'⟩⟩
    refine ⟨congrArg _ called, ⟨now, serves⟩, fun call member => ?_⟩
    rcases List.mem_cons.1 member with rfl | member
    · exact acts.symm
    · exact (List.mem_append.1 member).elim (heeds call) (heeds' call)

theorem Doings.does_change {c : Change α} {count : Option Nat} {rest : Doings α} :
    (Doings.change c count rest).Does react h s actions ↔
      ∃ later, actions = c.action :: later ∧ count = c.count h.subscriptions ∧
        rest.Does react ((h.change c).note (.acted s count)) s later := by
  constructor
  · rintro ⟨acts, ⟨counts, serves⟩, heeds⟩
    exact ⟨rest.actions, acts.symm, counts, rfl, serves, heeds⟩
  · rintro ⟨later, rfl, counts, ⟨acts, serves, heeds⟩⟩
    exact ⟨congrArg _ acts, ⟨counts, serves⟩, heeds⟩

theorem Doings.does_deliver {round : Round α} {rest : Doings α} :
    (Doings.deliver signal round rest).Does react h s actions ↔
      ∃ later, actions = signal.action :: later ∧
        round.Tells react h signal (signal.audience h.subscriptions) ∧
        rest.Does react ((h.follow round.changes (round.log signal)).note
          (.acted s (some round.called.length))) s later := by
  constructor
  · rintro ⟨acts, ⟨⟨called, now⟩, serves⟩, heeds⟩
    refine ⟨rest.actions, acts.symm, ⟨called, now, ?_⟩, ⟨rfl, serves, ?_⟩⟩
    · exact fun call member => heeds call (List.mem_append_left _ member)
    · exact fun call member => heeds call (List.mem_append_right _ member)
  · rintro ⟨later, rfl, ⟨called, now, heeds⟩, ⟨acts, serves, heeds'⟩⟩
    refine ⟨congrArg _ acts, ⟨⟨called, now⟩, serves⟩, fun call member => ?_⟩
    exact (List.mem_append.1 member).elim (heeds call) (heeds' call)

theorem Round.perform_of_foldlM {round : Round α}
    (called : round.called = signal.audience h.subscriptions)
    (folds : ∀ depth, (signal.audience h.subscriptions).foldlM
      (Hall.call react (perform react depth) signal) h =
        if round.height ≤ depth + 1 then some (h.follow round.changes (round.log signal)) else none)
    (depth : Nat) : h.perform react depth signal.action =
      if round.height ≤ depth then
        some (some round.called.length, h.follow round.changes (round.log signal))
      else none := by
  cases depth with
  | succ depth =>
      rw [perform_succ, folds, called]
      split <;> rfl
  | zero =>
      rw [perform_zero, ← called]
      cases round with
      | nil => exact congrArg (fun h => some (some 0, h)) follow_nil.symm
      | call s doings rest =>
          have deep : ¬ (Round.call s doings rest).height ≤ 0 :=
            Nat.not_le.2 (Nat.lt_of_lt_of_le (Nat.succ_pos _) (Nat.le_max_left _ _))
          rw [if_neg deep]
          rfl

mutual

-- The recursion is over the tree, for every depth: calls keep the depth that they are made at, and
-- a delivery among their actions begins one level below.
theorem Round.Tells.foldlM_call : ∀ {round : Round α} {h : Hall α} {signal : Signal} {targets},
    round.Tells react h signal targets → ∀ depth,
      targets.foldlM (Hall.call react (perform react depth) signal) h =
        if round.height ≤ depth + 1 then some (h.follow round.changes (round.log signal)) else none
  | .nil, h, signal, targets, tells, depth => by
      obtain rfl := Round.tells_nil.1 tells
      exact congrArg some follow_nil.symm
  | .call s doings rest, h, signal, targets, tells, depth => by
      obtain ⟨later, rfl, does, tells⟩ := Round.tells_call.1 tells
      rw [List.foldlM_cons, call_eq, does.foldlM_enact depth]
      simp only [Round.height, Nat.max_le, Nat.add_le_add_iff_right]
      by_cases deep : doings.height ≤ depth
      · rw [if_pos deep, Option.bind_eq_bind, Option.bind_some, tells.foldlM_call depth,
          follow_follow, note_follow]
        simp only [deep, true_and]
        rfl
      · rw [if_neg deep, if_neg (fun both => deep both.1)]
        rfl

theorem Doings.Does.foldlM_enact : ∀ {doings : Doings α} {h : Hall α} {s : Subscription α}
    {actions}, doings.Does react h s actions → ∀ depth,
      actions.foldlM (enact (perform react depth) s) h =
        if doings.height ≤ depth then some (h.follow doings.changes (doings.log s)) else none
  | .nil, h, s, actions, does, depth => by
      obtain rfl := Doings.does_nil.1 does
      exact congrArg some follow_nil.symm
  | .change c count rest, h, s, actions, does, depth => by
      obtain ⟨later, rfl, rfl, does⟩ := Doings.does_change.1 does
      rw [List.foldlM_cons, enact, perform_change, Option.map_some, Option.bind_eq_bind,
        Option.bind_some, does.foldlM_enact depth, note_follow, change_follow]
      rfl
  | .deliver signal round rest, h, s, actions, does, depth => by
      obtain ⟨later, rfl, tells, does⟩ := Doings.does_deliver.1 does
      rw [List.foldlM_cons, enact, round.perform_of_foldlM tells.called tells.foldlM_call depth]
      simp only [Doings.height, Nat.max_le]
      by_cases deep : round.height ≤ depth
      · rw [if_pos deep, Option.map_some, Option.bind_eq_bind, Option.bind_some,
          does.foldlM_enact depth, note_follow, follow_follow]
        simp only [deep, true_and]
        rfl
      · rw [if_neg deep, if_neg (fun both => deep both.1)]
        rfl

end

theorem Round.Tells.perform {round : Round α}
    (tells : round.Tells react h signal (signal.audience h.subscriptions)) (depth : Nat) :
    h.perform react depth signal.action =
      if round.height ≤ depth then
        some (some round.called.length, h.follow round.changes (round.log signal))
      else none :=
  round.perform_of_foldlM tells.called tells.foldlM_call depth

/-! ### Finite nesting -/

def Hall.Calls (react : Reaction α) (signal : Signal) (h : Hall α)
    (targets : List (Subscription α)) (h' : Hall α) : Prop :=
  ∃ depth, targets.foldlM (Hall.call react (Hall.perform react depth) signal) h = some h'

def Hall.Acts (react : Reaction α) (s : Subscription α) (h : Hall α) (actions : List (Action α))
    (h' : Hall α) : Prop :=
  ∃ depth, actions.foldlM (Hall.enact (Hall.perform react depth) s) h = some h'

theorem Hall.Acts.nil : h.Acts react s [] h := ⟨0, rfl⟩

theorem Hall.Calls.nil : h.Calls react signal [] h := ⟨0, rfl⟩

theorem Hall.Acts.cons {action : Action α} {r : Option Nat × Hall α}
    (performed : h.perform react depth action = some r)
    (acts : (r.2.note (.acted s r.1)).Acts react s actions h') :
    h.Acts react s (action :: actions) h' := by
  obtain ⟨depth', acts⟩ := acts
  have now := perform_of_some react (Nat.le_max_left depth depth') _ _ _ performed
  have later := perform_of_some react (Nat.le_max_right depth depth')
  refine ⟨max depth depth', ?_⟩
  rw [List.foldlM_cons, enact, now]
  exact foldlM_of_some (fun _ _ _ => enact_of_some later) acts

theorem Hall.Calls.cons {told : Hall α}
    (acts : (h.note (.called s signal)).Acts react s
      (react (h.note (.called s signal)).history s signal) told)
    (calls : told.Calls react signal targets h') : h.Calls react signal (s :: targets) h' := by
  obtain ⟨depth, acts⟩ := acts
  obtain ⟨depth', calls⟩ := calls
  have now := perform_of_some react (Nat.le_max_left depth depth')
  have later := perform_of_some react (Nat.le_max_right depth depth')
  refine ⟨max depth depth', ?_⟩
  rw [List.foldlM_cons, call_eq, foldlM_of_some (fun _ _ _ => enact_of_some now) acts]
  exact foldlM_of_some (fun _ _ _ => call_of_some later) calls

theorem Hall.Acts.eq (acts : h.Acts react s actions h') {h'' : Hall α}
    (acts' : actions.foldlM (Hall.enact (Hall.perform react depth) s) h = some h'') : h' = h'' := by
  obtain ⟨_, acts⟩ := acts
  exact foldlM_eq (f := fun depth => Hall.enact (Hall.perform react depth) s)
    (fun le _ _ _ => enact_of_some (perform_of_some react le)) acts acts'

theorem Hall.Calls.eq (calls : h.Calls react signal targets h') {h'' : Hall α}
    (calls' : targets.foldlM (Hall.call react (Hall.perform react depth) signal) h = some h'') :
    h' = h'' := by
  obtain ⟨_, calls⟩ := calls
  exact foldlM_eq (f := fun depth => Hall.call react (Hall.perform react depth) signal)
    (fun le _ _ _ => call_of_some (perform_of_some react le)) calls calls'

theorem Doings.Does.acts {doings : Doings α} (does : doings.Does react h s actions) :
    h.Acts react s actions (h.follow doings.changes (doings.log s)) :=
  ⟨doings.height, (does.foldlM_enact _).trans (if_pos (Nat.le_refl _))⟩

structure Delivery (α : Type) where
  hall : Hall α
  signal : Signal

/-- A subscriber whom the outer delivery calls makes the inner one. -/
inductive Delivery.Within (react : Reaction α) (inner outer : Delivery α) : Prop where
  | mk {before after : List (Subscription α)} {s : Subscription α} {done todo : List (Action α)}
      {h : Hall α}
      (targets : outer.signal.audience outer.hall.subscriptions = before ++ s :: after)
      (reached : outer.hall.Calls react outer.signal before h)
      (actions : react (h.note (.called s outer.signal)).history s outer.signal =
        done ++ inner.signal.action :: todo)
      (acted : (h.note (.called s outer.signal)).Acts react s done inner.hall) :
      Within react inner outer

theorem exists_does (inner : ∀ done signal todo h', actions = done ++ Signal.action signal :: todo →
      h.Acts react s done h' →
      ∃ round : Round α, round.Tells react h' signal (signal.audience h'.subscriptions)) :
    ∃ doings : Doings α, doings.Does react h s actions := by
  induction actions generalizing h with
  | nil => exact ⟨.nil, Doings.does_nil.2 rfl⟩
  | cons action rest ih =>
      rcases action_cases action with ⟨c, rfl⟩ | ⟨signal, rfl⟩
      · have performed := perform_change react 0 h c
        obtain ⟨doings, does⟩ := ih fun done signal todo h' split acts =>
          inner (c.action :: done) signal todo h' (congrArg _ split) (.cons performed acts)
        exact ⟨.change c _ doings, Doings.does_change.2 ⟨rest, rfl, rfl, does⟩⟩
      · obtain ⟨round, tells⟩ := inner [] signal rest h rfl .nil
        have performed := (tells.perform round.height).trans (if_pos (Nat.le_refl _))
        obtain ⟨doings, does⟩ := ih fun done signal' todo h' split acts =>
          inner (signal.action :: done) signal' todo h' (congrArg _ split) (.cons performed acts)
        exact ⟨.deliver signal round doings, Doings.does_deliver.2 ⟨rest, rfl, tells, does⟩⟩

theorem exists_tells (each : ∀ before s after h', targets = before ++ s :: after →
      h.Calls react signal before h' →
      ∃ doings : Doings α, doings.Does react (h'.note (.called s signal)) s
        (react (h'.note (.called s signal)).history s signal)) :
    ∃ round : Round α, round.Tells react h signal targets := by
  induction targets generalizing h with
  | nil => exact ⟨.nil, Round.tells_nil.2 rfl⟩
  | cons s rest ih =>
      obtain ⟨doings, does⟩ := each [] s rest h rfl .nil
      obtain ⟨round, tells⟩ := ih fun before s' after h' split calls =>
        each (s :: before) s' after h' (congrArg _ split) (.cons does.acts calls)
      exact ⟨.call s doings round, Round.tells_call.2 ⟨rest, rfl, does, tells⟩⟩

theorem exists_tells_of_acc {d : Delivery α} (acc : Acc (Delivery.Within react) d) :
    ∃ round : Round α, round.Tells react d.hall d.signal
      (d.signal.audience d.hall.subscriptions) := by
  induction acc with
  | intro outer _ ih =>
      refine exists_tells fun before s after h split calls => ?_
      refine exists_does fun done signal todo h' acts_split acts => ?_
      exact ih ⟨h', signal⟩ ⟨split, calls, acts_split, acts⟩

theorem acc_of_perform {r : Option Nat × Hall α}
    (performed : h.perform react depth signal.action = some r) :
    Acc (Delivery.Within react) ⟨h, signal⟩ := by
  induction depth generalizing h signal r with
  | zero =>
      refine ⟨_, fun inner within => ?_⟩
      obtain ⟨targets, -, -, -⟩ := within
      rw [perform_zero, targets] at performed
      simp at performed
  | succ depth ih =>
      refine ⟨_, fun inner within => ?_⟩
      obtain ⟨targets, reached, actions, acted⟩ := within
      rw [perform_succ, targets] at performed
      obtain ⟨_, called, -⟩ := Option.map_eq_some_iff.1 performed
      obtain ⟨_, _, first, told⟩ := some_of_foldlM called
      obtain rfl := reached.eq first
      rw [call_eq, actions] at told
      obtain ⟨_, _, did, made⟩ := some_of_foldlM told
      obtain rfl := acted.eq did
      obtain ⟨_, performed, -⟩ := Option.map_eq_some_iff.1 made
      exact ih performed

/-- A delivery calls those who are subscribed to its topic when it begins, in the order in which
they subscribed, and answers how many they are. The subscriptions come to what all changes meanwhile
make of them, one after another. There is an outcome exactly if the deliveries within nest finitely,
and whatever tree of calls there may be, some subscribers behave so. -/
theorem delivers_to_subscribed (h : Hall α) :
    (∀ react depth (c : Change α), h.perform react depth c.action =
      some (c.count h.subscriptions, ⟨c.apply h.subscriptions, h.history⟩)) ∧
    ∀ signal, let targets := h.subscriptions.filter fun s => s.topic = Signal.topic signal
      (∀ react (round : Round α), round.Tells react h signal targets → ∀ depth,
        h.perform react depth signal.action =
          if round.height ≤ depth then
            some (some targets.length,
              ⟨round.changes.foldl Change.apply h.subscriptions, h.history ++ round.log signal⟩)
          else none) ∧
      (∀ react, Acc (Delivery.Within react) ⟨h, signal⟩ ↔
        ∃ round : Round α, round.Tells react h signal targets) ∧
      ∀ round : Round α, round.called = targets → round.Serves h.subscriptions →
        ∃ react, round.Tells react h signal targets := by
  refine ⟨fun react depth c => perform_change react depth h c, fun signal => ?_⟩
  refine ⟨fun react round tells depth => ?_, fun react => ⟨fun acc => exists_tells_of_acc acc, ?_⟩,
    fun round called serves => ?_⟩
  · rw [← tells.called]
    exact tells.perform depth
  · rintro ⟨round, tells⟩
    exact acc_of_perform ((tells.perform round.height).trans (if_pos (Nat.le_refl _)))
  · obtain ⟨react, heeds⟩ := round.exists_heeds h.history signal
    exact ⟨react, called, serves, heeds⟩

private def meddling : Reaction Unit := fun _ s _ =>
  if s.id = "first" then [.unregister .gnss "second", .register ⟨.gnss, "third", ()⟩] else []

/-- The second is called all the same, and the third is not. -/
example : ((Hall.mk [⟨.gnss, "first", ()⟩, ⟨.gnss, "second", ()⟩] []).perform meddling 1
      (.publish .gnss .locked)).map (fun r => (r.1, r.2.subscriptions.map (·.id),
        r.2.history.filterMap fun entry => match entry with
          | .called s _ => some s.id
          | .acted _ _ => none)) =
    some (some 2, ["first", "third"], ["first", "second"]) := by
  decide

end DpllWatch.Subscriptions
