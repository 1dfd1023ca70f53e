import DpllWatch.Subscriptions.Delivery

/-! The tree of calls that a delivery is: whom it calls, what each of these does then, and the
deliveries among that, with the calls that they are in turn. -/

namespace DpllWatch.Subscriptions

variable {α : Type}

def Signal.topic : Signal → Source
  | .notify source _ => source
  | .begin => .monitoring

def Signal.action : Signal → Action α
  | .notify source state => .publish source state
  | .begin => .start

/-- The subscribers that a signal is for, in the order in which they subscribed. -/
def Signal.audience (signal : Signal) (subs : Subscriptions α) : List (Subscription α) :=
  subs.filter fun s => s.topic = signal.topic

theorem Signal.audience_eq (signal : Signal) (subs : Subscriptions α) :
    signal.audience subs = subs.matching signal.topic :=
  rfl

inductive Change (α : Type) where
  | register (subscription : Subscription α)
  | unregister (topic : Source) (id : String)
  | clear

namespace Change

def action : Change α → Action α
  | register s => .register s
  | unregister topic id => .unregister topic id
  | clear => .clear

def apply (subs : Subscriptions α) : Change α → Subscriptions α
  | register s => subs ++ [s]
  | unregister topic id => subs.filter fun s => ¬ (s.topic = topic ∧ s.id = id)
  | clear => []

def count (subs : Subscriptions α) : Change α → Option Nat
  | unregister topic id => some (subs.countP fun s => s.topic = topic ∧ s.id = id)
  | register _ | clear => none

end Change

theorem action_cases (action : Action α) :
    (∃ change : Change α, action = change.action) ∨ ∃ signal : Signal, action = signal.action := by
  cases action with
  | register s => exact .inl ⟨.register s, rfl⟩
  | unregister topic id => exact .inl ⟨.unregister topic id, rfl⟩
  | clear => exact .inl ⟨.clear, rfl⟩
  | publish source state => exact .inr ⟨.notify source state, rfl⟩
  | start => exact .inr ⟨.begin, rfl⟩

/-- One call of a subscriber: what happened up to it, whom it tells what, and the actions that the
subscriber answers it with. -/
structure Call (α : Type) where
  history : List (Entry α)
  subscription : Subscription α
  signal : Signal
  actions : List (Action α)

def Reaction.Heeds (react : Reaction α) (call : Call α) : Prop :=
  react call.history call.subscription call.signal = call.actions

mutual

inductive Round (α : Type) where
  | nil
  | call (subscription : Subscription α) (doings : Doings α) (rest : Round α)

/-- What a called subscriber does: changes, each with what it is answered, and deliveries. -/
inductive Doings (α : Type) where
  | nil
  | change (change : Change α) (count : Option Nat) (rest : Doings α)
  | deliver (signal : Signal) (round : Round α) (rest : Doings α)

end

def Round.called : Round α → List (Subscription α)
  | .nil => []
  | .call s _ rest => s :: rest.called

def Doings.actions : Doings α → List (Action α)
  | .nil => []
  | .change c _ rest => c.action :: rest.actions
  | .deliver signal _ rest => signal.action :: rest.actions

mutual

def Round.height : Round α → Nat
  | .nil => 0
  | .call _ doings rest => max (doings.height + 1) rest.height

def Doings.height : Doings α → Nat
  | .nil => 0
  | .change _ _ rest => rest.height
  | .deliver _ round rest => max round.height rest.height

end

mutual

/-- All changes, also those of the deliveries within, in the order in which they are made. -/
def Round.changes : Round α → List (Change α)
  | .nil => []
  | .call _ doings rest => doings.changes ++ rest.changes

def Doings.changes : Doings α → List (Change α)
  | .nil => []
  | .change c _ rest => c :: rest.changes
  | .deliver _ round rest => round.changes ++ rest.changes

end

mutual

def Round.log (signal : Signal) : Round α → List (Entry α)
  | .nil => []
  | .call s doings rest => .called s signal :: (doings.log s ++ rest.log signal)

def Doings.log (s : Subscription α) : Doings α → List (Entry α)
  | .nil => []
  | .change _ count rest => .acted s count :: rest.log s
  | .deliver signal round rest =>
    round.log signal ++ .acted s (some round.called.length) :: rest.log s

end

mutual

def Round.calls (history : List (Entry α)) (signal : Signal) : Round α → List (Call α)
  | .nil => []
  | .call s doings rest =>
    let told := history ++ [.called s signal]
    ⟨told, s, signal, doings.actions⟩ ::
      (doings.calls told s ++ rest.calls (told ++ doings.log s) signal)

def Doings.calls (history : List (Entry α)) (s : Subscription α) : Doings α → List (Call α)
  | .nil => []
  | .change _ count rest => rest.calls (history ++ [.acted s count]) s
  | .deliver signal round rest =>
    round.calls history signal ++
      rest.calls (history ++ round.log signal ++ [.acted s (some round.called.length)]) s

end

mutual

/-- The deliveries within call those who are subscribed when they begin, and changes are answered
with what they find then. -/
def Round.Serves (subs : Subscriptions α) : Round α → Prop
  | .nil => True
  | .call _ doings rest => doings.Serves subs ∧ rest.Serves (doings.changes.foldl Change.apply subs)

def Doings.Serves (subs : Subscriptions α) : Doings α → Prop
  | .nil => True
  | .change c count rest => count = c.count subs ∧ rest.Serves (c.apply subs)
  | .deliver signal round rest =>
    (round.called = signal.audience subs ∧ round.Serves subs) ∧
      rest.Serves (round.changes.foldl Change.apply subs)

end

/-! ### Every tree is some callbacks' doing -/

mutual

theorem Round.history_of_mem_calls {history : List (Entry α)} {signal : Signal} :
    ∀ {round : Round α} {call : Call α}, call ∈ round.calls history signal →
      history.length < call.history.length ∧
        call.history.length ≤ history.length + (round.log signal).length
  | .nil, call, member => nomatch member
  | .call s doings rest, call, member => by
      rw [Round.calls, List.mem_cons, List.mem_append] at member
      rcases member with rfl | inner | later
      · simp [Round.log]
      · have := doings.history_of_mem_calls inner
        simp only [Round.log, List.length_append, List.length_cons, List.length_nil] at this ⊢
        omega
      · have := rest.history_of_mem_calls later
        simp only [Round.log, List.length_append, List.length_cons, List.length_nil] at this ⊢
        omega

theorem Doings.history_of_mem_calls {history : List (Entry α)} {s : Subscription α} :
    ∀ {doings : Doings α} {call : Call α}, call ∈ doings.calls history s →
      history.length < call.history.length ∧
        call.history.length ≤ history.length + (doings.log s).length
  | .nil, call, member => nomatch member
  | .change _ count rest, call, member => by
      have := rest.history_of_mem_calls member
      simp only [Doings.log, List.length_append, List.length_cons, List.length_nil] at this ⊢
      omega
  | .deliver signal round rest, call, member => by
      rw [Doings.calls, List.mem_append] at member
      rcases member with inner | later
      · have := round.history_of_mem_calls inner
        simp only [Doings.log, List.length_append, List.length_cons]
        omega
      · have := rest.history_of_mem_calls later
        simp only [Doings.log, List.length_append, List.length_cons, List.length_nil] at this ⊢
        omega

end

mutual

theorem Round.pairwise_calls (signal : Signal) : ∀ (round : Round α) (history : List (Entry α)),
    (round.calls history signal).Pairwise fun a b => a.history.length < b.history.length
  | .nil, _ => .nil
  | .call s doings rest, history => by
      refine .cons (fun call member => ?_) (List.pairwise_append.2
        ⟨doings.pairwise_calls s _, rest.pairwise_calls signal _, fun a first b second => ?_⟩)
      · rcases List.mem_append.1 member with inner | later
        · exact (doings.history_of_mem_calls inner).1
        · have := (rest.history_of_mem_calls later).1
          rw [List.length_append] at this
          exact Nat.lt_of_le_of_lt (Nat.le_add_right _ _) this
      · have upper := (doings.history_of_mem_calls first).2
        have lower := (rest.history_of_mem_calls second).1
        rw [List.length_append] at lower
        exact Nat.lt_of_le_of_lt upper lower

theorem Doings.pairwise_calls (s : Subscription α) :
    ∀ (doings : Doings α) (history : List (Entry α)),
      (doings.calls history s).Pairwise fun a b => a.history.length < b.history.length
  | .nil, _ => .nil
  | .change _ _ rest, _ => rest.pairwise_calls s _
  | .deliver signal round rest, history => by
      refine List.pairwise_append.2
        ⟨round.pairwise_calls signal _, rest.pairwise_calls s _, fun a first b second => ?_⟩
      have upper := (round.history_of_mem_calls first).2
      have lower := (rest.history_of_mem_calls second).1
      rw [List.length_append, List.length_append] at lower
      omega

end

theorem Round.exists_heeds (round : Round α) (history : List (Entry α)) (signal : Signal) :
    ∃ react : Reaction α, ∀ call ∈ round.calls history signal, react.Heeds call := by
  let calls := round.calls history signal
  refine ⟨fun told _ _ =>
    ((calls.find? fun call => call.history.length = told.length).map Call.actions).getD [],
    fun call member => ?_⟩
  have found : calls.find? (fun c => c.history.length = call.history.length) = some call := by
    obtain ⟨before, after, split⟩ := List.append_of_mem member
    have apart := round.pairwise_calls signal history
    rw [split, List.pairwise_append] at apart
    rw [List.find?_eq_some_iff_append]
    refine ⟨decide_eq_true rfl, before, after, split, fun earlier first => ?_⟩
    have := apart.2.2 earlier first call List.mem_cons_self
    simpa using Nat.ne_of_lt this
  rw [Reaction.Heeds, found]
  rfl

end DpllWatch.Subscriptions
