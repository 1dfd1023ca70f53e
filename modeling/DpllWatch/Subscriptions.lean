import DpllWatch.Source
import DpllWatch.SyncState

/-! Topic subscriptions. A delivery goes to those who are subscribed when it starts, whatever the
subscribers do to the list while they are called. -/

namespace DpllWatch

structure Subscription (α : Type) where
  topic : Source
  id : String
  target : α

abbrev Subscriptions (α : Type) := List (Subscription α)

namespace Subscriptions

variable {α : Type}

def register (subs : Subscriptions α) (s : Subscription α) : Subscriptions α := subs ++ [s]

def isFor (topic : Source) (id : String) (s : Subscription α) : Bool :=
  s.topic == topic && s.id == id

theorem isFor_eq (topic : Source) (id : String) (s : Subscription α) :
    isFor topic id s = decide (s.topic = topic ∧ s.id = id) := by
  simp [isFor, Bool.beq_eq_decide_eq]

def unregister (subs : Subscriptions α) (topic : Source) (id : String) : Nat × Subscriptions α :=
  (subs.countP (isFor topic id), subs.filter fun s => !isFor topic id s)

def matching (subs : Subscriptions α) (topic : Source) : List (Subscription α) :=
  subs.filter (·.topic == topic)

end Subscriptions

end DpllWatch
