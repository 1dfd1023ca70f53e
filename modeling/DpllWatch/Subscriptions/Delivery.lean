import DpllWatch.Subscriptions

/-! Deliveries whose subscribers use the subscription list themselves while they are called. What a
subscriber does when called may depend on everything that happened before. -/

namespace DpllWatch.Subscriptions

inductive Signal where
  | notify (source : Source) (state : SyncState)
  | begin
deriving DecidableEq, Repr

inductive Action (α : Type) where
  | register (subscription : Subscription α)
  | unregister (topic : Source) (id : String)
  | publish (source : Source) (state : SyncState)
  | start
  | clear

inductive Entry (α : Type) where
  | called (subscription : Subscription α) (signal : Signal)
  | acted (subscription : Subscription α) (count : Option Nat)

/-- What a called subscriber does next, given the history up to and including its call. -/
abbrev Reaction (α : Type) := List (Entry α) → Subscription α → Signal → List (Action α)

structure Hall (α : Type) where
  subscriptions : Subscriptions α
  history : List (Entry α)

namespace Hall

variable {α : Type}

def empty : Hall α := ⟨[], []⟩

def note (h : Hall α) (entry : Entry α) : Hall α := { h with history := h.history ++ [entry] }

def call (react : Reaction α) (perform : Hall α → Action α → Option (Option Nat × Hall α))
    (signal : Signal) (h : Hall α) (s : Subscription α) : Option (Hall α) :=
  let h := h.note (.called s signal)
  (react h.history s signal).foldlM
    (fun h action => (perform h action).map fun r => r.2.note (.acted s r.1)) h

/-- Carries out one action. Calls nest at most `depth` deep; deeper ones have no outcome. The count
is that of the subscribers reached or removed. -/
def perform (react : Reaction α) : Nat → Hall α → Action α → Option (Option Nat × Hall α)
  | _, h, .register s => some (none, { h with subscriptions := h.subscriptions.register s })
  | _, h, .unregister topic id =>
    let (count, rest) := h.subscriptions.unregister topic id
    some (some count, { h with subscriptions := rest })
  | _, h, .clear => some (none, { h with subscriptions := [] })
  | 0, h, .publish source _ =>
    if (h.subscriptions.matching source).isEmpty then some (some 0, h) else none
  | 0, h, .start =>
    if (h.subscriptions.matching .monitoring).isEmpty then some (some 0, h) else none
  | depth + 1, h, .publish source state =>
    let targets := h.subscriptions.matching source
    (targets.foldlM (call react (perform react depth) (.notify source state)) h).map
      fun h => (some targets.length, h)
  | depth + 1, h, .start =>
    let targets := h.subscriptions.matching .monitoring
    (targets.foldlM (call react (perform react depth) .begin) h).map
      fun h => (some targets.length, h)

end Hall

end DpllWatch.Subscriptions
