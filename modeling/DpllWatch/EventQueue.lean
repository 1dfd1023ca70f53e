/-! Bounded event queues. A full or closed queue refuses; it never makes the sender wait. -/

namespace DpllWatch

structure EventQueue (α : Type) where
  depth : Nat
  waiting : List α
  closed : Bool
deriving Repr

namespace EventQueue

variable {α : Type}

def bounded (depth : Nat) : EventQueue α := ⟨depth, [], false⟩

/-- Room is set aside for every event of a queue, 96 bytes each, and no more than this many fit into
an address space. -/
def maxDepth : Nat := Int64.maxValue.toInt.toNat / 96

def publish (q : EventQueue α) (event : α) : Bool × EventQueue α :=
  if !q.closed && q.waiting.length < q.depth then
    (true, { q with waiting := q.waiting ++ [event] })
  else (false, q)

def publishAll (q : EventQueue α) (events : List α) : EventQueue α :=
  events.foldl (fun q event => (q.publish event).2) q

def receive (q : EventQueue α) : Option α × EventQueue α :=
  match q.waiting with
  | [] => (none, q)
  | event :: rest => (some event, { q with waiting := rest })

def drain (q : EventQueue α) (limit : Option Nat) : List α × EventQueue α :=
  let n := limit.getD q.waiting.length
  (q.waiting.take n, { q with waiting := q.waiting.drop n })

def close (q : EventQueue α) : EventQueue α := { q with waiting := [], closed := true }

end EventQueue

end DpllWatch
