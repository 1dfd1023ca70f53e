/-! The sync state that a monitor publishes and that sources report. -/

namespace DpllWatch

/-- Listed from worst to best. -/
inductive SyncState where
  | unknown
  | freeRun
  | holdover
  | locked
deriving DecidableEq, Repr, Inhabited

namespace SyncState

def all : List SyncState := [unknown, freeRun, holdover, locked]

theorem mem_all (s : SyncState) : s ∈ all := by cases s <;> simp [all]

def rank : SyncState → Nat
  | unknown => 0
  | freeRun => 1
  | holdover => 2
  | locked => 3

def meet (a b : SyncState) : SyncState := if a.rank ≤ b.rank then a else b

theorem rank_meet (a b : SyncState) : (meet a b).rank = min a.rank b.rank := by
  cases a <;> cases b <;> rfl

def name : SyncState → String
  | unknown => "-1"
  | freeRun => "s0"
  | holdover => "s1"
  | locked => "s2"

end SyncState

end DpllWatch
