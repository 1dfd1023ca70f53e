/-! Lock status of one half of a DPLL, and how two halves fuse into one. -/

namespace DpllWatch

inductive LockStatus where
  | unknown
  | invalid
  | freeRun
  | locked
  | lockedHoldoverAcquired
  | holdover
deriving DecidableEq, Repr, Inhabited

namespace LockStatus

def all : List LockStatus :=
  [unknown, invalid, freeRun, locked, lockedHoldoverAcquired, holdover]

theorem mem_all (s : LockStatus) : s ∈ all := by cases s <;> simp [all]

def ofCode (code : Int) : LockStatus :=
  match code with
  | 0 => invalid
  | 1 => freeRun
  | 2 => locked
  | 3 => lockedHoldoverAcquired
  | 4 => holdover
  | _ => unknown

def code : LockStatus → Int64
  | unknown => -1
  | invalid => 0
  | freeRun => 1
  | locked => 2
  | lockedHoldoverAcquired => 3
  | holdover => 4

@[simp] theorem ofCode_code (s : LockStatus) : ofCode s.code.toInt = s := by cases s <;> rfl

/-- How good a status is. A lock that has learned its holdover values is the best one. -/
def quality : LockStatus → Int
  | unknown => -1
  | invalid => 0
  | freeRun => 1
  | holdover => 2
  | locked => 3
  | lockedHoldoverAcquired => 4

/-- The half of lower quality decides for the whole clock. -/
def worse (phase frequency : LockStatus) : LockStatus :=
  if frequency.quality < phase.quality then frequency else phase

def name : LockStatus → String
  | unknown => "Unknown"
  | invalid => "Invalid"
  | freeRun => "FreeRun"
  | locked => "Locked"
  | lockedHoldoverAcquired => "LockedHoldoverAcquired"
  | holdover => "Holdover"

def text : LockStatus → String
  | unknown => "unknown(-1)"
  | invalid => "invalid(0)"
  | freeRun => "unlocked(1)"
  | locked => "locked(2)"
  | lockedHoldoverAcquired => "locked-ho-acquired(3)"
  | holdover => "holdover(4)"

end LockStatus

end DpllWatch
