import DpllWatch.Source
import DpllWatch.SyncState

/-! What a monitor reports: its published state with the readings behind it. -/

namespace DpllWatch

inductive Reading where
  | frequencyStatus
  | offset
  | phaseStatus
deriving DecidableEq, Repr, Inhabited

namespace Reading

def all : List Reading := [frequencyStatus, offset, phaseStatus]

theorem mem_all (r : Reading) : r ∈ all := by cases r <;> simp [all]

def rank : Reading → Nat
  | frequencyStatus => 0
  | offset => 1
  | phaseStatus => 2

def name : Reading → String
  | frequencyStatus => "frequency_status"
  | offset => "offset"
  | phaseStatus => "phase_status"

def label : Reading → String
  | frequencyStatus => "FrequencyStatus"
  | offset => "Offset"
  | phaseStatus => "PhaseStatus"

end Reading

/-- Readings of an event; those it does not carry are `none`. -/
structure Readings where
  frequencyStatus : Option Int64
  offset : Option Int64
  phaseStatus : Option Int64
deriving DecidableEq, Repr, Inhabited

namespace Readings

def empty : Readings := ⟨none, none, none⟩

def get (t : Readings) : Reading → Option Int64
  | .frequencyStatus => t.frequencyStatus
  | .offset => t.offset
  | .phaseStatus => t.phaseStatus

def set (t : Readings) (r : Reading) (value : Int64) : Readings :=
  match r with
  | .frequencyStatus => { t with frequencyStatus := some value }
  | .offset => { t with offset := some value }
  | .phaseStatus => { t with phaseStatus := some value }

theorem get_set (t : Readings) (r q : Reading) (value : Int64) :
    (t.set r value).get q = if q = r then some value else t.get q := by
  cases r <;> cases q <;> rfl

def toList (t : Readings) : List (Reading × Int64) :=
  Reading.all.filterMap fun r => (t.get r).map (r, ·)

end Readings

inductive ClockKind where
  | grandmaster
  | boundary
  | ordinary
deriving DecidableEq, Repr, Inhabited

namespace ClockKind

def all : List ClockKind := [grandmaster, boundary, ordinary]

theorem mem_all (k : ClockKind) : k ∈ all := by cases k <;> simp [all]

def name : ClockKind → String
  | grandmaster => "GM"
  | boundary => "BC"
  | ordinary => "OC"

end ClockKind

structure Event where
  source : Source
  state : SyncState
  interface : String
  profile : String
  clockKind : ClockKind
  timestamp : Int64
  readings : Readings
  logged : Bool
  reset : Bool
deriving DecidableEq, Repr

/-- What a monitor offers to its consumers, before the time of day is put on it. A reset report
says that monitoring has ended; it carries no readings. -/
structure Report where
  interface : String
  profile : String
  clockKind : ClockKind
  state : SyncState
  readings : Readings
  reset : Bool
deriving DecidableEq, Repr

namespace Report

def stamp (r : Report) (timestamp : Int64) : Event where
  source := .dpll
  state := r.state
  interface := r.interface
  profile := r.profile
  clockKind := r.clockKind
  timestamp := timestamp
  readings := r.readings
  logged := !r.reset
  reset := r.reset

end Report

namespace Event

private def readingText (entry : Reading × Int64) : String :=
  entry.1.label ++ ": " ++ toString entry.2.toInt

def line (e : Event) : String :=
  let head := "[" ++ e.source.name ++ "] " ++ e.interface
  if e.reset then head ++ " monitoring terminated"
  else
    head ++ " state " ++ e.state.name ++ " values \x7b" ++
      ", ".intercalate (e.readings.toList.map readingText) ++ "\x7d"

end Event

end DpllWatch
