import DpllWatch.Backend
import DpllWatch.Event
import DpllWatch.LockStatus
import DpllWatch.Settings
import DpllWatch.Settings.Profile

/-! The monitor of one clock: what it knows and how it decides on the state to publish. -/

namespace DpllWatch

/-- `phaseOffset` is the offset as last sampled, `offset` the one that decisions look at: while the
source is lost it follows the countdown. `episode` is the countdown that the monitor owns, and
episodes are numbered from one. `stopping` is set when a stop begins and `tornDown` when monitoring
has ended. -/
structure Monitor where
  settings : Settings
  drift : Drift
  backend : Backend
  phase : LockStatus
  frequency : LockStatus
  phaseOffset : Int64
  offset : Int64
  state : SyncState
  inSpec : Bool
  sourceLost : Bool
  rangeExceeded : Bool
  lastSeen : PerSource SyncState
  episode : Option Nat
  nextEpisode : Nat
  monitoring : Bool
  profile : Option Profile
  decisions : Nat
  stopping : Bool
  tornDown : Bool

namespace Monitor

inductive SetupError where
  | settings (cause : SettingsError)
  | drift (interface : String) (cause : DriftError)
deriving DecidableEq, Repr

namespace SetupError

def layers : SetupError → List String
  | settings cause => cause.layers
  | drift interface cause => ["invalid holdover settings for " ++ interface, cause.message]

end SetupError

def fresh (settings : Settings) (drift : Drift) : Monitor where
  settings := settings
  drift := drift
  backend := .absent
  phase := .unknown
  frequency := .unknown
  phaseOffset := 0
  offset := 0
  state := .freeRun
  inSpec := true
  sourceLost := false
  rangeExceeded := false
  lastSeen := .const .unknown
  episode := none
  nextEpisode := 1
  monitoring := false
  profile := none
  decisions := 0
  stopping := false
  tornDown := false

def create (settings : Settings) : Except SetupError Monitor :=
  match settings.validate with
  | .error e => .error (.settings e)
  | .ok settings =>
    match settings.drift with
    | .error e => .error (.drift settings.interface e)
    | .ok drift => .ok (fresh settings drift)

def id (m : Monitor) : String := "dpll[" ++ m.settings.interface ++ "]"

def fused (m : Monitor) : LockStatus := .worse m.phase m.frequency

def window? (m : Monitor) : Option Window :=
  match m.profile with
  | some p => some p.window
  | none => m.settings.window?

def owns (m : Monitor) (episode : Nat) : Bool := m.episode == some episode

/-- Gives up the countdown, if there is one; the clock then counts as in spec again. -/
def release (m : Monitor) : Monitor :=
  if m.episode.isSome then { m with episode := none, inSpec := true } else m

def arm (m : Monitor) : Monitor :=
  { m with episode := some m.nextEpisode, nextEpisode := m.nextEpisode + 1, state := .holdover }

/-- The decision, given whether the offset is in range. A clock that could hold over is locked while
its source is there and it is in range. When the source goes, it holds over until its countdown
ends, and is not armed again after an excess until the source comes back. With the source there but
out of range the state stays as it is. -/
def settle (m : Monitor) (inRange : Bool) : Monitor :=
  match m.fused with
  | .unknown | .invalid | .freeRun =>
    let m := release { m with inSpec := true }
    { m with state := .freeRun }
  | .locked =>
    let m := m.release
    { m with state := if !m.sourceLost && inRange then .locked else .freeRun, inSpec := true }
  | .lockedHoldoverAcquired | .holdover =>
    if !m.sourceLost && inRange then
      let m := m.release
      { m with inSpec := true, state := .locked }
    else if m.sourceLost && m.inSpec then
      if m.episode.isSome then m
      else if m.rangeExceeded then { m with state := .freeRun }
      else m.arm
    else if !m.inSpec then
      let m := m.release
      { m with state := .freeRun }
    else m

def report (m : Monitor) (p : Profile) : Report where
  interface := m.settings.interface
  profile := p.name
  clockKind := p.clockKind
  state := m.state
  readings := ⟨some m.frequency.code, some m.phaseOffset, some m.phase.code⟩
  reset := false

def resetReport (m : Monitor) (p : Profile) : Report where
  interface := m.settings.interface
  profile := p.name
  clockKind := p.clockKind
  state := .unknown
  readings := .empty
  reset := true

def offers (m : Monitor) : List Report :=
  if m.stopping then [] else (m.profile.map m.report).toList

/-- Counts and makes a decision. Without a window in force it is given up after the count. -/
def decide (m : Monitor) : Monitor × List Report :=
  let m := { m with decisions := m.decisions + 1 }
  match m.window? with
  | none => (m, [])
  | some w =>
    let m := m.settle (w.contains m.offset)
    (m, m.offers)

end Monitor

end DpllWatch
