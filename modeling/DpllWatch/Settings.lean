import DpllWatch.Drift
import DpllWatch.Source
import DpllWatch.Table
import DpllWatch.Text.Blank
import DpllWatch.Text.Quoted
import DpllWatch.Window

/-! Settings of one interface's clock, and how they are read from a table of PTP settings. -/

namespace DpllWatch

/-- Offsets are in nanoseconds, the holdover timeout is in seconds. -/
structure Settings where
  clockId : UInt64
  interface : String
  maxHoldoverOffset : UInt64
  holdoverTimeout : UInt64
  maxInSpecOffset : UInt64
  dependsOn : List Source
deriving DecidableEq, Repr

inductive SettingsError where
  | missing (key : String)
  | badNumber (key raw : String) (cause : Text.NumberError)
  | noInterface
  | notPositive (key : String)
deriving DecidableEq, Repr

namespace SettingsError

def layers : SettingsError → List String
  | missing key => ["missing " ++ key ++ " in ptp settings"]
  | badNumber key raw cause =>
    ["invalid value " ++ String.ofList (Text.Quoted.quote raw.toList) ++ " for " ++ key,
      cause.message]
  | noInterface => ["dpll interface name is empty"]
  | notPositive key => [key ++ " must be positive"]

end SettingsError

namespace Settings

def maxHoldoverOffsetKey : String := "LocalMaxHoldoverOffSet"

def holdoverTimeoutKey : String := "LocalHoldoverTimeout"

def maxInSpecOffsetKey : String := "MaxInSpecOffset"

def clockIdKey (interface : String) : String := "clockId[" ++ interface ++ "]"

def clockIdText (id : UInt64) : String := String.ofList (Text.decimal id.toNat)

def standard (clockId : UInt64) (interface : String) (dependsOn : List Source) : Settings where
  clockId := clockId
  interface := interface
  maxHoldoverOffset := 1500
  holdoverTimeout := 14400
  maxInSpecOffset := 100
  dependsOn := dependsOn

def validate (s : Settings) : Except SettingsError Settings :=
  if s.interface.isEmpty then .error .noInterface
  else if s.holdoverTimeout = 0 then .error (.notPositive holdoverTimeoutKey)
  else if s.maxHoldoverOffset = 0 then .error (.notPositive maxHoldoverOffsetKey)
  else .ok s

def number (key raw : String) : Except SettingsError UInt64 :=
  match Text.readUInt64 (Text.trim raw.toList) with
  | .ok n => .ok n
  | .error cause => .error (.badNumber key raw cause)

def numberOr (table : Table String) (key : String) (default : UInt64) :
    Except SettingsError UInt64 :=
  match table.get? key with
  | none => .ok default
  | some raw => number key raw

/-- The clock id must be there; the rest has defaults. Of several faults the first in this order is
reported: clock id, holdover offset, holdover timeout, in-spec offset, then values out of range. -/
def ofTable (interface : String) (table : Table String) (dependsOn : List Source) :
    Except SettingsError Settings := do
  let clockId ← match table.get? (clockIdKey interface) with
    | none => .error (.missing (clockIdKey interface))
    | some raw => number (clockIdKey interface) raw
  let base := standard clockId interface dependsOn
  let maxHoldoverOffset ← numberOr table maxHoldoverOffsetKey base.maxHoldoverOffset
  let holdoverTimeout ← numberOr table holdoverTimeoutKey base.holdoverTimeout
  let maxInSpecOffset ← numberOr table maxInSpecOffsetKey base.maxInSpecOffset
  validate { base with
    maxHoldoverOffset := maxHoldoverOffset
    holdoverTimeout := holdoverTimeout
    maxInSpecOffset := maxInSpecOffset }

def window? (s : Settings) : Option Window := Window.around? s.maxInSpecOffset

def drift (s : Settings) : Except DriftError Drift :=
  Drift.ofLimits s.maxHoldoverOffset s.holdoverTimeout s.maxInSpecOffset

end Settings

end DpllWatch
