import DpllWatch.Settings
import DpllWatch.Settings.Profile
import DpllWatch.Settings.Timing

/-! Settings of the whole daemon, and the settings of each interface that follow from them. -/

namespace DpllWatch

structure DaemonSettings where
  interfaces : List String
  dependsOn : List Source
  ptpSettings : Table String
  profile : Profile
  timing : Timing
deriving DecidableEq, Repr

inductive ConfigureError (ε : Type) where
  | noClockId (interface : String) (cause : ε)
  | settings (cause : SettingsError)
deriving DecidableEq, Repr

namespace ConfigureError

def layers {ε : Type} (cause : ε → List String) : ConfigureError ε → List String
  | noClockId interface e =>
    ("no clock id configured or discoverable for " ++ interface) :: cause e
  | settings e => e.layers

end ConfigureError

namespace DaemonSettings

def standard : DaemonSettings := ⟨[], [], [], .standard, .standard⟩

variable {ε : Type}

/-- The table with a clock id for an interface. An id that it does not hold is looked up and joins it.
A lookup may answer in view of the interfaces that were looked up before. -/
def identify (lookup : List String → String → Except ε UInt64) (asked : List String)
    (table : Table String) (interface : String) :
    List String × Except (ConfigureError ε) (Table String) :=
  match table.get? (Settings.clockIdKey interface) with
  | some _ => (asked, .ok table)
  | none =>
    match lookup asked interface with
    | .error e => (asked ++ [interface], .error (.noClockId interface e))
    | .ok id =>
      (asked ++ [interface],
        .ok (table.put (Settings.clockIdKey interface) (Settings.clockIdText id)))

def configureFrom (lookup : List String → String → Except ε UInt64) (dependsOn : List Source) :
    List String → Table String → List String →
      List String × Except (ConfigureError ε) (List Settings)
  | asked, _, [] => (asked, .ok [])
  | asked, table, interface :: rest =>
    match identify lookup asked table interface with
    | (asked, .error e) => (asked, .error e)
    | (asked, .ok table) =>
      match Settings.ofTable interface table dependsOn with
      | .error e => (asked, .error (.settings e))
      | .ok s =>
        let (asked, result) := configureFrom lookup dependsOn asked table rest
        (asked, result.map (s :: ·))

def configureWith (d : DaemonSettings) (lookup : List String → String → Except ε UInt64) :
    List String × Except (ConfigureError ε) (List Settings) :=
  configureFrom lookup d.dependsOn [] d.ptpSettings d.interfaces

def configure (d : DaemonSettings) (lookup : String → Except ε UInt64) :
    List String × Except (ConfigureError ε) (List Settings) :=
  d.configureWith fun _ => lookup

end DaemonSettings

end DpllWatch
