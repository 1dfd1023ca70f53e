import DpllWatch.Event.Document
import DpllWatch.Files.Tree
import DpllWatch.Json.Reader
import DpllWatch.Settings.Daemon

/-! Settings as JSON documents. -/

namespace DpllWatch

namespace Window

def fieldNames : List String := ["min", "max"]

def toJson (w : Window) : Json := .record (fieldNames.zip [.int w.min.toInt, .int w.max.toInt])

def ofJson? (v : Json) : Option Window := do
  match ← v.fields? fieldNames with
  | [min, max] => return ⟨← Json.field? Json.int64? min, ← Json.field? Json.int64? max⟩
  | _ => none

end Window

namespace Settings

def fieldNames : List String :=
  ["clock_id", "interface", "local_max_holdover_offset_ns", "local_holdover_timeout_secs",
    "max_in_spec_offset_ns", "depends_on"]

def toJson (s : Settings) : Json :=
  .record (fieldNames.zip
    [.int s.clockId.toNat, .text s.interface, .int s.maxHoldoverOffset.toNat,
      .int s.holdoverTimeout.toNat, .int s.maxInSpecOffset.toNat,
      .array (s.dependsOn.map Source.toJson)])

def ofJson? (v : Json) : Option Settings := do
  match ← v.fields? fieldNames with
  | [clockId, interface, maxOffset, timeout, inSpec, dependsOn] =>
    return {
      clockId := ← Json.field? Json.uint64? clockId
      interface := ← Json.field? Json.text? interface
      maxHoldoverOffset := ← Json.field? Json.uint64? maxOffset
      holdoverTimeout := ← Json.field? Json.uint64? timeout
      maxInSpecOffset := ← Json.field? Json.uint64? inSpec
      dependsOn := ← Json.field? (Json.list? Source.ofJson?) dependsOn }
  | _ => none

end Settings

namespace Profile

def fieldNames : List String := ["config_name", "clock_type", "threshold"]

def toJson (p : Profile) : Json :=
  .record (fieldNames.zip [.text p.name, p.clockKind.toJson, p.window.toJson])

def ofJson? (v : Json) : Option Profile := do
  match ← v.fields? fieldNames with
  | [name, clockKind, window] =>
    return {
      name := ← Json.fieldOr? Json.text? standard.name name
      clockKind := ← Json.fieldOr? ClockKind.ofJson? standard.clockKind clockKind
      window := ← Json.fieldOr? Window.ofJson? standard.window window }
  | _ => none

end Profile

namespace Timing

def fieldNames : List String :=
  ["poll_interval_ms", "holdover_tick_ms", "redial_delay_ms", "redial_max_delay_ms",
    "netlink_recv_timeout_ms", "event_queue_depth", "sysfs_root"]

def toJson (t : Timing) : Json :=
  .record (fieldNames.zip
    [.int t.pollInterval.toNat, .int t.holdoverTick.toNat, .int t.redialDelay.toNat,
      .int t.redialMaxDelay.toNat, .int t.receiveTimeout.toNat, .int t.queueDepth.toNat,
      .text t.statusRoot])

def ofJson? (v : Json) : Option Timing := do
  match ← v.fields? fieldNames with
  | [poll, tick, delay, maxDelay, receive, depth, root] =>
    return {
      pollInterval := ← Json.fieldOr? Json.uint64? standard.pollInterval poll
      holdoverTick := ← Json.fieldOr? Json.uint64? standard.holdoverTick tick
      redialDelay := ← Json.fieldOr? Json.uint64? standard.redialDelay delay
      redialMaxDelay := ← Json.fieldOr? Json.uint64? standard.redialMaxDelay maxDelay
      receiveTimeout := ← Json.fieldOr? Json.uint64? standard.receiveTimeout receive
      queueDepth := ← Json.fieldOr? Json.uint64? standard.queueDepth depth
      statusRoot := ← Json.fieldOr? Json.text? standard.statusRoot root }
  | _ => none

end Timing

namespace DaemonSettings

def fieldNames : List String := ["interfaces", "depends_on", "ptp_settings", "process", "timing"]

def toJson (d : DaemonSettings) : Json :=
  .record (fieldNames.zip
    [.array (d.interfaces.map .text), .array (d.dependsOn.map Source.toJson),
      .record (d.ptpSettings.map fun entry => (entry.1, .text entry.2)), d.profile.toJson,
      d.timing.toJson])

/-- Where a key occurs more than once, its last value counts. -/
def table? (v : Json) : Option (Table String) := do
  let entries ← (← v.members?).mapM fun m => m.2.text?.map (m.1, ·)
  return .ofList entries

def ofJson? (v : Json) : Option DaemonSettings := do
  match ← v.fields? fieldNames with
  | [interfaces, dependsOn, ptpSettings, profile, timing] =>
    return {
      interfaces := ← Json.fieldOr? (Json.list? Json.text?) standard.interfaces interfaces
      dependsOn := ← Json.fieldOr? (Json.list? Source.ofJson?) standard.dependsOn dependsOn
      ptpSettings := ← Json.fieldOr? table? standard.ptpSettings ptpSettings
      profile := ← Json.fieldOr? Profile.ofJson? standard.profile profile
      timing := ← Json.fieldOr? Timing.ofJson? standard.timing timing }
  | _ => none

end DaemonSettings

inductive LoadError where
  | unreadable (path : String) (cause : FileError)
  | unparsable (path : String)
deriving DecidableEq, Repr

namespace LoadError

def layers : LoadError → List String
  | unreadable path cause => ["failed to read config " ++ path, cause.message]
  | unparsable path => ["failed to parse config " ++ path]

end LoadError

namespace DaemonSettings

def load (files : FileTree) (path : String) : Except LoadError DaemonSettings :=
  match files.readText path with
  | .error e => .error (.unreadable path e)
  | .ok text =>
    match (Json.parse? text).bind ofJson? with
    | none => .error (.unparsable path)
    | some d => .ok d

end DaemonSettings

end DpllWatch
