import DpllWatch.Event
import DpllWatch.Json.Schema

/-! Events as JSON documents. -/

namespace DpllWatch

def SyncState.toJson (s : SyncState) : Json := .text s.name

def SyncState.ofJson? : Json → Option SyncState := Json.choice? all name

def Source.toJson (s : Source) : Json := .text s.name

def Source.ofJson? : Json → Option Source := Json.choice? all name

def Reading.toJson (r : Reading) : Json := .text r.name

def Reading.ofJson? : Json → Option Reading := Json.choice? all name

def ClockKind.toJson (k : ClockKind) : Json := .text k.name

def ClockKind.ofJson? : Json → Option ClockKind := Json.choice? all name

namespace Readings

def toJson (t : Readings) : Json :=
  .record (t.toList.map fun entry => (entry.1.name, .int entry.2.toInt))

def entry? (m : String × Json) : Option (Reading × Int64) := do
  let reading ← Reading.all.find? (·.name == m.1)
  let value ← m.2.int64?
  return (reading, value)

/-- Where a reading occurs more than once, the last value counts. -/
def ofJson? (v : Json) : Option Readings := do
  let entries ← (← v.members?).mapM entry?
  return entries.foldl (fun t entry => t.set entry.1 entry.2) empty

end Readings

namespace Event

def fieldNames : List String :=
  ["process_name", "state", "interface", "config_name", "clock_type", "timestamp_ms", "values",
    "write_to_log", "reset"]

def toJson (e : Event) : Json :=
  .record (fieldNames.zip
    [e.source.toJson, e.state.toJson, .text e.interface, .text e.profile, e.clockKind.toJson,
      .int e.timestamp.toInt, e.readings.toJson, .bool e.logged, .bool e.reset])

def ofJson? (v : Json) : Option Event := do
  match ← v.fields? fieldNames with
  | [source, state, interface, profile, clockKind, timestamp, readings, logged, reset] =>
    return {
      source := ← Json.field? Source.ofJson? source
      state := ← Json.field? SyncState.ofJson? state
      interface := ← Json.field? Json.text? interface
      profile := ← Json.field? Json.text? profile
      clockKind := ← Json.field? ClockKind.ofJson? clockKind
      timestamp := ← Json.field? Json.int64? timestamp
      readings := ← Json.field? Readings.ofJson? readings
      logged := ← Json.field? Json.bool? logged
      reset := ← Json.field? Json.bool? reset }
  | _ => none

end Event

end DpllWatch
