import DpllWatch.Event.Document
import DpllWatch.Monitor

/-! What a monitor shows of itself. -/

namespace DpllWatch

structure Snapshot where
  interface : String
  clockId : UInt64
  backend : Backend
  phase : LockStatus
  frequency : LockStatus
  phaseOffset : Int64
  offset : Int64
  state : SyncState
  inSpec : Bool
  sourceLost : Bool
  onHoldover : Bool
  monitoring : Bool
  decisions : UInt64
deriving DecidableEq, Repr

def Monitor.snapshot (m : Monitor) : Snapshot where
  interface := m.settings.interface
  clockId := m.settings.clockId
  backend := m.backend
  phase := m.phase
  frequency := m.frequency
  phaseOffset := m.phaseOffset
  offset := m.offset
  state := m.state
  inSpec := m.inSpec
  sourceLost := m.sourceLost
  onHoldover := m.episode.isSome
  monitoring := m.monitoring
  decisions := UInt64.ofNat m.decisions

def LockStatus.toJson (s : LockStatus) : Json := .text s.name

def LockStatus.ofJson? : Json → Option LockStatus := Json.choice? all name

def Backend.toJson (b : Backend) : Json := .text b.name

def Backend.ofJson? : Json → Option Backend := Json.choice? all name

namespace Snapshot

def fieldNames : List String :=
  ["interface", "clock_id", "backend", "phase_status", "frequency_status", "phase_offset_ns",
    "offset_ns", "state", "in_spec", "source_lost", "on_holdover", "monitoring", "decisions"]

def toJson (s : Snapshot) : Json :=
  .record (fieldNames.zip
    [.text s.interface, .int s.clockId.toNat, s.backend.toJson, s.phase.toJson,
      s.frequency.toJson, .int s.phaseOffset.toInt, .int s.offset.toInt, s.state.toJson,
      .bool s.inSpec, .bool s.sourceLost, .bool s.onHoldover, .bool s.monitoring,
      .int s.decisions.toNat])

def ofJson? (v : Json) : Option Snapshot := do
  match ← v.fields? fieldNames with
  | [interface, clockId, backend, phase, frequency, phaseOffset, offset, state, inSpec,
      sourceLost, onHoldover, monitoring, decisions] =>
    return {
      interface := ← Json.field? Json.text? interface
      clockId := ← Json.field? Json.uint64? clockId
      backend := ← Json.field? Backend.ofJson? backend
      phase := ← Json.field? LockStatus.ofJson? phase
      frequency := ← Json.field? LockStatus.ofJson? frequency
      phaseOffset := ← Json.field? Json.int64? phaseOffset
      offset := ← Json.field? Json.int64? offset
      state := ← Json.field? SyncState.ofJson? state
      inSpec := ← Json.field? Json.bool? inSpec
      sourceLost := ← Json.field? Json.bool? sourceLost
      onHoldover := ← Json.field? Json.bool? onHoldover
      monitoring := ← Json.field? Json.bool? monitoring
      decisions := ← Json.field? Json.uint64? decisions }
  | _ => none

end Snapshot

end DpllWatch
