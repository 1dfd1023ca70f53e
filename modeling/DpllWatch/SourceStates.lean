import DpllWatch.Source
import DpllWatch.SyncState

/-! Sync states of the sources a node depends on, and the worst of them. -/

namespace DpllWatch

/-- `worst` is kept beside the table and brought up to date by every operation. -/
structure SourceStates where
  states : PerSource (Option SyncState)
  worst : SyncState
deriving DecidableEq, Repr

namespace SourceStates

def empty : SourceStates := ⟨.const none, .freeRun⟩

def reported (t : PerSource (Option SyncState)) : List SyncState :=
  Source.all.filterMap t.get

/-- Nothing to depend on counts as free running. -/
def worstOf (t : PerSource (Option SyncState)) : SyncState :=
  match reported t with
  | [] => .freeRun
  | s :: rest => rest.foldl SyncState.meet s

private def refresh (t : PerSource (Option SyncState)) : SourceStates := ⟨t, worstOf t⟩

/-- A source that has not reported yet counts as unknown; an earlier report stands. -/
def register (u : SourceStates) (source : Source) : SourceStates :=
  refresh (u.states.set source (some ((u.states.get source).getD .unknown)))

def update (u : SourceStates) (source : Source) (state : SyncState) : Bool × SourceStates :=
  ((u.states.get source).getD .unknown != state, refresh (u.states.set source (some state)))

/-- An update that hands the report on before the table can change again: `next` runs on every
report, repeated or not. -/
def record {σ : Type} (u : SourceStates) (source : Source) (state : SyncState) (next : σ → σ)
    (s : σ) : Bool × SourceStates × σ :=
  let (changed, u) := u.update source state
  (changed, u, next s)

def stateOf (u : SourceStates) (source : Source) : Option SyncState := u.states.get source

end SourceStates

end DpllWatch
