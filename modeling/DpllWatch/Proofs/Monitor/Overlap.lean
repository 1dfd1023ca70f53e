import DpllWatch.Proofs.Monitor.Step

/-! Calls that overlap. The monitor is held while a call acts on it, but not for the whole of every
call: a start and a notification are let in first and act later, and a stop acts three times. What
comes in between belongs to a run of moves and not to any run of inputs. -/

namespace DpllWatch.Monitor

variable {m : Monitor}

def start (m : Monitor) : Monitor := { m with monitoring := true }

/-- A notification that was let in, even if monitoring has ended since. -/
def deliver (m : Monitor) (source : Source) (state : SyncState) : Monitor × List Report :=
  if m.lastSeen.get source = state then (m, []) else (m.hear source state).decide

def letGo (m : Monitor) : Monitor := release { m with tornDown := true, stopping := true }

def goDeaf (m : Monitor) : Monitor := { m with monitoring := false }

/-- What is done to a monitor at one go. -/
inductive Move where
  | call (input : Input)
  | start
  | deliver (source : Source) (state : SyncState)
  | letGo
  | farewell
  | goDeaf
deriving DecidableEq, Repr

def act (m : Monitor) : Move → Monitor × List Report
  | .call input => m.step input
  | .start => (m.start, [])
  | .deliver source state => m.deliver source state
  | .letGo => (m.letGo, [])
  | .farewell => (m, (m.profile.map m.resetReport).toList)
  | .goDeaf => (m.goDeaf, [])

def play (m : Monitor) : List Move → Monitor × List Report
  | [] => (m, [])
  | move :: rest =>
    let (m, offered) := m.act move
    let (m, later) := play m rest
    (m, offered ++ later)

theorem play_cons (m : Monitor) (move : Move) (rest : List Move) :
    m.play (move :: rest) =
      (((m.act move).1.play rest).1, (m.act move).2 ++ ((m.act move).1.play rest).2) := rfl

/-! Inputs are moves that nothing comes between. -/

theorem play_map_call (m : Monitor) (inputs : List Input) :
    m.play (inputs.map .call) = m.run inputs := by
  induction inputs generalizing m with
  | nil => rfl
  | cons input rest ih =>
      rw [List.map_cons, play_cons, run_cons, ← ih]
      rfl

theorem activate_eq_start (m : Monitor) :
    m.activate.2 = if m.stopping || m.backend == .absent then m else m.start := by
  unfold activate
  split <;> rfl

theorem notify_eq_deliver (m : Monitor) (source : Source) (state : SyncState) :
    m.notify source state = if m.monitoring then m.deliver source state else (m, []) := by
  unfold notify deliver
  cases m.monitoring <;> rfl

theorem teardown_eq_play (first : m.tornDown = false) :
    m.teardown = m.play [.letGo, .farewell, .goDeaf] := by
  unfold teardown
  rw [if_neg (by simp [first])]
  simp [play, act, goDeaf, letGo]

theorem deliver_cases (m : Monitor) (source : Source) (state : SyncState) :
    (m.deliver source state).1 = m ∨
      (m.deliver source state).1 = (m.hear source state).decide.1 := by
  unfold deliver
  split
  · exact .inl rfl
  · exact .inr rfl

structure Moment where
  before : Monitor
  move : Move

def Moment.after (t : Moment) : Monitor := (t.before.act t.move).1

def moments (m : Monitor) : List Move → List Moment
  | [] => []
  | move :: rest => ⟨m, move⟩ :: moments (m.act move).1 rest

end DpllWatch.Monitor
