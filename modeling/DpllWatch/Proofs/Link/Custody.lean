import DpllWatch.Proofs.Link.Step

/-! What passes through a link: connections, batches, and the ends of receivers. All of it leaves in
the order in which it came, and at most one of each is inside. -/

namespace DpllWatch.Link

open Netlink (Device)

variable {l l' : Link} {moves : List Move} {move : Move} {effects : List Effect}

def Phase.dump? : Phase → Option (List Device)
  | .priming _ devices => some devices
  | _ => none

def held (l : Link) : List ConnectionId :=
  l.phase.connection?.toList ++ l.receivers.map (·.connection)

/-- Batches that have come in and have not been handed on. -/
def pending (l : Link) : List (List Device) :=
  l.phase.dump?.toList ++ l.receivers.filterMap (·.holding)

@[simp] def Move.opened? : Move → Option ConnectionId
  | .dialed connection => connection
  | _ => none

@[simp] def Move.arrived? : Move → Option (List Device)
  | .dumped devices => devices
  | .received _ (.batch devices) => some devices
  | _ => none

def Move.concludes : Move → Bool
  | .dialed none | .dumped none | .joined _ => true
  | _ => false

@[simp] def Effect.closed? : Effect → Option ConnectionId
  | .close connection => some connection
  | _ => none

@[simp] def Effect.ingested? : Effect → Option (List Device)
  | .ingest devices => some devices
  | _ => none

@[simp] def Effect.isWait : Effect → Bool
  | .wait _ => true
  | _ => false

theorem Sound.unattended (h : Sound l) (fails : Fails l move) :
    l.receivers = [] ∧ l.exits = [] := by
  cases fails with
  | dialing phase | dumping phase | joining phase =>
      exact h.attended.idle (by rw [phase]; rfl) (by simp [phase])

theorem Attended.settled (h : Attended l) {r : Receiver} (only : l.receivers = [r]) :
    l.phase.connection? = none ∧ l.phase.dump? = none := by
  obtain ⟨-, -, known | leaving⟩ := h.of_receiver only
  · cases phase : l.phase <;> simp_all [Phase.epoch?, Phase.connection?, Phase.dump?]
  · simp [leaving, Phase.connection?, Phase.dump?]

theorem Fails.concludes (fails : Fails l move) : move.concludes = true := by
  cases fails <;> rfl

theorem Receiver.Ends.opened {r : Receiver} (ends : r.Ends move) : move.opened? = none := by
  cases ends <;> rfl

theorem Receiver.Ends.arrived {r : Receiver} (ends : r.Ends move) : move.arrived? = none := by
  cases ends <;> rfl

theorem Receiver.Ends.concludes {r : Receiver} (ends : r.Ends move) : move.concludes = false := by
  cases ends <;> rfl

theorem Transition.connections (t : Transition l move l' effects) (h : Sound l) :
    l.held ++ move.opened?.toList = effects.filterMap Effect.closed? ++ l'.held := by
  cases t with
  | failed _ _ fails =>
      have unattended := (h.unattended fails).1
      cases fails with
      | dialing phase | dumping phase | joining phase =>
          simp [held, Phase.connection?, phase, unattended]
  | dialed c phase =>
      have unattended := (h.unattended (.dialing phase)).1
      simp [held, Phase.connection?, phase, unattended]
  | joined phase none | left phase none => simp [held, Phase.connection?, phase, none]
  | received _ only | handedOn only => simp [held, only]
  | @ended r _ only ends =>
      have settled := (h.attended.settled only).1
      rw [ends.opened]
      cases holding : r.holding <;> simp [held, only, settled, List.filterMap_cons]
  | waits | stopAsked => simp [held]
  | dumped _ phase | primed phase | lost _ _ phase | stopped phase | calledOff phase
  | waited phase | tornDown phase | tornDownAttended phase | dismissed phase =>
      simp [held, Phase.connection?, phase]

theorem Transition.intake (t : Transition l move l' effects) (h : Sound l) :
    l.pending ++ move.arrived?.toList = effects.filterMap Effect.ingested? ++ l'.pending := by
  cases t with
  | failed _ _ fails =>
      have unattended := (h.unattended fails).1
      cases fails with
      | dialing phase | dumping phase | joining phase =>
          simp [pending, Phase.dump?, Phase.connection?, phase, unattended]
  | dumped _ phase =>
      have unattended := (h.unattended (.dumping phase)).1
      simp [pending, Phase.dump?, phase, unattended]
  | joined phase none | left phase none => simp [pending, Phase.dump?, phase, none]
  | received _ only free =>
      have settled := (h.attended.settled only).2
      simp [pending, only, free, settled]
  | handedOn only holding =>
      have settled := (h.attended.settled only).2
      simp [pending, only, holding, settled]
  | @ended r _ only ends =>
      have settled := (h.attended.settled only).2
      rw [ends.arrived]
      cases holding : r.holding <;> simp [pending, only, settled, holding]
  | waits | stopAsked => simp [pending]
  | dialed _ phase | primed phase | lost _ _ phase | stopped phase | calledOff phase
  | waited phase | tornDown phase | tornDownAttended phase =>
      simp [pending, Phase.dump?, phase]
  | dismissed phase => simp [pending, Phase.dump?, phase, Function.comp_def]

theorem Transition.conclusions (t : Transition l move l' effects) :
    l.receivers.length + l.exits.length + [move].countP Move.concludes =
      effects.countP Effect.isWait + (l'.receivers.length + l'.exits.length) := by
  cases t with
  | failed _ _ fails =>
      cases l.phase.connection? <;> simp [exits, fails.concludes, Nat.add_comm]
  | joined _ none => simp [exits, none, Move.concludes, Nat.add_comm]
  | received _ only | handedOn only => simp [exits, only, Move.concludes]
  | @ended r _ only ends =>
      cases r.holding <;> simp [exits, only, ends.concludes, Nat.add_comm]
  | lost _ _ _ queued =>
      simp [exits, queued, Move.concludes]
      omega
  | stopped _ queued | calledOff _ queued =>
      simp [exits, queued, List.filterMap_cons, Move.concludes]
  | _ => simp [exits, Move.concludes]

theorem Sound.account {α : Type} {stock : Link → List α} {inflow : Move → Option α}
    {outflow : Effect → Option α}
    (one : ∀ {l l' : Link} {move : Move} {effects : List Effect}, Transition l move l' effects →
      Sound l → stock l ++ (inflow move).toList = effects.filterMap outflow ++ stock l')
    (h : Sound l) (ran : l.run moves = some (l', effects)) :
    stock l ++ moves.filterMap inflow = effects.filterMap outflow ++ stock l' := by
  refine h.run_rec ran (fun l => by simp) ?_
  intro l move next now rest l' later sound made tail
  calc stock l ++ (move :: rest).filterMap inflow
    _ = stock l ++ (inflow move).toList ++ rest.filterMap inflow := by
      cases taken : inflow move <;> simp [taken]
    _ = now.filterMap outflow ++ (stock next ++ rest.filterMap inflow) := by
      rw [one made sound, List.append_assoc]
    _ = (now ++ later).filterMap outflow ++ stock l' := by
      rw [tail, List.filterMap_append, List.append_assoc]

theorem Sound.conclusions (h : Sound l) (ran : l.run moves = some (l', effects)) :
    l.receivers.length + l.exits.length + moves.countP Move.concludes =
      effects.countP Effect.isWait + (l'.receivers.length + l'.exits.length) := by
  refine h.run_rec ran (fun l => by simp) ?_
  intro l move next now rest l' later sound made tail
  have first := made.conclusions
  rw [List.countP_append, ← List.singleton_append, List.countP_append]
  omega

theorem Transition.epoch_eq (t : Transition l move l' effects) :
    l'.epoch = l.epoch + [move].count (.joined true) := by
  cases t with
  | failed _ _ fails => cases fails <;> rfl
  | ended _ ends => cases ends <;> rfl
  | _ => rfl

theorem Sound.epoch_eq (h : Sound l) (ran : l.run moves = some (l', effects)) :
    l'.epoch = l.epoch + moves.count (.joined true) := by
  refine h.run_rec ran (fun l => by simp) ?_
  intro l move next now rest l' later sound made tail
  rw [tail, made.epoch_eq, Nat.add_assoc, ← List.count_append, List.singleton_append]

theorem Sound.one_receiver (h : Sound l) : l.receivers.length ≤ 1 := by
  cases h.attended with
  | absent none | gone none => simp [none]
  | alive _ only => simp [only]

theorem Sound.one_connection (h : Sound l) : l.held.length ≤ 1 := by
  cases present : l.receivers with
  | nil => cases phase : l.phase.connection? <;> simp [held, present, phase]
  | cons r rest =>
      have only : l.receivers = [r] := by
        have := h.one_receiver
        simpa [present] using this
      simp [held, only, h.attended.settled only]

theorem pending_le_held (l : Link) : l.pending.length ≤ l.held.length := by
  have dump : l.phase.dump?.toList.length ≤ l.phase.connection?.toList.length := by
    cases l.phase <;> simp [Phase.dump?, Phase.connection?]
  have batches : (l.receivers.filterMap (·.holding)).length ≤ l.receivers.length :=
    List.length_filterMap_le _ _
  rw [pending, held, List.length_append, List.length_append, List.length_map]
  omega

theorem Sound.streaming (h : Sound l) {epoch exited : Nat} {rest : List Signal}
    (phase : l.phase = .streaming epoch) (queued : l.signals = .receiverExited exited :: rest) :
    exited = epoch ∧ l.receivers = [] ∧ ∃ wait schedule, l.step .woken =
      some ({ l with phase := .redialing wait, signals := rest, schedule := schedule },
        [.wait wait]) := by
  obtain rfl := h.attended.epoch_eq (by rw [phase]; rfl)
  obtain ⟨rfl, none, -⟩ := h.attended.exit_seen queued
  obtain ⟨wait, schedule, -, redial⟩ := redial_eq (l := { l with signals := rest }) h.schedule
  exact ⟨rfl, none, wait, schedule, by simpa [Link.step, queued, Link.take, phase] using redial⟩

/-- What a link that got here by the given moves, with the given effects, may rely on. -/
structure Exclusive (l : Link) (moves : List Move) (effects : List Effect) : Prop where
  /-- The connections opened are those closed, each once and in order, and those still open. -/
  connections : moves.filterMap Move.opened? = effects.filterMap Effect.closed? ++ l.held
  one_connection : l.held.length ≤ 1
  one_receiver : l.receivers.length ≤ 1
  /-- Epochs are given out by counting, and a receiver that is alive has the last one. -/
  epoch : l.epoch = moves.count (.joined true)
  newest : ∀ r ∈ l.receivers, r.epoch = l.epoch
  /-- Word of an end is there at most once, and it is the last receiver that has ended. -/
  exits : l.exits = [] ∨ l.exits = [l.epoch] ∧ l.receivers = []
  /-- No word of an end can cut a wait short. -/
  redialing : ∀ wait, l.phase = .redialing wait → l.exits = []
  /-- Word of an end that is seen while streaming is about the very receiver that the link streams
  from, and makes the link redial. -/
  streaming : ∀ epoch exited rest, l.phase = .streaming epoch →
    l.signals = .receiverExited exited :: rest → exited = epoch ∧ l.receivers = [] ∧
      ∃ wait schedule, l.step .woken =
        some ({ l with phase := .redialing wait, signals := rest, schedule := schedule },
          [.wait wait])
  /-- Each concluded attempt has led to one wait, unless its receiver lives or word of its end has
  not been seen. -/
  conclusions : moves.countP Move.concludes =
    effects.countP Effect.isWait + (l.receivers.length + l.exits.length)
  /-- Dumps and batches are handed on once each and in the order in which they came. -/
  intake : moves.filterMap Move.arrived? = effects.filterMap Effect.ingested? ++ l.pending
  one_pending : l.pending.length ≤ 1
  /-- Before another connection is opened nothing of the last one is left to hand on. -/
  drained : l.held = [] → l.pending = []

theorem exclusive_run (t : Timing) (ran : (start (Node.schedule t)).run moves = some (l, effects)) :
    Exclusive l moves effects := by
  have began := sound_start t
  have sound := began.run ran
  have one_connection := sound.one_connection
  have pending_le := pending_le_held l
  constructor
  case connections => exact began.account Transition.connections ran
  case one_connection => exact one_connection
  case one_receiver => exact sound.one_receiver
  case epoch => simpa [start] using began.epoch_eq ran
  case newest =>
    intro r alive
    cases sound.attended with
    | absent none | gone none => simp [none] at alive
    | alive _ only _ newest =>
        obtain rfl : r = _ := by simpa [only] using alive
        exact newest
  case exits =>
    cases sound.attended with
    | absent _ silent | alive _ _ silent => exact .inl silent
    | gone none said => exact .inr ⟨said, none⟩
  case redialing =>
    intro wait phase
    exact (sound.attended.idle (by rw [phase]; rfl) (by simp [phase])).2
  case streaming => exact fun _ _ _ phase queued => sound.streaming phase queued
  case conclusions => simpa [start, Link.exits] using began.conclusions ran
  case intake => exact began.account Transition.intake ran
  case one_pending => omega
  case drained =>
    intro none
    rw [none] at pending_le
    exact List.length_eq_zero_iff.1 (Nat.le_zero.1 pending_le)

private def twice : List Move :=
  [.dialed none, .waited, .dialed (some 1), .dumped (some [.blank]), .primed, .joined true,
    .received 1 (.batch []), .handedOn 1, .received 1 .failure, .woken, .waited,
    .dialed (some 2), .dumped (some []), .primed, .joined true, .received 2 (.batch [.blank])]

theorem exclusive_run_twice : ∃ l effects,
    (start (Node.schedule .standard)).run twice = some (l, effects) ∧ l.held = [2] ∧
      effects.filterMap Effect.closed? = [1] ∧ l.pending = [[.blank]] ∧
      effects.filterMap Effect.ingested? = [[.blank], [], []] ∧ Exclusive l twice effects :=
  ⟨_, _, rfl, rfl, rfl, rfl, rfl, exclusive_run .standard rfl⟩

end DpllWatch.Link
