import DpllWatch.Proofs.Link.Custody
import Mathlib.Algebra.GroupWithZero.Nat

/-! What a stop leads to. From the moment a stop is asked for, each move of the link itself brings it
nearer to its end, and at the end monitoring is over, no receiver lives and no connection is open. -/

namespace DpllWatch.Link

open Netlink (Device)

variable {l l' : Link} {moves : List Move} {move : Move} {effects : List Effect}

/-- Whether the link makes the move. The other moves are those of receivers, and asking for a stop. -/
def Move.isOwn : Move → Bool
  | .received _ _ | .handedOn _ | .stopAsked => false
  | _ => true

def Move.isReceivers : Move → Bool
  | .received _ _ | .handedOn _ => true
  | _ => false

def Move.isDial : Move → Bool
  | .dialed _ => true
  | _ => false

/-- A bound on the moves that the link itself makes once it has been asked to stop. -/
def Phase.ahead : Phase → Nat
  | .dialing => 8
  | .dumping _ => 7
  | .priming _ _ => 6
  | .joining _ => 5
  | .streaming _ => 4
  | .redialing _ | .stopping (some _) => 3
  | .stopping none | .dismissing _ => 2
  | .leaving => 1
  | .stopped => 0

def Phase.closing : Phase → Bool
  | .stopping _ | .dismissing _ | .leaving | .stopped => true
  | _ => false

def Phase.torn : Phase → Bool
  | .dismissing _ | .leaving | .stopped => true
  | _ => false

def Receiver.ahead (r : Receiver) : Nat := if r.holding.isSome then 1 else 2

def Warned (l : Link) : Prop := .stop ∈ l.signals ∨ l.phase.closing = true

theorem Fails.working (fails : Fails l move) : l.phase.closing = false := by
  cases fails with
  | dialing phase | dumping phase | joining phase => rw [phase]; rfl

theorem Phase.torn_of_working {phase : Phase} (working : phase.closing = false) :
    phase.torn = false := by
  cases phase <;> first | rfl | nomatch working

theorem Transition.warned (t : Transition l move l' effects) (warned : l.Warned) : l'.Warned := by
  cases t with
  | failed _ _ fails => exact .inl (warned.resolve_right (by simp [fails.working]))
  | lost _ _ phase queued =>
      have asked := warned.resolve_right (by simp [phase, Phase.closing])
      exact .inl (by simpa [queued] using asked)
  | waited phase queued => simp [Warned, phase, queued, Phase.closing] at warned
  | dialed _ phase | dumped _ phase | primed phase | joined phase =>
      exact .inl (warned.resolve_right (by simp [phase, Phase.closing]))
  | received | waits | handedOn => exact warned
  | ended => exact warned.imp_left (List.mem_append_left _)
  | stopAsked => exact .inl (by simp)
  | stopped | calledOff | tornDown | tornDownAttended | dismissed | left => exact .inr rfl

theorem Transition.not_waited (t : Transition l .waited l' effects) : ¬ l.Warned := by
  cases t with
  | failed _ _ fails => nomatch fails
  | ended _ ends => nomatch ends
  | waited phase queued => simp [Warned, phase, queued, Phase.closing]

theorem Transition.ahead (t : Transition l move l' effects) (warned : l.Warned) :
    [move].countP Move.isOwn + l'.phase.ahead ≤ l.phase.ahead := by
  cases t with
  | failed _ _ fails =>
      cases fails with
      | dialing phase | dumping phase | joining phase => simp [Move.isOwn, Phase.ahead, phase]
  | ended _ ends => cases ends <;> simp [Move.isOwn]
  -- A wait runs out only while no signal is queued, so this is the one way back and it is shut.
  | waited phase queued => simp [Warned, phase, queued, Phase.closing] at warned
  | received | waits | handedOn | stopAsked => simp [Move.isOwn]
  | dialed _ phase | dumped _ phase | primed phase | joined phase | lost _ _ phase
  | stopped phase | calledOff phase | tornDown phase | tornDownAttended phase | dismissed phase
  | left phase => simp [Move.isOwn, Phase.ahead, phase]

theorem Transition.dials (t : Transition l move l' effects) (warned : l.Warned) :
    [move].countP Move.isDial + (if l'.phase = .dialing then 1 else 0) ≤
      if l.phase = .dialing then 1 else 0 := by
  cases t with
  | failed _ _ fails =>
      cases fails with
      | dialing phase | dumping phase | joining phase => simp [Move.isDial, phase]
  | ended _ ends => cases ends <;> simp [Move.isDial]
  | waited phase queued => simp [Warned, phase, queued, Phase.closing] at warned
  | dialed _ phase => simp [phase, Move.isDial]
  | _ => simp [Move.isDial]

theorem Transition.torn (t : Transition l move l' effects) :
    (if l.phase.torn then 1 else 0) + effects.count .teardown =
      if l'.phase.torn then 1 else 0 := by
  cases t with
  | failed _ _ fails =>
      cases fails with
      | dialing phase | dumping phase | joining phase =>
          simp [Phase.torn, Phase.connection?, phase]
  | @ended r => cases r.holding <;> simp
  | received | waits | handedOn | stopAsked => simp
  | dialed _ phase | dumped _ phase | primed phase | joined phase | lost _ _ phase
  | stopped phase | calledOff phase | waited phase | tornDown phase | tornDownAttended phase
  | dismissed phase | left phase => simp [Phase.torn, phase]

theorem Transition.unasked (t : Transition l move l' effects) (unasked : ¬ l.Warned)
    (other : move ≠ .stopAsked) : ¬ l'.Warned := by
  rw [Warned, not_or] at unasked ⊢
  obtain ⟨silent, working⟩ := unasked
  cases t with
  | failed => exact ⟨silent, by simp [Phase.closing]⟩
  | dialed | dumped | primed | joined | waited => exact ⟨silent, by simp [Phase.closing]⟩
  | received | waits | handedOn => exact ⟨silent, working⟩
  | ended => exact ⟨by simp [silent], working⟩
  | lost _ _ _ queued =>
      rw [queued] at silent
      exact ⟨fun later => silent (List.mem_cons_of_mem _ later), by simp [Phase.closing]⟩
  | stopped _ queued | calledOff _ queued => simp [queued] at silent
  | stopAsked => exact absurd rfl other
  | tornDown phase | tornDownAttended phase | dismissed phase | left phase =>
      simp [phase, Phase.closing] at working

theorem Transition.dismissed_leaving (t : Transition l .dismissed l' effects) :
    l'.phase = .leaving := by
  cases t with
  | failed _ _ fails => nomatch fails
  | ended _ ends => nomatch ends
  | dismissed => rfl

theorem Transition.parting (t : Transition l move l' effects) (h : Attended l)
    (parting : l.phase = .leaving ∨ l.phase = .stopped) :
    (l'.phase = .leaving ∨ l'.phase = .stopped) ∧
      [move].countP Move.isReceivers + (l'.receivers.map Receiver.ahead).sum ≤
        (l.receivers.map Receiver.ahead).sum := by
  have asked {r : Receiver} (only : l.receivers = [r]) : r.stopAsked = true := by
    obtain ⟨-, -, ⟨known, -⟩ | ⟨-, asked⟩⟩ := h.of_receiver only
    · rcases parting with leaving | stopped <;> simp_all [Phase.epoch?]
    · exact asked
  cases t with
  | failed _ _ fails =>
      have working := fails.working
      rcases parting with phase | phase <;> simp [phase, Phase.closing] at working
  | received _ only free =>
      refine ⟨parting, ?_⟩
      simp [only, Move.isReceivers, Receiver.ahead, free]
  | waits only _ unasked | handedOn only _ unasked => simp [asked only] at unasked
  | ended only ends =>
      refine ⟨parting, ?_⟩
      cases ends with
      | failure free | silence free => simp [only, Move.isReceivers, Receiver.ahead, free]
      | handedOn held => simp [only, Move.isReceivers, Receiver.ahead, held]
  | stopAsked => exact ⟨parting, by simp [Move.isReceivers]⟩
  | left _ none => exact ⟨.inr rfl, by simp [Move.isReceivers, none]⟩
  | dialed _ phase | dumped _ phase | primed phase | joined phase | lost _ _ phase
  | stopped phase | calledOff phase | waited phase | tornDown phase | tornDownAttended phase
  | dismissed phase => simp [phase] at parting

theorem Sound.closing_run (h : Sound l) (ran : l.run moves = some (l', effects)) :
    l.Warned → l'.Warned ∧ .waited ∉ moves ∧
      moves.countP Move.isOwn + l'.phase.ahead ≤ l.phase.ahead ∧
        moves.countP Move.isDial + (if l'.phase = .dialing then 1 else 0) ≤
          if l.phase = .dialing then 1 else 0 := by
  refine h.run_rec ran (fun l warned => by simp [warned]) ?_
  intro l move next now rest l' later sound made tail warned
  obtain ⟨still, no_wait, own, dials⟩ := tail (made.warned warned)
  have first_own := made.ahead warned
  have first_dials := made.dials warned
  have patient : move ≠ .waited := by
    rintro rfl
    exact made.not_waited warned
  rw [← List.singleton_append, List.countP_append, List.countP_append]
  exact ⟨still, by simp [patient.symm, no_wait], by omega, by omega⟩

theorem Sound.torn_run (h : Sound l) (ran : l.run moves = some (l', effects)) :
    (if l.phase.torn then 1 else 0) + effects.count .teardown =
      if l'.phase.torn then 1 else 0 := by
  refine h.run_rec ran (fun l => by simp) ?_
  intro l move next now rest l' later sound made tail
  rw [List.count_append, ← Nat.add_assoc, made.torn, tail]

theorem Sound.unasked_run (h : Sound l) (ran : l.run moves = some (l', effects)) :
    ¬ l.Warned → .stopAsked ∉ moves → ¬ l'.Warned := by
  refine h.run_rec ran (fun l unasked _ => unasked) ?_
  intro l move next now rest l' later sound made tail unasked others
  rw [List.mem_cons, not_or] at others
  exact tail (made.unasked unasked (Ne.symm others.1)) others.2

theorem Sound.parting_run (h : Sound l) (ran : l.run moves = some (l', effects)) :
    l.phase = .leaving ∨ l.phase = .stopped →
      moves.countP Move.isReceivers ≤ (l.receivers.map Receiver.ahead).sum := by
  refine h.run_rec ran (fun l _ => by simp) ?_
  intro l move next now rest l' later sound made tail parting
  obtain ⟨still, first⟩ := made.parting sound.attended parting
  have after := tail still
  rw [← List.singleton_append, List.countP_append]
  omega

theorem Sound.ahead_receivers (h : Sound l) : (l.receivers.map Receiver.ahead).sum ≤ 2 := by
  cases h.attended with
  | absent none | gone none => simp [none]
  | alive r only =>
      rw [only, List.map_singleton, List.sum_singleton, Receiver.ahead]
      split <;> omega

theorem Sound.parting_after (h : Sound l) {first rest : List Move}
    (ran : l.run (first ++ .dismissed :: rest) = some (l', effects)) :
    rest.countP Move.isReceivers ≤ 2 := by
  obtain ⟨mid, _, _, began, ran, -⟩ := run_append.1 ran
  obtain ⟨next, _, _, made, ran, -⟩ := run_cons.1 ran
  have sound := h.run began
  have made := sound.transition made
  have next_sound := made.sound sound
  exact Nat.le_trans (next_sound.parting_run ran (.inl made.dismissed_leaving))
    next_sound.ahead_receivers

/-- The moves of its own that a link makes next, with every answer that the kernel can give. -/
inductive Awaits (l : Link) : Move → Prop where
  | dialed (connection : Option ConnectionId) : l.phase = .dialing → Awaits l (.dialed connection)
  | dumped {c : ConnectionId} (devices : Option (List Device)) : l.phase = .dumping c →
      Awaits l (.dumped devices)
  | primed {c : ConnectionId} {devices : List Device} : l.phase = .priming c devices →
      Awaits l .primed
  | joined {c : ConnectionId} (ok : Bool) : l.phase = .joining c → Awaits l (.joined ok)
  | streaming {epoch : Nat} : l.phase = .streaming epoch → Awaits l .woken
  | redialing {wait : Span} : l.phase = .redialing wait → Awaits l .woken
  | tornDown {epoch : Option Nat} : l.phase = .stopping epoch → Awaits l .tornDown
  | dismissed {epoch : Nat} : l.phase = .dismissing epoch → Awaits l .dismissed
  | left : l.phase = .leaving → Awaits l .left

/-- A link that is not stuck: it has stopped, or can go on whatever the kernel answers, or waits for
a receiver that has been asked to end and can go on whatever comes in. -/
inductive Proceeds (l : Link) : Prop where
  | done : l.phase = .stopped → Proceeds l
  | own : (∃ move, l.Awaits move) → (∀ move, l.Awaits move → (l.step move).isSome = true) →
      Proceeds l
  | receiver (r : Receiver) : l.phase = .leaving → l.receivers = [r] → r.stopAsked = true →
      (r.holding = none → ∀ arrival, (l.step (.received r.epoch arrival)).isSome = true) →
      (r.holding.isSome = true → (l.step (.handedOn r.epoch)).isSome = true) → Proceeds l

theorem Warned.woken (warned : l.Warned)
    (listening : (∃ epoch, l.phase = .streaming epoch) ∨ ∃ wait, l.phase = .redialing wait) :
    (l.step .woken).isSome = true := by
  have asked : .stop ∈ l.signals := by
    refine warned.resolve_right ?_
    rcases listening with ⟨_, phase⟩ | ⟨_, phase⟩ <;> simp [phase, Phase.closing]
  obtain ⟨signal, rest, queued⟩ := List.exists_cons_of_ne_nil (List.ne_nil_of_mem asked)
  rcases listening with ⟨_, phase⟩ | ⟨_, phase⟩ <;> cases signal <;>
    simp [Link.step, queued, Link.take, phase]

theorem Warned.able (warned : l.Warned) (awaits : l.Awaits move)
    (alone : l.phase = .leaving → l.receivers = []) : (l.step move).isSome = true := by
  cases awaits with
  | dialed connection phase => cases connection <;> simp [Link.step, phase]
  | dumped devices phase => cases devices <;> simp [Link.step, phase]
  | joined ok phase => cases ok <;> simp [Link.step, phase]
  | streaming phase => exact warned.woken (.inl ⟨_, phase⟩)
  | redialing phase => exact warned.woken (.inr ⟨_, phase⟩)
  | @tornDown epoch phase => cases epoch <;> simp [Link.step, phase]
  | left phase => simp [Link.step, phase, alone phase]
  | primed phase | dismissed phase => simp [Link.step, phase]

theorem exists_awaits (going : l.phase ≠ .stopped) : ∃ move, l.Awaits move := by
  cases phase : l.phase with
  | dialing => exact ⟨_, .dialed none phase⟩
  | dumping => exact ⟨_, .dumped none phase⟩
  | priming => exact ⟨_, .primed phase⟩
  | joining => exact ⟨_, .joined true phase⟩
  | streaming => exact ⟨_, .streaming phase⟩
  | redialing => exact ⟨_, .redialing phase⟩
  | stopping => exact ⟨_, .tornDown phase⟩
  | dismissing => exact ⟨_, .dismissed phase⟩
  | leaving => exact ⟨_, .left phase⟩
  | stopped => exact absurd phase going

theorem Sound.proceeds (h : Sound l) (warned : l.Warned) : l.Proceeds := by
  by_cases stopped : l.phase = .stopped
  · exact .done stopped
  by_cases alone : l.phase = .leaving → l.receivers = []
  · exact .own (exists_awaits stopped) fun move awaits => warned.able awaits alone
  · rw [Classical.not_imp] at alone
    obtain ⟨leaving, attended⟩ := alone
    cases h.attended with
    | absent none | gone none => exact absurd none attended
    | alive r only _ _ at_work =>
        have asked := (at_work.resolve_left (by simp [leaving, Phase.epoch?])).2
        have found : l.receiver? r.epoch = some r := by simp [receiver?, only]
        refine .receiver r leaving only asked (fun free arrival => ?_) fun held => ?_
        · simp [Link.step, found, free]
        · simp [Link.step, found, held]

theorem Attended.stopped (h : Attended l) (stopped : l.phase = .stopped) : l.receivers = [] := by
  cases h with
  | absent none | gone none => exact none
  | alive _ _ _ _ at_work => simp [stopped, Phase.epoch?] at at_work

theorem Attended.asked (h : Attended l) {r : Receiver} (alive : r ∈ l.receivers)
    (asked : r.stopAsked = true) : l.phase = .leaving := by
  cases h with
  | absent none | gone none => simp [none] at alive
  | alive other only _ _ at_work =>
      obtain rfl : r = other := by simpa [only] using alive
      exact (at_work.resolve_left (by simp [asked])).1

/-- How a link that got to `l` by the moves `before`, with the effects `past`, goes on to `l'` once it
has been asked to stop there. -/
structure Heeded (before later : List Move) (past effects : List Effect) (l l' : Link) : Prop where
  /-- Unless it was asked before, monitoring went on and no receiver was asked to end. -/
  unasked : .stopAsked ∉ before → .teardown ∉ past ∧ ∀ r ∈ l.receivers, r.stopAsked = false
  /-- No dial ends but the one that was under way, and no other is begun. -/
  dials : later.countP Move.isDial + (if l'.phase = .dialing then 1 else 0) ≤
    if l.phase = .dialing then 1 else 0
  no_wait : .waited ∉ later
  /-- Each move of its own brings the link nearer to its end. -/
  nearer : later.countP Move.isOwn + l'.phase.ahead ≤ l.phase.ahead
  proceeds : l'.Proceeds
  /-- Monitoring is ended once, and before a receiver is asked to end. -/
  teardown : (past ++ effects).count .teardown = if l'.phase.torn then 1 else 0
  asked : ∀ r ∈ l'.receivers, r.stopAsked = true → .teardown ∈ past ++ effects
  parting : ∀ first rest, later = first ++ .dismissed :: rest → rest.countP Move.isReceivers ≤ 2
  stopped : l'.phase = .stopped → (past ++ effects).count .teardown = 1 ∧ l'.receivers = [] ∧
    l'.held = [] ∧ (before ++ .stopAsked :: later).filterMap Move.opened? =
      (past ++ effects).filterMap Effect.closed?

theorem heeded_stop (t : Timing) {before later : List Move} {past : List Effect}
    (reached : (start (Node.schedule t)).run before = some (l, past))
    (ran : l.run (.stopAsked :: later) = some (l', effects)) :
    Heeded before later past effects l l' := by
  have began := sound_start t
  have sound := began.run reached
  have whole : (start (Node.schedule t)).run (before ++ .stopAsked :: later) =
      some (l', past ++ effects) := run_append.2 ⟨l, past, effects, reached, ran, rfl⟩
  have ended := began.run whole
  obtain ⟨asked, now, rest, made, closing, rfl⟩ := run_cons.1 ran
  obtain ⟨rfl, rfl⟩ : { l with signals := l.signals ++ [.stop] } = asked ∧ [] = now := by
    simpa [Link.step] using made
  have asked_sound := (sound.transition made).sound sound
  obtain ⟨warned, no_wait, nearer, dials⟩ := asked_sound.closing_run closing (.inl (by simp))
  have teardown : (past ++ ([] ++ rest)).count Effect.teardown = if l'.phase.torn then 1 else 0 := by
    simpa [start, Phase.torn] using began.torn_run whole
  constructor
  case unasked =>
    intro others
    have unwarned := began.unasked_run reached (by simp [Warned, start, Phase.closing]) others
    have working : l.phase.closing = false := by simpa using (not_or.1 unwarned).2
    have untorn := began.torn_run reached
    rw [Phase.torn_of_working working] at untorn
    refine ⟨List.count_eq_zero.1 (by simpa [start, Phase.torn] using untorn), ?_⟩
    refine fun r alive => Bool.eq_false_iff.2 fun asked => ?_
    have leaving := sound.attended.asked alive asked
    simp [leaving, Phase.closing] at working
  case dials => exact dials
  case no_wait => exact no_wait
  case nearer => exact nearer
  case proceeds => exact ended.proceeds warned
  case teardown => exact teardown
  case asked =>
    intro r alive asked
    rw [ended.attended.asked alive asked] at teardown
    exact List.count_pos_iff.1 (by rw [teardown]; decide)
  case parting =>
    rintro first rest rfl
    exact asked_sound.parting_after closing
  case stopped =>
    intro stopped
    have none := ended.attended.stopped stopped
    have nothing : l'.held = [] := by simp [held, stopped, none, Phase.connection?]
    refine ⟨by rw [teardown, stopped]; rfl, none, nothing, ?_⟩
    have passed := began.account Transition.connections whole
    rw [nothing, List.append_nil] at passed
    exact passed

theorem heeded_stop_joining : ∃ l past l' effects,
    (start (Node.schedule .standard)).run [.dialed (some 1), .dumped (some []), .primed] =
        some (l, past) ∧
      l.run (.stopAsked :: [.joined true, .received 1 (.batch [.blank]), .woken, .tornDown, .dismissed,
        .handedOn 1, .left]) = some (l', effects) ∧
      l'.phase = .stopped ∧ effects = [.teardown, .ingest [.blank], .close 1] ∧
      Heeded [.dialed (some 1), .dumped (some []), .primed]
        [.joined true, .received 1 (.batch [.blank]), .woken, .tornDown, .dismissed, .handedOn 1,
          .left] past effects l l' :=
  ⟨_, _, _, _, rfl, rfl, rfl, rfl, heeded_stop .standard rfl rfl⟩

end DpllWatch.Link
