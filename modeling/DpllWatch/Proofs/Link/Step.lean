import DpllWatch.Proofs.Redial

/-! What one move can do to a link. A link has at most one receiver, and when that has ended it leaves
at most one signal; in such a link `Transition` lists all that can happen. -/

namespace DpllWatch.Link

open Netlink (Device)

variable {l l' : Link} {move : Move} {effects : List Effect}

@[simp] def Signal.exit? : Signal → Option Nat
  | .receiverExited epoch => some epoch
  | .stop => none

def exits (l : Link) : List Nat := l.signals.filterMap Signal.exit?

def Phase.epoch? : Phase → Option Nat
  | .streaming epoch | .stopping (some epoch) | .dismissing epoch => some epoch
  | _ => none

def Phase.connection? : Phase → Option ConnectionId
  | .dumping c | .priming c _ | .joining c => some c
  | _ => none

inductive Fails (l : Link) : Move → Prop where
  | dialing : l.phase = .dialing → Fails l (.dialed none)
  | dumping {c : ConnectionId} : l.phase = .dumping c → Fails l (.dumped none)
  | joining {c : ConnectionId} : l.phase = .joining c → Fails l (.joined false)

/-- There is no receiver, or one that the link knows, or one that has ended and said so. Only a link
that is leaving has asked its receiver to end. -/
inductive Attended (l : Link) : Prop where
  | absent : l.receivers = [] → l.exits = [] → l.phase.epoch? = none → Attended l
  | alive (r : Receiver) : l.receivers = [r] → l.exits = [] → r.epoch = l.epoch →
      (l.phase.epoch? = some l.epoch ∧ r.stopAsked = false ∨
        l.phase = .leaving ∧ r.stopAsked = true) → Attended l
  | gone : l.receivers = [] → l.exits = [l.epoch] →
      (l.phase.epoch? = some l.epoch ∨ l.phase = .leaving ∨ l.phase = .stopped) → Attended l

structure Sound (l : Link) : Prop where
  attended : Attended l
  schedule : l.schedule.Unfailing

inductive Receiver.Ends (r : Receiver) : Move → Prop where
  | failure : r.holding = none → Ends r (.received r.epoch .failure)
  | silence : r.holding = none → r.stopAsked = true → Ends r (.received r.epoch .silence)
  | handedOn : r.holding.isSome = true → r.stopAsked = true → Ends r (.handedOn r.epoch)

/-- Everything that a move can do. -/
inductive Transition (l : Link) : Move → Link → List Effect → Prop where
  | failed {move : Move} (wait : Span) (schedule : Redial.Schedule) :
      Fails l move → schedule.Unfailing →
      Transition l move { l with phase := .redialing wait, schedule := schedule }
        ((l.phase.connection?.map .close).toList ++ [.wait wait])
  | dialed (c : ConnectionId) : l.phase = .dialing →
      Transition l (.dialed (some c)) { l with phase := .dumping c } []
  | dumped {c : ConnectionId} (devices : List Device) : l.phase = .dumping c →
      Transition l (.dumped (some devices)) { l with phase := .priming c devices } []
  | primed {c : ConnectionId} {devices : List Device} : l.phase = .priming c devices →
      Transition l .primed { l with phase := .joining c } [.ingest devices]
  | joined {c : ConnectionId} : l.phase = .joining c → l.receivers = [] →
      Transition l (.joined true) { l with
        phase := .streaming (l.epoch + 1), epoch := l.epoch + 1, schedule := l.schedule.reset,
        receivers := [⟨l.epoch + 1, c, none, false⟩] } []
  | received {r : Receiver} (devices : List Device) : l.receivers = [r] → r.holding = none →
      Transition l (.received r.epoch (.batch devices))
        { l with receivers := [{ r with holding := some devices }] } []
  | waits {r : Receiver} : l.receivers = [r] → r.holding = none → r.stopAsked = false →
      Transition l (.received r.epoch .silence) l []
  | handedOn {r : Receiver} {devices : List Device} : l.receivers = [r] →
      r.holding = some devices → r.stopAsked = false →
      Transition l (.handedOn r.epoch) { l with receivers := [{ r with holding := none }] }
        [.ingest devices]
  | ended {r : Receiver} {move : Move} : l.receivers = [r] → r.Ends move →
      Transition l move
        { l with receivers := [], signals := l.signals ++ [.receiverExited r.epoch] }
        ((r.holding.map .ingest).toList ++ [.close r.connection])
  | lost {rest : List Signal} (wait : Span) (schedule : Redial.Schedule) :
      l.phase = .streaming l.epoch → l.signals = .receiverExited l.epoch :: rest →
      schedule.Unfailing →
      Transition l .woken
        { l with phase := .redialing wait, signals := rest, schedule := schedule } [.wait wait]
  | stopped {rest : List Signal} : l.phase = .streaming l.epoch → l.signals = .stop :: rest →
      Transition l .woken { l with phase := .stopping (some l.epoch), signals := rest } []
  | calledOff {wait : Span} {rest : List Signal} : l.phase = .redialing wait →
      l.signals = .stop :: rest →
      Transition l .woken { l with phase := .stopping none, signals := rest } []
  | waited {wait : Span} : l.phase = .redialing wait → l.signals = [] →
      Transition l .waited { l with phase := .dialing } []
  | stopAsked : Transition l .stopAsked { l with signals := l.signals ++ [.stop] } []
  | tornDown : l.phase = .stopping none →
      Transition l .tornDown { l with phase := .leaving } [.teardown]
  | tornDownAttended : l.phase = .stopping (some l.epoch) →
      Transition l .tornDown { l with phase := .dismissing l.epoch } [.teardown]
  | dismissed : l.phase = .dismissing l.epoch →
      Transition l .dismissed { l with
        phase := .leaving, receivers := l.receivers.map ({ · with stopAsked := true }) } []
  | left : l.phase = .leaving → l.receivers = [] →
      Transition l .left { l with phase := .stopped } []

theorem Transition.of_step {l₁ : Link} {effects₁ : List Effect}
    (given : Transition l move l₁ effects₁) (made : l.step move = some (l₁, effects₁))
    (step : l.step move = some (l', effects)) : Transition l move l' effects := by
  rw [made, Option.some.injEq, Prod.mk.injEq] at step
  obtain ⟨rfl, rfl⟩ := step
  exact given

theorem redial_eq (h : l.schedule.Unfailing) : ∃ wait schedule, schedule.Unfailing ∧
    l.redial = ({ l with phase := .redialing wait, schedule := schedule }, [.wait wait]) := by
  obtain ⟨wait, rest, drawn, unfailing⟩ := h.draw
  refine ⟨wait, rest, unfailing, ?_⟩
  unfold Link.redial
  rw [drawn]

theorem Attended.epoch_eq (h : Attended l) {epoch : Nat} (concerned : l.phase.epoch? = some epoch) :
    epoch = l.epoch := by
  cases h with
  | absent _ _ none => simp [none] at concerned
  | alive r _ _ _ at_work =>
      rcases at_work with ⟨known, -⟩ | ⟨leaving, -⟩
      · simpa [known, eq_comm] using concerned
      · simp [leaving, Phase.epoch?] at concerned
  | gone _ _ known =>
      rcases known with known | leaving | stopped
      · simpa [known, eq_comm] using concerned
      · simp [leaving, Phase.epoch?] at concerned
      · simp [stopped, Phase.epoch?] at concerned

theorem Attended.idle (h : Attended l) (unconcerned : l.phase.epoch? = none)
    (staying : l.phase ≠ .leaving ∧ l.phase ≠ .stopped) : l.receivers = [] ∧ l.exits = [] := by
  cases h with
  | absent none silent => exact ⟨none, silent⟩
  | alive r _ _ _ at_work => simp [unconcerned, staying] at at_work
  | gone _ _ known => simp [unconcerned, staying] at known

theorem Attended.exit_seen (h : Attended l) {epoch : Nat} {rest : List Signal}
    (queued : l.signals = .receiverExited epoch :: rest) :
    epoch = l.epoch ∧ l.receivers = [] ∧ rest.filterMap Signal.exit? = [] := by
  have said : l.exits = epoch :: rest.filterMap Signal.exit? := by
    rw [exits, queued]
    rfl
  cases h with
  | absent _ silent => simp [silent] at said
  | alive _ _ silent => simp [silent] at said
  | gone none own =>
      obtain ⟨same, later⟩ := List.cons.inj (own.symm.trans said)
      exact ⟨same.symm, none, later.symm⟩

theorem Attended.receiver? (h : Attended l) {epoch : Nat} {r : Receiver}
    (found : l.receiver? epoch = some r) : l.receivers = [r] ∧ r.epoch = epoch := by
  have named : r.epoch = epoch := by simpa using List.find?_some found
  have member := List.mem_of_find?_eq_some found
  cases h with
  | absent none => simp [none] at member
  | alive only one => simp_all
  | gone none => simp [none] at member

theorem exit_eq {r r' : Receiver} (only : l.receivers = [r]) (same : r'.epoch = r.epoch) :
    l.exit r' =
      ({ l with receivers := [], signals := l.signals ++ [.receiverExited r.epoch] },
        [.close r'.connection]) := by
  simp [Link.exit, only, same]

theorem setReceiver_eq {r r' : Receiver} (only : l.receivers = [r]) (same : r'.epoch = r.epoch) :
    l.setReceiver r' = { l with receivers := [r'] } := by
  simp [setReceiver, only, same]

theorem askReceiver_eq (h : Attended l) : askReceiver { l with phase := .leaving } l.epoch =
    { l with phase := .leaving, receivers := l.receivers.map ({ · with stopAsked := true }) } := by
  cases h with
  | absent none => simp [askReceiver, none]
  | alive r only _ known => simp [askReceiver, only, known]
  | gone none => simp [askReceiver, none]

theorem Sound.failed (h : Sound l) (fails : Fails l move)
    (step : l.step move = some (l', effects)) : Transition l move l' effects := by
  obtain ⟨wait, schedule, unfailing, redial⟩ := redial_eq h.schedule
  refine (Transition.failed wait schedule fails unfailing).of_step ?_ step
  cases fails with
  | dialing phase => simp [Link.step, Phase.connection?, phase, redial]
  | dumping phase | joining phase => simp [Link.step, Phase.connection?, phase, redial, abandon]

theorem receive_transition {r : Receiver} (only : l.receivers = [r]) (free : r.holding = none)
    (arrival : Arrival) :
    Transition l (.received r.epoch arrival) (l.receive r arrival).1 (l.receive r arrival).2 := by
  cases arrival with
  | batch devices =>
      have taken : l.setReceiver { r with holding := some devices } = _ :=
        setReceiver_eq only rfl
      rw [receive, taken]
      exact .received devices only free
  | silence =>
      rw [receive, loop]
      split
      · rename_i asked
        have given := Transition.ended only (.silence free asked)
        rw [exit_eq only rfl]
        simpa [free] using given
      · rename_i unasked
        have same : l.setReceiver r = l := by rw [setReceiver_eq only rfl, ← only]
        rw [same]
        exact .waits only free (by simpa using unasked)
  | failure =>
      have given := Transition.ended only (.failure free)
      rw [receive, exit_eq only rfl]
      simpa [free] using given

theorem handOn_transition {r : Receiver} {devices : List Device} (only : l.receivers = [r])
    (held : r.holding = some devices) :
    Transition l (.handedOn r.epoch) (l.loop { r with holding := none }).1
      (.ingest devices :: (l.loop { r with holding := none }).2) := by
  rw [loop]
  split
  · rename_i asked
    have given := Transition.ended only (.handedOn (by simp [held]) asked)
    have quit : l.exit { r with holding := none } = _ := exit_eq only rfl
    rw [quit]
    simpa [held] using given
  · rename_i unasked
    have freed : l.setReceiver { r with holding := none } = _ := setReceiver_eq only rfl
    rw [freed]
    exact .handedOn only held (by simpa using unasked)

theorem Sound.woken (h : Sound l) (step : l.step .woken = some (l', effects)) :
    Transition l .woken l' effects := by
  cases queued : l.signals with
  | nil => simp [Link.step, queued] at step
  | cons signal rest =>
      cases phase : l.phase with
      | streaming epoch =>
          obtain rfl := h.attended.epoch_eq (by rw [phase]; rfl)
          cases signal with
          | stop =>
              exact (Transition.stopped phase queued).of_step
                (by simp [Link.step, queued, Link.take, phase]) step
          | receiverExited exited =>
              obtain ⟨rfl, -, -⟩ := h.attended.exit_seen queued
              obtain ⟨wait, schedule, unfailing, redial⟩ :=
                redial_eq (l := { l with signals := rest }) h.schedule
              exact (Transition.lost wait schedule phase queued unfailing).of_step
                (by simpa [Link.step, queued, Link.take, phase] using redial) step
      | redialing wait =>
          cases signal with
          | stop =>
              exact (Transition.calledOff phase queued).of_step
                (by simp [Link.step, queued, Link.take, phase]) step
          | receiverExited exited =>
              have silent := (h.attended.idle (by rw [phase]; rfl) (by simp [phase])).2
              simp [exits, queued, Signal.exit?] at silent
      | _ => simp [Link.step, queued, Link.take, phase] at step

theorem Sound.transition (h : Sound l) (step : l.step move = some (l', effects)) :
    Transition l move l' effects := by
  cases move with
  | dialed c =>
      cases phase : l.phase with
      | dialing =>
          cases c with
          | none => exact h.failed (.dialing phase) step
          | some c => exact (Transition.dialed c phase).of_step (by simp [Link.step, phase]) step
      | _ => cases c <;> simp [Link.step, phase] at step
  | dumped devices =>
      cases phase : l.phase with
      | dumping =>
          cases devices with
          | none => exact h.failed (.dumping phase) step
          | some devices =>
              exact (Transition.dumped devices phase).of_step (by simp [Link.step, phase]) step
      | _ => cases devices <;> simp [Link.step, phase] at step
  | primed =>
      cases phase : l.phase with
      | priming => exact (Transition.primed phase).of_step (by simp [Link.step, phase]) step
      | _ => simp [Link.step, phase] at step
  | joined ok =>
      cases phase : l.phase with
      | joining =>
          cases ok with
          | false => exact h.failed (.joining phase) step
          | true =>
              have none := (h.attended.idle (by rw [phase]; rfl) (by simp [phase])).1
              exact (Transition.joined phase none).of_step (by simp [Link.step, phase, none]) step
      | _ => cases ok <;> simp [Link.step, phase] at step
  | received epoch arrival =>
      simp only [Link.step] at step
      split at step
      · rename_i r found
        obtain ⟨only, rfl⟩ := h.attended.receiver? found
        split at step
        · nomatch step
        · rename_i free
          have given := receive_transition only (by simpa using free) arrival
          rw [Option.some.injEq] at step
          rwa [step] at given
      · nomatch step
  | handedOn epoch =>
      simp only [Link.step] at step
      split at step
      · rename_i r found
        obtain ⟨only, rfl⟩ := h.attended.receiver? found
        obtain ⟨devices, held, made⟩ := Option.map_eq_some_iff.1 step
        have given := handOn_transition only held
        rw [Prod.mk.injEq] at made
        rwa [made.1, made.2] at given
      · nomatch step
  | woken => exact h.woken step
  | waited =>
      cases phase : l.phase with
      | redialing =>
          cases queued : l.signals with
          | nil =>
              exact (Transition.waited phase queued).of_step (by simp [Link.step, phase, queued]) step
          | cons => simp [Link.step, phase, queued] at step
      | _ => simp [Link.step, phase] at step
  | stopAsked => exact Transition.stopAsked.of_step rfl step
  | tornDown =>
      cases phase : l.phase with
      | stopping epoch =>
          cases epoch with
          | none => exact (Transition.tornDown phase).of_step (by simp [Link.step, phase]) step
          | some epoch =>
              obtain rfl := h.attended.epoch_eq (by rw [phase]; rfl)
              exact (Transition.tornDownAttended phase).of_step
                (by simp [Link.step, phase]) step
      | _ => simp [Link.step, phase] at step
  | dismissed =>
      cases phase : l.phase with
      | dismissing epoch =>
          obtain rfl := h.attended.epoch_eq (by rw [phase]; rfl)
          exact (Transition.dismissed phase).of_step
            (by simp [Link.step, phase, askReceiver_eq h.attended]) step
      | _ => simp [Link.step, phase] at step
  | left =>
      cases phase : l.phase with
      | leaving =>
          cases none : l.receivers with
          | nil => exact (Transition.left phase none).of_step (by simp [Link.step, phase, none]) step
          | cons => simp [Link.step, phase, none] at step
      | _ => simp [Link.step, phase] at step

theorem exits_of_stop {rest : List Signal} (queued : l.signals = .stop :: rest) :
    rest.filterMap Signal.exit? = l.exits := by
  simp [exits, queued, List.filterMap_cons, Signal.exit?]

theorem Attended.of_receiver (h : Attended l) {r : Receiver} (only : l.receivers = [r]) :
    l.exits = [] ∧ r.epoch = l.epoch ∧
      (l.phase.epoch? = some l.epoch ∧ r.stopAsked = false ∨
        l.phase = .leaving ∧ r.stopAsked = true) := by
  cases h with
  | absent none => simp [none] at only
  | alive other other_only silent newest at_work =>
      obtain rfl : other = r := by simpa [only, eq_comm] using other_only
      exact ⟨silent, newest, at_work⟩
  | gone none => simp [none] at only

theorem Attended.keep (h : Attended l) (receivers : l'.receivers = l.receivers)
    (exits : l'.exits = l.exits) (epoch : l'.epoch = l.epoch)
    (phase : l'.phase = l.phase ∨
      l'.phase.epoch? = l.phase.epoch? ∧ l.phase ≠ .leaving ∧ l.phase ≠ .stopped) :
    Attended l' := by
  have same : l'.phase.epoch? = l.phase.epoch? := by
    rcases phase with phase | ⟨same, -⟩
    · rw [phase]
    · exact same
  cases h with
  | absent none silent unconcerned =>
      exact .absent (receivers ▸ none) (exits ▸ silent) (same ▸ unconcerned)
  | alive r only silent newest at_work =>
      refine .alive r (receivers ▸ only) (exits ▸ silent) (epoch ▸ newest) ?_
      rw [same, epoch]
      rcases at_work with at_work | ⟨leaving, asked⟩
      · exact .inl at_work
      · exact .inr ⟨by simpa [leaving] using phase, asked⟩
  | gone none said known =>
      refine .gone (receivers ▸ none) (by rw [exits, epoch, said]) ?_
      rw [same, epoch]
      rcases known with known | leaving | stopped
      · exact .inl known
      · exact .inr (.inl (by simpa [leaving] using phase))
      · exact .inr (.inr (by simpa [stopped] using phase))

theorem Transition.attended (t : Transition l move l' effects) (h : Attended l) :
    Attended l' := by
  cases t with
  | failed _ _ fails =>
      cases fails with
      | dialing phase | dumping phase | joining phase =>
          exact h.keep rfl rfl rfl (.inr (by simp [phase, Phase.epoch?]))
  | dialed _ phase | dumped _ phase | primed phase | waited phase | tornDown phase
  | tornDownAttended phase =>
      exact h.keep rfl rfl rfl (.inr (by simp [phase, Phase.epoch?]))
  | joined phase =>
      have silent := (h.idle (by rw [phase]; rfl) (by simp [phase])).2
      exact .alive _ rfl silent rfl (.inl ⟨rfl, rfl⟩)
  | waits => exact h
  | received _ only | handedOn only =>
      obtain ⟨silent, newest, at_work⟩ := h.of_receiver only
      exact .alive _ rfl silent newest at_work
  | ended only =>
      obtain ⟨silent, newest, at_work⟩ := h.of_receiver only
      refine .gone rfl ?_ ?_
      · rw [exits] at silent ⊢
        simp [silent, Signal.exit?, newest]
      · exact at_work.imp And.left fun leaving => .inl leaving.1
  | lost _ _ _ queued =>
      obtain ⟨-, none, silent⟩ := h.exit_seen queued
      exact .absent none silent rfl
  | stopped phase queued | calledOff phase queued =>
      exact h.keep rfl (exits_of_stop queued) rfl (.inr (by simp [phase, Phase.epoch?]))
  | stopAsked => exact h.keep rfl (by simp [exits, Signal.exit?]) rfl (.inl rfl)
  | dismissed phase =>
      cases h with
      | absent _ _ unconcerned => simp [phase, Phase.epoch?] at unconcerned
      | alive r only silent newest =>
          exact .alive { r with stopAsked := true } (by simp [only]) silent newest
            (.inr ⟨rfl, rfl⟩)
      | gone none said => exact .gone (by simp [none]) said (.inr (.inl rfl))
  | left phase none =>
      cases h with
      | absent _ silent => exact .absent none silent rfl
      | alive r only => simp [none] at only
      | gone _ said => exact .gone none said (.inr (.inr rfl))

theorem Transition.sound (t : Transition l move l' effects) (h : Sound l) : Sound l' := by
  refine ⟨t.attended h.attended, ?_⟩
  cases t with
  | failed _ _ _ unfailing => exact unfailing
  | joined => exact h.schedule.reset
  | lost _ _ _ _ unfailing => exact unfailing
  | _ => exact h.schedule

theorem sound_start (t : Timing) : Sound (start (Node.schedule t)) :=
  ⟨.absent rfl rfl rfl, Node.unfailing_schedule t⟩

theorem run_cons {rest : List Move} :
    l.run (move :: rest) = some (l', effects) ↔ ∃ next now later,
      l.step move = some (next, now) ∧ next.run rest = some (l', later) ∧ now ++ later = effects := by
  simp only [run, Option.bind_eq_bind, Option.bind_eq_some_iff, Prod.exists, Option.pure_def,
    Option.some.injEq, Prod.mk.injEq]
  constructor
  · rintro ⟨next, now, made, _, later, ran, rfl, rfl⟩
    exact ⟨next, now, later, made, ran, rfl⟩
  · rintro ⟨next, now, later, made, ran, rfl⟩
    exact ⟨next, now, made, l', later, ran, rfl, rfl⟩

theorem run_append {first rest : List Move} :
    l.run (first ++ rest) = some (l', effects) ↔ ∃ mid now later,
      l.run first = some (mid, now) ∧ mid.run rest = some (l', later) ∧ now ++ later = effects := by
  induction first generalizing l effects with
  | nil =>
      constructor
      · intro ran
        exact ⟨l, [], effects, rfl, ran, rfl⟩
      · rintro ⟨_, _, later, began, ran, rfl⟩
        cases began
        exact ran
  | cons move first ih =>
      rw [List.cons_append, run_cons]
      constructor
      · rintro ⟨next, now, later, made, ran, rfl⟩
        obtain ⟨mid, before, after, began, ended, rfl⟩ := ih.1 ran
        exact ⟨mid, now ++ before, after, run_cons.2 ⟨next, now, before, made, began, rfl⟩, ended,
          by simp⟩
      · rintro ⟨mid, _, after, began, ended, rfl⟩
        obtain ⟨next, now, before, made, ran, rfl⟩ := run_cons.1 began
        exact ⟨next, now, _, made, ih.2 ⟨mid, before, after, ran, ended, rfl⟩, by simp⟩

@[elab_as_elim]
theorem Sound.run_rec {P : Link → List Move → Link → List Effect → Prop} (h : Sound l)
    {moves : List Move} (ran : l.run moves = some (l', effects)) (still : ∀ l, P l [] l [])
    (one : ∀ {l move next now rest l' later}, Sound l → Transition l move next now →
      P next rest l' later → P l (move :: rest) l' (now ++ later)) : P l moves l' effects := by
  induction moves generalizing l effects with
  | nil =>
      cases ran
      exact still _
  | cons move rest ih =>
      obtain ⟨next, now, later, made, rest_ran, rfl⟩ := run_cons.1 ran
      have made := h.transition made
      exact one h made (ih (made.sound h) rest_ran)

theorem Sound.run (h : Sound l) {moves : List Move} (ran : l.run moves = some (l', effects)) :
    Sound l' := by
  have passed : Sound l → Sound l' := by
    refine h.run_rec ran (fun _ sound => sound) ?_
    intro _ _ _ _ _ _ _ _ made later sound
    exact later (made.sound sound)
  exact passed h

end DpllWatch.Link
