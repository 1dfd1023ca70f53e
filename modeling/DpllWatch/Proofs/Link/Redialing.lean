import DpllWatch.Proofs.Link.Custody

/-! How long a link waits before it dials again: twice as long as the time before, up to the cap,
and as long as at first once it has been connected. -/

namespace DpllWatch.Link

open Redial (Schedule)
open Redial.Schedule (Paced)

variable {l l' : Link} {moves : List Move} {move : Move} {effects : List Effect}
  {base longest n : Nat}

def Move.recount (move : Move) (effects : List Effect) (n : Nat) : Nat :=
  if move = .joined true then 0 else n + effects.countP Effect.isWait

/-- The number of waits since the link was last connected, where there were `n` before the moves. -/
def waits (n : Nat) (l : Link) : List Move → Nat
  | [] => n
  | move :: rest =>
    match l.step move with
    | none => n
    | some (l, effects) => waits (move.recount effects n) l rest

/-- What a move has to do with the schedule: nothing, or it begins a wait that is drawn from it, or
it makes the connection and resets it. -/
inductive Turn (l : Link) (move : Move) (l' : Link) (effects : List Effect) : Prop where
  | quiet : move ≠ .joined true → l'.schedule = l.schedule →
      effects.filter Effect.isWait = [] → Turn l move l' effects
  | redials (wait : Span) : move ≠ .joined true → l.schedule.draw = (some wait, l'.schedule) →
      effects.filter Effect.isWait = [.wait wait] → Turn l move l' effects
  | connects : move = .joined true → l'.schedule = l.schedule.reset → effects = [] →
      Turn l move l' effects

theorem redial_eq_of_draw {wait : Span} {rest : Schedule}
    (drawn : l.schedule.draw = (some wait, rest)) :
    l.redial = ({ l with phase := .redialing wait, schedule := rest }, [.wait wait]) := by
  unfold Link.redial
  rw [drawn]

theorem Sound.turn (h : Sound l) (step : l.step move = some (l', effects)) :
    Turn l move l' effects := by
  obtain ⟨wait, rest, drawn, -⟩ := h.schedule.draw
  cases h.transition step with
  | failed _ _ fails =>
      have redial := redial_eq_of_draw drawn
      cases fails with
      | dialing phase | dumping phase | joining phase =>
          simp only [Link.step, phase, abandon, redial, Option.some.injEq, Prod.mk.injEq,
            mk.injEq, Phase.redialing.injEq, true_and, and_true] at step
          obtain ⟨⟨rfl, rfl⟩, -⟩ := step
          refine .redials wait (by simp) drawn ?_
          rw [phase]
          rfl
  | @lost signals _ _ phase queued =>
      have redial := redial_eq_of_draw (l := { l with signals := signals }) drawn
      simp only [phase] at redial
      simp only [Link.step, queued, Link.take, phase, if_true, redial, Option.some.injEq,
        Prod.mk.injEq, mk.injEq, Phase.redialing.injEq, true_and, and_true] at step
      obtain ⟨⟨rfl, rfl⟩, -⟩ := step
      exact .redials wait (by simp) drawn rfl
  | joined => exact .connects rfl rfl rfl
  | @ended r _ _ ends =>
      refine .quiet ?_ rfl ?_
      · cases ends <;> simp
      · cases r.holding <;> rfl
  | _ => exact .quiet (by simp) rfl rfl

theorem Turn.paced (t : Turn l move l' effects) (h : Paced base longest n l.schedule) :
    Paced base longest (move.recount effects n) l'.schedule ∧
      ∀ wait, .wait wait ∈ effects → wait.nanos = min (base * 2 ^ n) longest := by
  have isWait (wait : Span) : .wait wait ∈ effects ↔ .wait wait ∈ effects.filter Effect.isWait := by
    simp [List.mem_filter]
  cases t with
  | quiet other same none =>
      rw [Move.recount, if_neg other, List.countP_eq_length_filter, none, same]
      refine ⟨h, fun wait member => ?_⟩
      rw [isWait, none] at member
      nomatch member
  | redials wait other drawn one =>
      obtain ⟨_, _, drawn', wait_eq, paced⟩ := h.draw
      obtain ⟨same, rfl⟩ := Prod.mk.inj (drawn.symm.trans drawn')
      obtain rfl := Option.some.inj same
      rw [Move.recount, if_neg other, List.countP_eq_length_filter, one]
      refine ⟨paced, fun wait' member => ?_⟩
      rw [isWait, one, List.mem_singleton, Effect.wait.injEq] at member
      rw [member, wait_eq]
  | connects joined reset none =>
      rw [Move.recount, if_pos joined, reset, none]
      exact ⟨h.reset, nofun⟩

theorem Sound.paced_run (h : Sound l) (paced : Paced base longest n l.schedule)
    (ran : l.run moves = some (l', effects)) :
    Paced base longest (waits n l moves) l'.schedule := by
  induction moves generalizing l effects n with
  | nil =>
      cases ran
      exact paced
  | cons move rest ih =>
      obtain ⟨next, now, later, made, rest_ran, -⟩ := run_cons.1 ran
      rw [waits, made]
      exact ih ((h.transition made).sound h) ((h.turn made).paced paced).1 rest_ran

/-- If twice the longer of the base and the cap is still a span, the waits double from the base up
to that one, whatever the owner does. So do those that a link begins, counted from when it was last
connected. Spans of milliseconds are always that short. -/
theorem waits_double {base cap : Span} (short : (base.max cap).double?.isSome) :
    let schedule := Schedule.doubling base cap
    let longest := max base.nanos cap.nanos
    (∀ calls, ∃ wait next, (schedule.after calls).draw.1 = some wait ∧
      (schedule.after (calls ++ [.draw])).draw.1 = some next ∧
      wait.nanos = min (base.nanos * 2 ^ Schedule.drawn calls) longest ∧
      wait.nanos ≤ next.nanos ∧ next.nanos ≤ longest) ∧
    (∀ moves l effects, (start schedule).run moves = some (l, effects) →
      (∃ wait, l.schedule.draw.1 = some wait) ∧
      ∀ move l' now wait, l.step move = some (l', now) → .wait wait ∈ now →
        wait.nanos = min (base.nanos * 2 ^ waits 0 (start schedule) moves) longest) ∧
    ∀ t : Timing, (t.redialSpan.max t.redialMaxSpan).double?.isSome := by
  intro schedule longest
  have new : Paced base.nanos longest 0 schedule := Schedule.paced_doubling short
  refine ⟨fun calls => ?_, fun moves l effects ran => ?_, fun t => ?_⟩
  · have paced := new.after calls
    obtain ⟨wait, rest, drawn, wait_eq, paced⟩ := paced.draw
    obtain ⟨next, _, drawn', next_eq, -⟩ := paced.draw
    have following : schedule.after (calls ++ [.draw]) = rest := by
      rw [Schedule.after, List.foldl_append, List.foldl_cons, List.foldl_nil, ← Schedule.after,
        Schedule.act, drawn]
    refine ⟨wait, next, by rw [drawn], by rw [following, drawn'], wait_eq, ?_, ?_⟩
    · have grows := Nat.mul_le_mul_left base.nanos
        (Nat.pow_le_pow_right Nat.two_pos (Nat.le_succ (calls.foldl Schedule.Call.count 0)))
      rw [wait_eq, next_eq]
      exact Nat.le_min.2 ⟨Nat.le_trans (Nat.min_le_left _ _) grows, Nat.min_le_right _ _⟩
    · rw [next_eq]
      exact Nat.min_le_right _ _
  · have began : Sound (start schedule) := ⟨.absent rfl rfl rfl, new.unfailing⟩
    have paced := began.paced_run new ran
    refine ⟨?_, fun move l' now wait made member => ?_⟩
    · obtain ⟨wait, _, drawn, -⟩ := paced.draw
      exact ⟨wait, by rw [drawn]⟩
    · exact (((began.run ran).turn made).paced paced).2 wait member
  · rw [Span.isSome_double?_iff, Span.nanos_max]
    have base := Span.double_ofMillis_lt t.redialDelay
    have cap := Span.double_ofMillis_lt (max t.redialMaxDelay t.redialDelay)
    unfold Timing.redialSpan Timing.redialMaxSpan
    omega

private def flaky : List Move :=
  [.dialed none, .waited, .dialed none, .waited, .dialed (some 1), .dumped (some []), .primed,
    .joined true, .received 1 .failure, .woken, .waited, .dialed none, .waited]

theorem waits_double_flaky :
    let base := Span.ofMillis 100
    let cap := Span.ofMillis 300
    let l := start (.doubling base cap)
    (base.max cap).double?.isSome ∧ waits 0 l flaky = 2 ∧ ∃ l' effects l'' wait,
      l.run flaky = some (l', effects) ∧ l'.step (.dialed none) = some (l'', [.wait wait]) ∧
        wait = cap := by
  have short : ((Span.ofMillis 100).max (.ofMillis 300)).double?.isSome := rfl
  obtain ⟨-, link, -⟩ := waits_double short
  have ran : (start (.doubling (.ofMillis 100) (.ofMillis 300))).run flaky = some (_, _) := rfl
  have wait_eq := (link flaky _ _ ran).2 (.dialed none) _ _ _ rfl List.mem_cons_self
  refine ⟨short, rfl, _, _, _, _, ran, rfl, Span.ext (wait_eq.trans ?_)⟩
  decide +kernel

end DpllWatch.Link
