import DpllWatch.Proofs.Node.Acting
import DpllWatch.Proofs.Node.Publishing

/-! Operations on a node and the runs that they make up. Each of them is to a member what its own
part of it is to the member's seat, unless somebody fails: a member that fails while everybody is
told something ends the delivery for those who come after it. -/

namespace DpllWatch

/-- Whether what a delivery asks of a member comes down halfway: no worker can be named after the
interface, or no window is in force for the decision. -/
def Act.fails (m : Monitor) (worker : Option Worker) : Act → Bool
  | launch =>
    !m.stopping && worker.isNone && m.backend != .absent && !Node.canName m.settings.interface
  | notify source state => m.hears (.notify source state) && m.window?.isNone
  | _ => false

inductive Op where
  | publish (source : Source) (state : SyncState)
  | startAll
  | clear
  | act (member : Nat) (a : Act)

/-- What is left of an operation when member `i` is the only one. -/
def Op.alone? (i : Nat) : Op → Option Op
  | act j a => if j = i then some (.act 0 a) else none
  | op => some op

theorem Op.filterMap_alone? (i : Nat) (ops : List Op) :
    (ops.filterMap (alone? i)).filterMap (alone? 0) = ops.filterMap (alone? i) := by
  rw [List.filterMap_filterMap]
  congr
  funext op
  cases op with
  | act j a =>
      rw [alone?]
      split <;> rfl
  | publish | startAll | clear => rfl

namespace Seat

variable {m : Monitor}

def fails (s : Seat m) (a : Act) : Bool := a.fails s.monitor s.worker

def passes (s : Seat m) (react : Duty → Option Act) : Subscriptions Duty → Bool
  | [] => true
  | t :: rest => !(react t.target).any s.fails && (s.heed (react t.target)).passes react rest

def perform (s : Seat m) : Op → Seat m
  | .publish source state =>
    s.deliver (Duty.onPublish source state) (s.registrations.matching source)
  | .startAll => s.deliver Duty.onStart (s.registrations.matching .monitoring)
  | .clear => s.enroll []
  | .act _ a => s.act a

def permits (s : Seat m) : Op → Bool
  | .publish source state =>
    s.passes (Duty.onPublish source state) (s.registrations.matching source)
  | .startAll => s.passes Duty.onStart (s.registrations.matching .monitoring)
  | .clear | .act .. => true

def permitsAll (s : Seat m) : List Op → Bool
  | [] => true
  | op :: rest => s.permits op && (s.perform op).permitsAll rest

theorem monitor_settings (s : Seat m) : s.monitor.settings = m.settings := by
  rw [monitor]
  induction s.taken using List.reverseRecOn with
  | nil => rfl
  | append_singleton inputs input ih =>
      rw [Monitor.run_append]
      exact (Monitor.step_settings _ input).trans ih

section

variable (nameable : Node.canName m.settings.interface = true)
  (window : m.settings.window?.isSome = true)

include nameable window

theorem fails_of_sound (s : Seat m) (a : Act) : s.fails a = false := by
  rw [← s.monitor_settings] at nameable window
  cases a with
  | launch => simp [fails, Act.fails, nameable]
  | notify source state =>
      have inForce : s.monitor.window?.isSome = true := by
        rw [Monitor.window?]
        split
        · rfl
        · exact window
      simp [fails, Act.fails, inForce]
  | _ => rfl

theorem passes_of_sound (s : Seat m) (react : Duty → Option Act) (targets : Subscriptions Duty) :
    s.passes react targets = true := by
  induction targets generalizing s with
  | nil => rfl
  | cons t rest ih =>
      have calm : (react t.target).any s.fails = false := by
        cases react t.target with
        | none => rfl
        | some a => exact s.fails_of_sound nameable window a
      rw [passes, calm]
      exact ih _

theorem permitsAll_of_sound (s : Seat m) (ops : List Op) : s.permitsAll ops = true := by
  induction ops generalizing s with
  | nil => rfl
  | cons op rest ih =>
      have first : s.permits op = true := by
        cases op with
        | publish | startAll => exact s.passes_of_sound nameable window _ _
        | clear | act => rfl
      rw [permitsAll, first]
      exact ih _

end

end Seat

namespace Node

variable {σ : Type} {n : Node σ} {i queue : Nat} {m : Monitor}
  {initial : Option (EventQueue Report)} {s : Seat m}

def fails (n : Node σ) (i : Nat) (a : Act) : Bool :=
  (n.living? i).any fun member => a.fails member.monitor member.worker

/-- Each of some subscribers acts in turn, until one of them fails; answers whether none did. -/
def attempt (n : Node σ) (react : Duty → Option Act) : Subscriptions Role → Bool × Node σ
  | [] => (true, n)
  | t :: rest =>
    let asked := react t.target.duty
    let next := n.heed t.target.member asked
    if asked.any (n.fails t.target.member) then (false, next) else next.attempt react rest

def broadcast (n : Node σ) (topic : Source) (react : Duty → Option Act) : Bool × Node σ :=
  n.attempt react (n.subscriptions.matching topic)

/-- Answers whether the operation was carried out to its end. What one member does alone, whether it
fails or not, is over with it. -/
def perform (n : Node σ) : Op → Bool × Node σ
  | .publish source state => n.broadcast source (Duty.onPublish source state)
  | .startAll => n.broadcast .monitoring Duty.onStart
  | .clear => (true, { n with subscriptions := [] })
  | .act i a => (true, n.act i a)

def performAll (n : Node σ) : List Op → Bool × Node σ
  | [] => (true, n)
  | op :: rest =>
    let (done, n) := n.perform op
    let (later, n) := n.performAll rest
    (done && later, n)

theorem performAll_cons (n : Node σ) (op : Op) (rest : List Op) : n.performAll (op :: rest) =
    ((n.perform op).1 && ((n.perform op).2.performAll rest).1,
      ((n.perform op).2.performAll rest).2) := rfl

theorem Acted.performAll {n' : Node σ} (h : n.Acted i n') : ∃ (acts : List Act) (kernel : σ),
    (n.performAll (acts.map (.act i))).1 = true ∧
      n' = (n.performAll (acts.map (.act i))).2.withKernel kernel := by
  obtain ⟨acts, kernel, rfl⟩ := h
  have run : n.performAll (acts.map (.act i)) = (true, n.actAll i acts) := by
    induction acts generalizing n with
    | nil => rfl
    | cons a rest ih =>
        rw [List.map_cons, performAll_cons, perform, ih]
        rfl
  exact ⟨acts, kernel, by rw [run], by rw [run]⟩

theorem attempt_eq_deliver (n : Node σ) (react : Duty → Option Act)
    (targets : Subscriptions Role) : ∃ reached,
      (n.attempt react targets).2 = n.deliver react reached ∧
        ((n.attempt react targets).1 = true → reached = targets) := by
  induction targets generalizing n with
  | nil => exact ⟨[], rfl, fun _ => rfl⟩
  | cons t rest ih =>
      rw [attempt]
      split
      · exact ⟨[t], rfl, fun done => Bool.noConfusion done⟩
      · obtain ⟨reached, same, all⟩ := ih (n.heed t.target.member (react t.target.duty))
        exact ⟨t :: reached, same, fun done => congrArg (t :: ·) (all done)⟩

theorem attempt_of_done {react : Duty → Option Act} {targets : Subscriptions Role}
    (done : (n.attempt react targets).1 = true) :
    (n.attempt react targets).2 = n.deliver react targets := by
  obtain ⟨reached, same, all⟩ := n.attempt_eq_deliver react targets
  rw [same, all done]

theorem publish_eq_perform {source : Source} {state : SyncState}
    (done : (n.perform (.publish source state)).1 = true) :
    (n.perform (.publish source state)).2 = (n.publish source state).2 := by
  rw [publish_eq_deliver]
  exact attempt_of_done done

theorem perform_keeps (named : n.Named) (op : Op) :
    (n.perform op).2.roster = n.roster ∧ (n.perform op).2.Named := by
  have broadcast_keeps {react : Duty → Option Act} (confined : Confines σ react) (topic : Source) :
      (n.broadcast topic react).2.roster = n.roster ∧ (n.broadcast topic react).2.Named := by
    obtain ⟨reached, same, _⟩ := n.attempt_eq_deliver react (n.subscriptions.matching topic)
    have kept := deliver_keeps confined n reached
    rw [broadcast, same]
    exact ⟨kept.1, kept.2 named⟩
  cases op with
  | publish source state => exact broadcast_keeps (confines_onPublish source state) source
  | startAll => exact broadcast_keeps confines_onStart .monitoring
  | clear => exact ⟨rfl, named.names, fun _ member => absurd member List.not_mem_nil⟩
  | act j a =>
      have confined := Confined.act named j a
      exact ⟨confined.roster, confined.named named⟩

theorem performAll_roster (named : n.Named) (ops : List Op) :
    (n.performAll ops).2.roster = n.roster := by
  induction ops generalizing n with
  | nil => rfl
  | cons op rest ih =>
      have kept := perform_keeps named op
      exact (ih kept.2).trans kept.1

namespace Seats

theorem fails (h : n.Seats i queue initial s) (a : Act) : n.fails i a = s.fails a := by
  rw [Node.fails, h.living?]
  rfl

theorem any_fails (h : n.Seats i queue initial s) (asked : Option Act) :
    asked.any (n.fails i) = asked.any s.fails := by
  cases asked with
  | none => rfl
  | some a => exact h.fails a

theorem passes (h : n.Seats i queue initial s) {react : Duty → Option Act}
    (confined : Confines σ react) {targets : Subscriptions Role}
    (done : (n.attempt react targets).1 = true) : s.passes react (targets.ofMember i) = true := by
  induction targets generalizing n s with
  | nil => rfl
  | cons t rest ih =>
      rw [attempt] at done
      split at done
      · cases done
      rename_i passed
      rw [Subscriptions.ofMember_cons]
      split
      · next own =>
        subst own
        rw [h.any_fails, Bool.not_eq_true] at passed
        rw [Seat.passes, passed]
        exact ih (h.heed (react t.target.duty)) done
      · next other =>
        exact ih ((confined.heed n t.target.member t.target.duty).seats (Ne.symm other) h) done

theorem perform (named : n.Named) (h : n.Seats i queue initial s) {op : Op}
    (done : (n.perform op).1 = true) :
    (op.alone? i).all s.permits = true ∧
      (n.perform op).2.Seats i queue initial (((op.alone? i).map s.perform).getD s) := by
  have told {react : Duty → Option Act} (confined : Confines σ react) {topic : Source}
      (done : (n.broadcast topic react).1 = true) :
      s.passes react (s.registrations.matching topic) = true ∧
        (n.broadcast topic react).2.Seats i queue initial
          (s.deliver react (s.registrations.matching topic)) := by
    rw [← h.registrations, ← Subscriptions.ofMember_matching, broadcast, attempt_of_done done]
    exact ⟨h.passes confined done, h.deliver confined _⟩
  cases op with
  | publish source state => exact told (confines_onPublish source state) done
  | startAll => exact told confines_onStart done
  | clear => exact ⟨rfl, h.subscriptions rfl⟩
  | act j a =>
      rw [Op.alone?]
      split
      · next own => exact ⟨rfl, own ▸ h.act a⟩
      · next other => exact ⟨rfl, (Confined.act named j a).seats (Ne.symm other) h⟩

theorem performAll (named : n.Named) (h : n.Seats i queue initial s) {ops : List Op}
    (done : (n.performAll ops).1 = true) :
    s.permitsAll (ops.filterMap (Op.alone? i)) = true ∧
      (n.performAll ops).2.Seats i queue initial
        ((ops.filterMap (Op.alone? i)).foldl Seat.perform s) := by
  induction ops generalizing n s with
  | nil => exact ⟨rfl, h⟩
  | cons op rest ih =>
      obtain ⟨first, later⟩ := Bool.and_eq_true_iff.1 done
      have now := h.perform named first
      have then' := ih (perform_keeps named op).2 now.2 later
      rw [List.filterMap_cons]
      cases left : op.alone? i with
      | none =>
          rw [left] at then'
          exact then'
      | some op' =>
          rw [left] at now then'
          exact ⟨Bool.and_eq_true_iff.2 ⟨now.1, then'.1⟩, then'.2⟩

end Seats

def Holds (n : Node σ) (i : Nat) (p : ∀ m, Seat m → Prop) : Prop :=
  ∃ (queue : Nat) (initial : Option (EventQueue Report)) (m : Monitor) (s : Seat m),
    n.Seats i queue initial s ∧ p m s

theorem attempt_of_passes (named : n.Named) {react : Duty → Option Act}
    (confined : Confines σ react) {targets : Subscriptions Role}
    (all : ∀ t ∈ targets, n.Holds t.target.member fun _ s =>
      s.passes react (targets.ofMember t.target.member) = true) :
    (n.attempt react targets).1 = true := by
  induction targets generalizing n with
  | nil => rfl
  | cons t rest ih =>
      obtain ⟨queue, initial, m, s, h, own⟩ := all t List.mem_cons_self
      rw [Subscriptions.ofMember_cons, if_pos rfl, Seat.passes, Bool.and_eq_true,
        Bool.not_eq_true'] at own
      rw [attempt, h.any_fails, own.1]
      have step := confined.heed n t.target.member t.target.duty
      -- A later subscriber is the member that has just acted, or its seat is as it was.
      refine ih (step.named named) fun t' later => ?_
      obtain ⟨queue', initial', m', s', h', others⟩ := all t' (List.mem_cons_of_mem _ later)
      rw [Subscriptions.ofMember_cons] at others
      split at others
      · next same =>
        rw [← same]
        exact ⟨queue, initial, m, _, h.heed (react t.target.duty), own.2⟩
      · next other => exact ⟨queue', initial', m', s', step.seats (Ne.symm other) h', others⟩

theorem perform_of_permits (named : n.Named) {op : Op}
    (all : ∀ i < n.roster.length, n.Holds i fun _ s => (op.alone? i).all s.permits = true) :
    (n.perform op).1 = true := by
  have told {react : Duty → Option Act} (confined : Confines σ react) {topic : Source}
      (all : ∀ i < n.roster.length, n.Holds i fun _ s =>
        s.passes react (s.registrations.matching topic) = true) :
      (n.broadcast topic react).1 = true := by
    refine attempt_of_passes named confined fun t subscribed => ?_
    obtain ⟨_, entry⟩ := named.subscriptions t (List.mem_filter.1 subscribed).1
    obtain ⟨queue, initial, m, s, h, passes⟩ := all _ (List.getElem?_eq_some_iff.1 entry).1
    rw [← h.registrations, ← Subscriptions.ofMember_matching] at passes
    exact ⟨queue, initial, m, s, h, passes⟩
  cases op with
  | publish source state => exact told (confines_onPublish source state) all
  | startAll => exact told confines_onStart all
  | clear | act => rfl

theorem performAll_of_permits (named : n.Named) {ops : List Op}
    (all : ∀ i < n.roster.length, n.Holds i fun _ s =>
      s.permitsAll (ops.filterMap (Op.alone? i)) = true) :
    (n.performAll ops).1 = true := by
  induction ops generalizing n with
  | nil => rfl
  | cons op rest ih =>
      have permits : ∀ i < n.roster.length, n.Holds i fun _ s =>
          (op.alone? i).all s.permits = true ∧
            (((op.alone? i).map s.perform).getD s).permitsAll
              (rest.filterMap (Op.alone? i)) = true := by
        intro i inside
        obtain ⟨queue, initial, m, s, h, own⟩ := all i inside
        refine ⟨queue, initial, m, s, h, ?_⟩
        rw [List.filterMap_cons] at own
        cases left : op.alone? i with
        | none => exact ⟨rfl, by rwa [left] at own⟩
        | some op' =>
            rw [left] at own
            exact Bool.and_eq_true_iff.1 own
      have first : (n.perform op).1 = true := by
        refine perform_of_permits named fun i inside => ?_
        obtain ⟨queue, initial, m, s, h, own, _⟩ := permits i inside
        exact ⟨queue, initial, m, s, h, own⟩
      have kept := perform_keeps named op
      rw [performAll_cons, first, Bool.true_and]
      refine ih kept.2 fun i inside => ?_
      rw [kept.1] at inside
      obtain ⟨queue, initial, m, s, h, _, later⟩ := permits i inside
      exact ⟨queue, initial, m, _, (h.perform named first).2, later⟩

end Node

end DpllWatch
