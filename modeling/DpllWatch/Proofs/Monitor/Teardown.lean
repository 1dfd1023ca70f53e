import DpllWatch.Link.Script
import DpllWatch.Node
import DpllWatch.Proofs.Monitor.Overlap
import DpllWatch.Proofs.Monitor.Safety

/-! What becomes of the countdown when a monitor is torn down. It is given up first and monitoring
ends last. Receivers, countdowns and notifications go on meanwhile and for a while afterwards, and
what they bring is decided on as before: such a decision can start a countdown again, which is
then still there when the stop is over. -/

namespace DpllWatch.Monitor

open Netlink (Device)

variable {m m' : Monitor}

structure Fit (m : Monitor) : Prop where
  seen : m.window? ≠ none
  inSpec : m.inSpec = true
  clear : m.rangeExceeded = false

/-- A decision has the clock hold over. -/
structure HoldoverDue (m : Monitor) : Prop extends Fit m where
  hold : m.fused.holdsOver = true
  lost : m.sourceLost = true

theorem Verdict.idle_iff {inRange : Bool} (v : m.Verdict inRange m') (idle : m.episode = none)
    (seen : m.window? ≠ none) : m'.episode = none ↔ ¬HoldoverDue m' := by
  cases v with
  | unusable unusable =>
      refine iff_of_true rfl fun due => ?_
      have hold : m.fused.holdsOver = true := due.hold
      simp [LockStatus.usable_of_holdsOver hold] at unusable
  | tracking _ present => exact iff_of_true rfl fun due => by simpa [present] using due.lost
  | straying locked =>
      refine iff_of_true rfl fun due => ?_
      have hold : m.fused.holdsOver = true := due.hold
      simp [locked, LockStatus.holdsOver] at hold
  | recovered _ present => exact iff_of_true rfl fun due => by simpa [present] using due.lost
  | holding _ _ _ owned => simp [idle] at owned
  | latched _ _ _ _ latch => exact iff_of_true idle fun due => by simpa [latch] using due.clear
  | armed hold lost inSpec _ clear =>
      have due : HoldoverDue m.arm := ⟨⟨seen, inSpec, clear⟩, hold, lost⟩
      have counting : m.arm.episode ≠ none := Option.some_ne_none _
      exact iff_of_false counting (absurd due)
  | spent => exact iff_of_true rfl fun due => by simpa [idle] using due.inSpec
  | kept _ present => exact iff_of_true idle fun due => by simpa [present] using due.lost

theorem decide_idle_iff (idle : m.episode = none) :
    m.decide.1.episode = none ↔ ¬HoldoverDue m.decide.1 := by
  refine decide_cases (fun blind => ?_) fun w m' window verdict => ?_
  · exact iff_of_true idle fun due => due.seen blind
  · have seen : m.window? ≠ none := by simp [window]
    exact verdict.idle_iff idle seen

theorem Verdict.inSpec {inRange : Bool} (v : m.Verdict inRange m') (inSpec : m.inSpec = true) :
    m'.inSpec = true := by
  cases v with
  | holding => exact inSpec
  | latched => exact inSpec
  | armed => exact inSpec
  | spent _ _ spent => simp [spent] at inSpec
  | kept => exact inSpec
  | _ => rfl

theorem decide_inSpec (inSpec : m.inSpec = true) : m.decide.1.inSpec = true :=
  decide_cases (fun _ => inSpec) fun _ _ _ verdict => verdict.inSpec inSpec

theorem Fit.decide (h : Fit m) : Fit m.decide.1 where
  seen := by simpa using h.seen
  inSpec := decide_inSpec h.inSpec
  clear := by simpa using h.clear

structure Passes (m m' : Monitor) : Prop where
  idle : m'.episode = none
  decisions : m'.decisions = m.decisions
  seen : m.window? ≠ none → m'.window? ≠ none
  inSpec : m'.inSpec = m.inSpec
  clear : m.rangeExceeded = false → m'.rangeExceeded = false

theorem Passes.fit (p : Passes m m') (h : Fit m) : Fit m' where
  seen := p.seen h.seen
  inSpec := p.inSpec.trans h.inSpec
  clear := p.clear h.clear

theorem Passes.of_eq (idle : m'.episode = none) (decisions : m'.decisions = m.decisions)
    (window : m'.window? = m.window?) (inSpec : m'.inSpec = m.inSpec)
    (excess : m'.rangeExceeded = m.rangeExceeded) : Passes m m' where
  idle := idle
  decisions := decisions
  seen seen := window ▸ seen
  inSpec := inSpec
  clear := excess.trans

theorem Passes.hear (idle : m.episode = none) (source : Source) (state : SyncState) :
    Passes m (m.hear source state) := by
  have clear : m.rangeExceeded = false → (m.hear source state).rangeExceeded = false := by
    intro clear
    rw [hear_rangeExceeded, clear, Bool.false_and]
  obtain ⟨_, _, _, _, told⟩ := m.hear_frame source state
  rw [told] at clear ⊢
  exact ⟨idle, rfl, fun seen => seen, rfl, clear⟩

theorem Prelude.passes {input : Input} (idle : m.episode = none) (p : Prelude m input m') :
    Passes m m' := by
  cases p with
  | notify => exact .hear idle _ _
  | sample r => cases r <;> exact .of_eq idle rfl rfl rfl rfl
  | ingest r => cases r <;> exact .of_eq idle rfl rfl rfl rfl
  | finish owned => simp [idle] at owned

theorem step_passes (idle : m.episode = none) (input : Input) :
    Passes m (m.step input).1 ∨ ∃ m', Passes m m' ∧ (m.step input).1 = m'.decide.1 := by
  have step := step_transition m input
  generalize (m.step input).1 = m' at step ⊢
  cases step with
  | bound => exact .inl ⟨idle, rfl, fun _ => nofun, rfl, fun clear => clear⟩
  | ticked _ owned => simp [idle] at owned
  | concluded _ owned => simp [idle] at owned
  | tornDown => exact .inl (.of_eq rfl rfl rfl (by simp [idle]) rfl)
  | decided p => exact .inr ⟨_, p.passes idle, rfl⟩
  | _ => exact .inl (.of_eq idle rfl rfl rfl rfl)

theorem Passes.letGo (idle : m.episode = none) : Passes m m.letGo := by
  rw [Monitor.letGo, release_eq]
  exact .of_eq rfl rfl rfl (by simp [idle]) rfl

theorem act_passes (idle : m.episode = none) (move : Move) :
    Passes m (m.act move).1 ∨ ∃ m', Passes m m' ∧ (m.act move).1 = m'.decide.1 := by
  cases move with
  | call input => exact step_passes idle input
  | deliver source state =>
      rcases m.deliver_cases source state with same | decided
      · rw [act, same]
        exact .inl (.of_eq idle rfl rfl rfl rfl)
      · exact .inr ⟨_, .hear idle source state, decided⟩
  | letGo => exact .inl (.letGo idle)
  | start => exact .inl (.of_eq idle rfl rfl rfl rfl)
  | farewell => exact .inl (.of_eq idle rfl rfl rfl rfl)
  | goDeaf => exact .inl (.of_eq idle rfl rfl rfl rfl)

theorem act_idle_iff (idle : m.episode = none) (move : Move) :
    (m.act move).1.episode = none ↔
      (m.decisions < (m.act move).1.decisions → ¬HoldoverDue (m.act move).1) := by
  rcases act_passes idle move with passes | ⟨m', passes, decided⟩
  · have undecided : ¬m.decisions < (m.act move).1.decisions := by
      rw [passes.decisions]
      exact Nat.lt_irrefl _
    exact iff_of_true passes.idle (absurd · undecided)
  · have counted : m.decisions < m'.decide.1.decisions := by
      rw [decide_decisions, passes.decisions]
      exact Nat.lt_succ_self _
    rw [decided, decide_idle_iff passes.idle]
    exact ⟨fun undue _ => undue, fun undue => undue counted⟩

theorem moments_idle_iff (idle : m.episode = none) (moves : List Move) :
    (∀ t ∈ m.moments moves, t.after.episode = none) ↔
      ∀ t ∈ m.moments moves,
        t.before.decisions < t.after.decisions → ¬HoldoverDue t.after := by
  induction moves generalizing m with
  | nil => simp [moments]
  | cons move rest ih =>
      simp only [moments, List.forall_mem_cons]
      rw [Moment.after, ← act_idle_iff idle]
      exact and_congr_right ih

theorem act_fit (idle : m.episode = none) (h : Fit m) (move : Move) : Fit (m.act move).1 := by
  rcases act_passes idle move with passes | ⟨m', passes, decided⟩
  · exact passes.fit h
  · rw [decided]
    exact (passes.fit h).decide

theorem moments_fit {moves : List Move} (idle : m.episode = none) (h : Fit m)
    (quiet : ∀ t ∈ m.moments moves, t.after.episode = none) :
    ∀ t ∈ m.moments moves, Fit t.after := by
  induction moves generalizing m with
  | nil => simp [moments]
  | cons move rest ih =>
      have fit := act_fit idle h move
      simp only [moments, List.forall_mem_cons] at quiet ⊢
      exact ⟨fit, ih quiet.1 fit quiet.2⟩

def Clear (m : Monitor) : Prop := m.episode.isSome = true → m.rangeExceeded = false

theorem Verdict.clear {inRange : Bool} (v : m.Verdict inRange m') (h : Clear m) : Clear m' := by
  cases v with
  | holding => exact h
  | latched => exact h
  | armed _ _ _ _ clear => exact fun _ => clear
  | kept => exact h
  | _ => exact nofun

theorem Clear.decide (h : Clear m) : Clear m.decide.1 :=
  decide_cases (fun _ => h) fun _ _ _ verdict => verdict.clear h

theorem Prelude.clear {input : Input} (h : Clear m) (p : Prelude m input m') : Clear m' := by
  cases p with
  | @notify source state =>
      intro owned
      rw [hear_episode] at owned
      rw [hear_rangeExceeded, h owned, Bool.false_and]
  | sample r => cases r <;> exact h
  | ingest r => cases r <;> exact h
  | @finish _ outcome => cases outcome <;> exact nofun

theorem Reachable.clear (h : Reachable m) : Clear m := by
  induction h with
  | create created =>
      obtain ⟨_, _, rfl⟩ := eq_fresh_of_create created
      exact nofun
  | @step m input _ ih =>
      have step := step_transition m input
      generalize (m.step input).1 = m' at step ⊢
      cases step with
      | concluded outcome => cases outcome <;> exact nofun
      | tornDown => exact nofun
      | decided p => exact (p.clear ih).decide
      | _ => exact ih

@[simp] theorem letGo_episode (m : Monitor) : m.letGo.episode = none := by
  rw [letGo, release_eq]

theorem Reachable.fit_letGo (h : Reachable m) (owned : m.episode.isSome = true) :
    Fit m.letGo := by
  have seen : m.window? ≠ none := by
    intro blind
    have free := h.settled.blind blind
    rw [h.settled.owned owned] at free
    nomatch free
  have clear := h.clear owned
  rw [letGo, release_eq]
  exact ⟨seen, by simp [owned], clear⟩

/-- A monitor that has let go of its countdown, as it does first of all when it is torn down, stays
without one up to the first decision that is due to have it hold over. If it did have a countdown,
that is any decision that finds the source lost and a clock that could hold over. -/
theorem letGo_idle_iff (reach : Reachable m) (moves : List Move) :
    let moments := m.letGo.moments moves
    ((∀ t ∈ moments, t.after.episode = none) ↔
      ∀ t ∈ moments, t.before.decisions < t.after.decisions → ¬HoldoverDue t.after) ∧
      (m.episode.isSome = true →
        ((∀ t ∈ moments, t.after.episode = none) ↔
          ∀ t ∈ moments, t.before.decisions < t.after.decisions →
            t.after.sourceLost = true → t.after.fused.holdsOver = false)) := by
  intro moments
  have exact := moments_idle_iff m.letGo_episode moves
  refine ⟨exact, fun owned => ?_⟩
  constructor
  · intro quiet t ht decided lost
    have fit := moments_fit m.letGo_episode (reach.fit_letGo owned) quiet t ht
    rw [Bool.eq_false_iff]
    intro hold
    exact exact.1 quiet t ht decided ⟨fit, hold, lost⟩
  · intro calm
    refine exact.2 fun t ht decided due => ?_
    have spent := calm t ht decided due.lost
    rw [due.hold] at spent
    nomatch spent

def bothHalves : List Device := [⟨0, "", 1, 0, 3, 2⟩, ⟨1, "", 1, 0, 3, 1⟩]

def bereft : List Input :=
  [.bind .standard, .resolved .netlink, .activate, .ingest bothHalves, .notify .gnss .freeRun]

def calm : List Move :=
  [.call (.finish 1 .cancelled), .farewell, .deliver .gnss .locked, .goDeaf,
    .call (.ingest bothHalves)]

theorem letGo_idle_iff_calm :
    ∃ m, create (.standard 1 "ens1f0" [.gnss]) = .ok m ∧
      let held := (m.run bereft).1
      let moments := held.letGo.moments calm
      Reachable held ∧ held.episode.isSome = true ∧
      (∀ t ∈ moments, t.before.decisions < t.after.decisions →
        t.after.sourceLost = true → t.after.fused.holdsOver = false) ∧
      ∀ t ∈ moments, t.after.episode = none := by
  obtain ⟨m, created, owned, there⟩ :
      ∃ m, create (.standard 1 "ens1f0" [.gnss]) = .ok m ∧
        (m.run bereft).1.episode.isSome = true ∧
        ((m.run bereft).1.letGo.moments calm).all (fun t =>
          t.after.decisions ≤ t.before.decisions || !t.after.sourceLost) = true :=
    ⟨_, rfl, rfl, rfl⟩
  have reached := (Reachable.create created).run bereft
  have spared : ∀ t ∈ (m.run bereft).1.letGo.moments calm,
      t.before.decisions < t.after.decisions →
        t.after.sourceLost = true → t.after.fused.holdsOver = false := by
    intro t ht decided lost
    have there := List.all_eq_true.1 there t ht
    simp [Nat.not_le.2 decided, lost] at there
  exact ⟨m, created, reached, owned, spared, ((letGo_idle_iff reached calm).2 owned).2 spared⟩

def linked (m : Monitor) : Node Link.ScriptedKernel where
  transport := Link.ScriptedKernel.transport
  kernel := .ofScripts [(some true, [⟨bothHalves, none⟩])]
  files := .empty
  timing := .standard
  pace := ⟨false, false⟩
  members := [⟨m, none, 0, false⟩]
  subscriptions := []
  sources := .empty
  queues := []
  crashed := false

/-- The monitor of `linked` streams, and its source is lost. -/
def bereaved (m : Monitor) : Node Link.ScriptedKernel :=
  let n := ((linked m).bind 0 .standard).input 0 (.resolved .netlink)
  let n := n.setLink 0 (.start (Node.schedule .standard))
  ((n.input 0 .activate).settle 0).notify 0 .gnss .freeRun

/-- Tearing down gives up the countdown. A batch that is handed on after that starts another one,
which still runs when the stop is over. So does a batch that the receiver has in hand when the stop
begins. -/
theorem counts_down_after_stop :
    ∃ m, create (.standard 1 "ens1f0" [.gnss]) = .ok m ∧
      let shown (n : Node Link.ScriptedKernel) : List (Bool × Option Nat) :=
        n.members.map fun member => (member.monitor.tornDown, member.monitor.episode)
      let n := bereaved m
      let torn := n.teardown 0
      let fed := torn.input 0 (.ingest [⟨0, "", 1, 0, 3, 2⟩])
      let inHand := n.move 0 (.received 1 (.batch bothHalves))
      let gone := (((inHand.input 0 .beginStop).move 0 .stopAsked).move 0 .woken).move 0 .tornDown
      shown n = [(false, some 1)] ∧ shown torn = [(true, none)] ∧ shown fed = [(true, some 2)] ∧
        shown (fed.stop 0) = [(true, some 2)] ∧
        shown gone = [(true, none)] ∧ shown (gone.move 0 (.handedOn 1)) = [(true, some 2)] ∧
        shown (inHand.stop 0) = [(true, some 2)] :=
  ⟨_, rfl, rfl, rfl, rfl, rfl, rfl, rfl, rfl⟩

end DpllWatch.Monitor
