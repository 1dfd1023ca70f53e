import DpllWatch.Proofs.Link.Custody
import DpllWatch.Proofs.Monitor.Batches
import DpllWatch.Proofs.Node.Move
import Mathlib.Logic.Function.Basic
import Mathlib.Logic.Relation

/-! How well a monitor knows the statuses that the kernel holds. A link takes a dump and joins
afterwards, so that a change in between reaches the monitor neither with the dump nor as a
notification; every other change does. -/

namespace DpllWatch

open Netlink (Device)
open Link (Move Effect)

abbrev Statuses := Half → LockStatus

def Monitor.status (m : Monitor) : Statuses
  | .frequency => m.frequency
  | .phase => m.phase

def learn (clock : UInt64) (known : Statuses) (d : Device) : Statuses := fun half =>
  if d.half? clock = some half then d.status else known half

namespace Monitor

theorem takeDevice_status (m : Monitor) (d : Device) :
    (m.takeDevice d).1.status = learn m.settings.clockId m.status d := by
  funext half
  unfold takeDevice learn Device.half?
  split
  · simp
  · cases d.kind <;> cases half <;> simp [status]

theorem takeDevices_status (m : Monitor) (devices : List Device) :
    (m.takeDevices devices).1.status = devices.foldl (learn m.settings.clockId) m.status := by
  induction devices generalizing m with
  | nil => rfl
  | cons d rest ih =>
      obtain ⟨_, _, _, _, taken⟩ := (takeDevice_refresh m d).frame
      have kept : (m.takeDevice d).1.settings = m.settings := by rw [taken]
      rw [takeDevices, List.foldl_cons, ← takeDevice_status, ← kept]
      exact ih _

theorem ingest_status (m : Monitor) (devices : List Device) :
    (m.step (.ingest devices)).1.status =
      devices.foldl (learn m.settings.clockId) m.status := by
  have taken := m.takeDevices_status devices
  simp only [step, ingest]
  split
  · obtain ⟨_, _, _, _, decided⟩ := (m.takeDevices devices).1.decide_frame
    rw [← taken, decided]
    rfl
  · exact taken

theorem teardown_status (m : Monitor) : (m.step .teardown).1.status = m.status := by
  simp only [step, teardown]
  split
  · rfl
  · rw [release_eq]
    rfl

theorem feel_settings (m : Monitor) (e : Effect) : (m.feel e).settings = m.settings := by
  cases e with
  | ingest devices => exact m.step_settings (.ingest devices)
  | teardown => exact m.step_settings .teardown
  | close | wait => rfl

theorem feels_settings (m : Monitor) (effects : List Effect) :
    (effects.foldl Monitor.feel m).settings = m.settings := by
  induction effects generalizing m with
  | nil => rfl
  | cons e rest ih => rw [List.foldl_cons, ih, feel_settings]

theorem feel_status (m : Monitor) (e : Effect) :
    (m.feel e).status = (e.ingested?.getD []).foldl (learn m.settings.clockId) m.status := by
  cases e with
  | ingest devices => exact m.ingest_status devices
  | teardown => exact m.teardown_status
  | close | wait => rfl

end Monitor

theorem foldl_learn_eq_iff {clock : UInt64} {known known' : Statuses} {half : Half}
    (devices : List Device) :
    devices.foldl (learn clock) known half = devices.foldl (learn clock) known' half ↔
      known half = known' half ∨ ∃ d ∈ devices, d.half? clock = some half := by
  induction devices generalizing known known' with
  | nil => simp
  | cons d rest ih =>
      rw [List.foldl_cons, List.foldl_cons, ih]
      by_cases about : d.half? clock = some half <;> simp [learn, about]

/-- The kernel as far as one clock and its links are concerned: the statuses that it holds, and for
each connection that has joined the group the notifications that wait there. -/
structure Kernel where
  clock : UInt64
  truth : Statuses
  queue : ConnectionId → Option (List Device)

namespace Kernel

/-- A device changes. Every connection that has joined the group is notified, whether or not the
change tells a status of this clock. -/
def change (k : Kernel) (d : Device) : Kernel :=
  { k with truth := learn k.clock k.truth d, queue := fun c => (k.queue c).map (· ++ [d]) }

def join (k : Kernel) (c : ConnectionId) : Kernel :=
  { k with queue := Function.update k.queue c (some []) }

def leave (k : Kernel) (c : ConnectionId) (rest : List Device) : Kernel :=
  { k with queue := Function.update k.queue c (some rest) }

def close (c : ConnectionId) (k : Kernel) : Kernel :=
  { k with queue := Function.update k.queue c none }

def feel (k : Kernel) : Effect → Kernel
  | .close c => k.close c
  | .ingest _ | .teardown | .wait _ => k

theorem feel_eq {t : Transport Kernel} (h : t.close = close) : t.feel = feel := by
  funext k e
  cases e with
  | close c => exact congrFun (congrFun h c) k
  | ingest | teardown | wait => rfl

/-- A dump tells the status of both halves, in whatever order and among whatever other devices. -/
def Dumps (k : Kernel) (devices : List Device) : Prop :=
  ∀ half, (∃ d ∈ devices, d.half? k.clock = some half) ∧
    ∀ d ∈ devices, d.half? k.clock = some half → d.status = k.truth half

inductive Answers (k : Kernel) (l : Link) : Move → Kernel → Prop where
  | dumped {devices : List Device} : k.Dumps devices → Answers k l (.dumped (some devices)) k
  | joined {c : ConnectionId} : l.phase = .joining c → Answers k l (.joined true) (k.join c)
  | batch {epoch : Nat} {r : Link.Receiver} {devices rest : List Device} : r ∈ l.receivers →
      r.epoch = epoch → k.queue r.connection = some (devices ++ rest) →
      Answers k l (.received epoch (.batch devices)) (k.leave r.connection rest)
  | other {move : Move} : move.arrived? = none → move ≠ .joined true → Answers k l move k

end Kernel

/-- Where a link stands with the kernel: what the statuses were when it last took a dump and when it
last joined, and which changes came after that. -/
structure Standing where
  dumped : Statuses
  joined : Statuses
  since : List Device

def Standing.note (s : Standing) (k : Kernel) : Move → Standing
  | .dumped (some _) => { s with dumped := k.truth }
  | .joined true => { s with joined := k.truth, since := [] }
  | _ => s

structure Tracks (s : Standing) (k : Kernel) (m : Monitor) (l : Link) : Prop where
  sound : l.Sound
  clock : m.settings.clockId = k.clock
  truth : k.truth = s.since.foldl (learn k.clock) s.joined
  /-- A dump that is yet to be handed on will replace all that the monitor knew. -/
  priming : ∀ c devices, l.phase = .priming c devices →
    ∀ known, devices.foldl (learn k.clock) known = s.dumped
  joining : ∀ c, l.phase = .joining c → m.status = s.dumped
  /-- Each change since the join has been seen, or is held by the receiver, or waits for it. -/
  live : ∀ r ∈ l.receivers, ∃ seen queued, k.queue r.connection = some queued ∧
    s.since = seen ++ r.holding.getD [] ++ queued ∧
      m.status = seen.foldl (learn k.clock) s.dumped

theorem foldl_learn_eq_self {clock : UInt64} {known : Statuses} {devices : List Device}
    (h : ∀ half, ∀ d ∈ devices, d.half? clock = some half → d.status = known half) :
    devices.foldl (learn clock) known = known := by
  induction devices with
  | nil => rfl
  | cons d rest ih =>
      have same : learn clock known d = known := by
        funext half
        by_cases about : d.half? clock = some half
        · simp [learn, about, h half d List.mem_cons_self about]
        · simp [learn, about]
      rw [List.foldl_cons, same]
      exact ih fun half d member => h half d (List.mem_cons_of_mem _ member)

theorem Kernel.Dumps.learned {k : Kernel} {devices : List Device} (h : k.Dumps devices)
    (known : Statuses) : devices.foldl (learn k.clock) known = k.truth := by
  have kept := foldl_learn_eq_self fun half => (h half).2
  funext half
  rw [(foldl_learn_eq_iff devices).2 (.inr (h half).1), kept]

theorem Tracks.change {s : Standing} {k : Kernel} {m : Monitor} {l : Link} (h : Tracks s k m l)
    (d : Device) : Tracks { s with since := s.since ++ [d] } (k.change d) m l where
  sound := h.sound
  clock := h.clock
  truth := by simp [Kernel.change, h.truth]
  priming := h.priming
  joining := h.joining
  live := by
    intro r alive
    obtain ⟨seen, queued, queue, since, status⟩ := h.live r alive
    refine ⟨seen, queued ++ [d], by simp [Kernel.change, queue], ?_, status⟩
    simp [since]

variable {s : Standing} {k k' : Kernel} {m m' : Monitor} {l l' : Link} {move : Move}
  {effects : List Effect}

theorem Standing.note_quiet (s : Standing) (k : Kernel) (silent : move.arrived? = none)
    (other : move ≠ .joined true) : s.note k move = s := by
  unfold note
  split
  · simp at silent
  · exact absurd rfl other
  · rfl

theorem Kernel.Answers.quiet (a : k.Answers l move k') (silent : move.arrived? = none)
    (other : move ≠ .joined true) : k' = k := by
  cases a with
  | dumped | batch => simp at silent
  | joined => exact absurd rfl other
  | other => rfl

theorem Kernel.feels_truth (k : Kernel) (effects : List Effect) :
    (effects.foldl Kernel.feel k).truth = k.truth ∧
      (effects.foldl Kernel.feel k).clock = k.clock := by
  induction effects generalizing k with
  | nil => exact ⟨rfl, rfl⟩
  | cons e rest ih =>
      rw [List.foldl_cons, (ih _).1, (ih _).2]
      cases e <;> exact ⟨rfl, rfl⟩

theorem Tracks.idle (h : Tracks s k m l) (sound : l'.Sound) (settings : m'.settings = m.settings)
    (kernel : k'.truth = k.truth ∧ k'.clock = k.clock) (none : l'.receivers = [])
    (phase : l'.phase.connection? = Option.none) : Tracks s k' m' l' where
  sound := sound
  clock := by rw [settings, kernel.2, h.clock]
  truth := by rw [kernel.1, kernel.2, h.truth]
  priming := by
    intro c devices priming
    simp [priming, Link.Phase.connection?] at phase
  joining := by
    intro c joining
    simp [joining, Link.Phase.connection?] at phase
  live := by simp [none]

theorem Tracks.keep (h : Tracks s k m l) (sound : l'.Sound) (settings : m'.settings = m.settings)
    (status : m'.status = m.status)
    (priming : ∀ c devices, l'.phase = .priming c devices → l.phase = .priming c devices)
    (joining : ∀ c, l'.phase = .joining c → l.phase = .joining c)
    (receivers : ∀ r' ∈ l'.receivers, ∃ r ∈ l.receivers,
      r'.connection = r.connection ∧ r'.holding = r.holding) : Tracks s k m' l' where
  sound := sound
  clock := by rw [settings, h.clock]
  truth := h.truth
  priming c devices phase := h.priming c devices (priming c devices phase)
  joining c phase := by rw [status, h.joining c (joining c phase)]
  live := by
    intro r' alive'
    obtain ⟨r, alive, connection, holding⟩ := receivers r' alive'
    rw [connection, holding, status]
    exact h.live r alive

theorem Tracks.of_dump (h : Tracks s k m l) {c : ConnectionId} {devices : List Device}
    (phase : l.phase = .dumping c) (dumps : k.Dumps devices)
    (sound : Link.Sound { l with phase := .priming c devices }) :
    Tracks { s with dumped := k.truth } k m { l with phase := .priming c devices } where
  sound := sound
  clock := h.clock
  truth := h.truth
  priming := by
    intro c' devices' same known
    cases same
    exact dumps.learned known
  joining := nofun
  live := by
    have none := (h.sound.attended.idle (by rw [phase]; rfl) (by simp [phase])).1
    simp [none]

theorem Tracks.of_primed (h : Tracks s k m l) {c : ConnectionId} {devices : List Device}
    (phase : l.phase = .priming c devices) (sound : Link.Sound { l with phase := .joining c }) :
    Tracks s k (m.feel (.ingest devices)) { l with phase := .joining c } where
  sound := sound
  clock := by rw [m.feel_settings, h.clock]
  truth := h.truth
  priming := nofun
  joining := by
    intro _ _
    rw [m.feel_status, h.clock]
    exact h.priming c devices phase m.status
  live := by
    have none := (h.sound.attended.idle (by rw [phase]; rfl) (by simp [phase])).1
    simp [none]

theorem Tracks.of_join (h : Tracks s k m l) {c : ConnectionId} (phase : l.phase = .joining c)
    (joined : l'.receivers = [⟨l.epoch + 1, c, none, false⟩]) (streaming : l'.phase.connection? = none)
    (sound : l'.Sound) :
    Tracks { s with joined := k.truth, since := [] } (k.join c) m l' where
  sound := sound
  clock := h.clock
  truth := rfl
  priming := by
    intro _ _ priming
    simp [priming, Link.Phase.connection?] at streaming
  joining := by
    intro _ joining
    simp [joining, Link.Phase.connection?] at streaming
  live := by
    intro r alive
    obtain rfl : r = _ := by simpa [joined] using alive
    exact ⟨[], [], by simp [Kernel.join], rfl, h.joining c phase⟩

theorem Tracks.receives (h : Tracks s k m l) {r : Link.Receiver} {devices rest : List Device}
    (only : l.receivers = [r]) (free : r.holding = none)
    (queue : k.queue r.connection = some (devices ++ rest))
    (sound : Link.Sound { l with receivers := [{ r with holding := some devices }] }) :
    Tracks s (k.leave r.connection rest) m
      { l with receivers := [{ r with holding := some devices }] } where
  sound := sound
  clock := h.clock
  truth := h.truth
  priming := h.priming
  joining := h.joining
  live := by
    intro r' alive
    obtain rfl : r' = _ := by simpa using alive
    obtain ⟨seen, queued, was, since, status⟩ := h.live r (by simp [only])
    obtain rfl : devices ++ rest = queued := by simpa [queue] using was
    exact ⟨seen, rest, by simp [Kernel.leave], by simp [since, free], status⟩

theorem Tracks.hands_on (h : Tracks s k m l) {r : Link.Receiver} {devices : List Device}
    (only : l.receivers = [r]) (held : r.holding = some devices)
    (sound : Link.Sound { l with receivers := [{ r with holding := none }] }) :
    Tracks s k (m.feel (.ingest devices)) { l with receivers := [{ r with holding := none }] } where
  sound := sound
  clock := by rw [m.feel_settings, h.clock]
  truth := h.truth
  priming := by
    intro c _ priming
    have settled := (h.sound.attended.settled only).1
    simp [show l.phase = _ from priming, Link.Phase.connection?] at settled
  joining := by
    intro c joining
    have settled := (h.sound.attended.settled only).1
    simp [show l.phase = _ from joining, Link.Phase.connection?] at settled
  live := by
    intro r' alive
    obtain rfl : r' = _ := by simpa using alive
    obtain ⟨seen, queued, queue, since, status⟩ := h.live r (by simp [only])
    refine ⟨seen ++ devices, queued, queue, by simp [since, held], ?_⟩
    rw [m.feel_status, h.clock, status, List.foldl_append]
    rfl

theorem Tracks.moves (h : Tracks s k m l) (t : l.Transition move l' effects)
    (a : k.Answers l move k') :
    Tracks (s.note k move) (effects.foldl Kernel.feel k') (effects.foldl Monitor.feel m) l' := by
  have sound := t.sound h.sound
  have settings := m.feels_settings effects
  cases t with
  -- Where a connection ends no receiver is left, and the next dump starts afresh.
  | failed _ _ fails =>
      have silent : move.arrived? = none := by cases fails <;> rfl
      have other : move ≠ .joined true := by
        rintro rfl
        nomatch fails
      obtain rfl := a.quiet silent other
      rw [s.note_quiet k' silent other]
      exact h.idle sound settings (k'.feels_truth _) (h.sound.unattended fails).1 rfl
  | @ended r _ only ends =>
      have other : move ≠ .joined true := by
        rintro rfl
        nomatch ends
      obtain rfl := a.quiet ends.arrived other
      rw [s.note_quiet k' ends.arrived other]
      exact h.idle sound settings (k'.feels_truth _) rfl
        (h.sound.attended.settled only).1
  | dumped _ phase =>
      cases a with
      | dumped dumps => exact h.of_dump phase dumps sound
      | other silent => simp at silent
  | primed phase =>
      obtain rfl := a.quiet rfl nofun
      exact h.of_primed phase sound
  | joined phase none =>
      cases a with
      | joined same =>
          obtain rfl : _ = _ := by simpa [phase] using same
          exact h.of_join phase rfl rfl sound
      | other _ other => exact absurd rfl other
  | @received r _ only free =>
      cases a with
      | @batch _ r' _ _ alive _ queue =>
          obtain rfl : r' = r := by simpa [only] using alive
          exact h.receives only free queue sound
      | other silent => simp at silent
  | handedOn only held =>
      obtain rfl := a.quiet rfl nofun
      exact h.hands_on only held sound
  | waits =>
      obtain rfl := a.quiet rfl nofun
      exact h
  | dialed | lost | stopped | calledOff | waited | left =>
      obtain rfl := a.quiet rfl nofun
      exact h.keep sound rfl rfl nofun nofun fun r alive => ⟨r, alive, rfl, rfl⟩
  | tornDown | tornDownAttended =>
      obtain rfl := a.quiet rfl nofun
      exact h.keep sound settings m.teardown_status nofun nofun fun r alive => ⟨r, alive, rfl, rfl⟩
  | stopAsked =>
      obtain rfl := a.quiet rfl nofun
      exact h.keep sound rfl rfl (fun _ _ same => same) (fun _ same => same)
        fun r alive => ⟨r, alive, rfl, rfl⟩
  | dismissed =>
      obtain rfl := a.quiet rfl nofun
      refine h.keep sound rfl rfl nofun nofun fun asked member => ?_
      obtain ⟨r, alive, rfl⟩ := List.mem_map.1 member
      exact ⟨r, alive, rfl, rfl⟩

structure World where
  node : Node Kernel
  standing : Standing

namespace World

def start (n : Node Kernel) : World := ⟨n, n.kernel.truth, n.kernel.truth, []⟩

/-- What can happen next: a device changes, or the member's link makes a move that it can make and
that the kernel answers. -/
inductive Step (i : Nat) (w : World) : World → Prop where
  | change (d : Device) : Step i w
      ⟨{ w.node with kernel := w.node.kernel.change d },
        { w.standing with since := w.standing.since ++ [d] }⟩
  | move {l : Link} {move : Move} {kernel : Kernel} : w.node.link? i = some l →
      (l.step move).isSome = true → w.node.kernel.Answers l move kernel →
      Step i w ⟨({ w.node with kernel := kernel } : Node Kernel).move i move,
        w.standing.note w.node.kernel move⟩

variable {i : Nat} {w w' : World} {s : Standing} {k k' : Kernel} {m : Monitor} {l l' : Link}
  {move : Move} {effects : List Effect}

structure Shows (i : Nat) (w : World) (s : Standing) (k : Kernel) (m : Monitor) (l : Link) :
    Prop where
  hosts : w.node.Hosts i m l
  kernel : w.node.kernel = k
  standing : w.standing = s
  close : w.node.transport.close = Kernel.close

theorem Shows.after_change (h : Shows i w s k m l) (d : Device) :
    Shows i ⟨{ w.node with kernel := w.node.kernel.change d },
      { w.standing with since := w.standing.since ++ [d] }⟩
      { s with since := s.since ++ [d] } (k.change d) m l :=
  ⟨h.hosts, by rw [h.kernel], by rw [h.standing], h.close⟩

theorem Shows.after_move (h : Shows i w s k m l) (made : l.step move = some (l', effects)) :
    Shows i ⟨({ w.node with kernel := k' } : Node Kernel).move i move,
      w.standing.note w.node.kernel move⟩
      (s.note k move) (effects.foldl Kernel.feel k') (effects.foldl Monitor.feel m) l' := by
  have hosts : ({ w.node with kernel := k' } : Node Kernel).Hosts i m l := h.hosts
  have moved := hosts.moves made
  refine ⟨moved.hosts, ?_, by rw [h.kernel, h.standing],
    (congrArg Transport.close moved.transport).trans h.close⟩
  rw [moved.kernel, Kernel.feel_eq h.close]

theorem Shows.step (h : Shows i w s k m l) (tracks : Tracks s k m l) (step : Step i w w') :
    ∃ s k m l, Shows i w' s k m l ∧ Tracks s k m l := by
  cases step with
  | change d => exact ⟨_, _, _, _, h.after_change d, tracks.change d⟩
  | @move l' move kernel found can answers =>
      obtain rfl : l = l' := by simpa [h.hosts.link?] using found
      obtain ⟨⟨next, effects⟩, made⟩ := Option.isSome_iff_exists.1 can
      rw [h.kernel] at answers
      exact ⟨_, _, _, _, h.after_move made,
        tracks.moves (tracks.sound.transition made) answers⟩

theorem Shows.reached (h : Shows i w s k m l) (tracks : Tracks s k m l)
    (reached : Relation.ReflTransGen (Step i) w w') :
    ∃ s k m l, Shows i w' s k m l ∧ Tracks s k m l := by
  induction reached with
  | refl => exact ⟨s, k, m, l, h, tracks⟩
  | tail _ step ih =>
      obtain ⟨_, _, _, _, shows, tracks⟩ := ih
      exact shows.step tracks step

/-- While a receiver lives and has handed everything on, and nothing waits for it, the monitor knows
the last dump with all changes since the link joined. A status that it knows is the true one exactly
if it did not differ between the dump and the join or has changed since. -/
theorem status_eq_truth_iff {n : Node Kernel} {t : Timing} {m₀ : Monitor} {r : Link.Receiver}
    (begun : n.Hosts i m₀ (.start (Node.schedule t))) (clock : m₀.settings.clockId = n.kernel.clock)
    (close : n.transport.close = Kernel.close)
    (reached : Relation.ReflTransGen (Step i) (start n) w) (hosts : w.node.Hosts i m l)
    (live : r ∈ l.receivers) (free : r.holding = none)
    (drained : w.node.kernel.queue r.connection = some []) :
    m.status = w.standing.since.foldl (learn w.node.kernel.clock) w.standing.dumped ∧
      w.node.kernel.truth = w.standing.since.foldl (learn w.node.kernel.clock) w.standing.joined ∧
      ∀ half, m.status half = w.node.kernel.truth half ↔
        w.standing.dumped half = w.standing.joined half ∨
          ∃ d ∈ w.standing.since, d.half? w.node.kernel.clock = some half := by
  have shown : Shows i (start n) ⟨n.kernel.truth, n.kernel.truth, []⟩ n.kernel m₀ _ :=
    ⟨begun, rfl, rfl, close⟩
  have tracked : Tracks ⟨n.kernel.truth, n.kernel.truth, []⟩ n.kernel m₀ _ :=
    ⟨Link.sound_start t, clock, rfl, nofun, nofun, nofun⟩
  obtain ⟨s, k, m', l', shows, tracks⟩ := shown.reached tracked reached
  obtain ⟨rfl, rfl⟩ := hosts.unique shows.hosts
  obtain ⟨hosts, rfl, rfl, -⟩ := shows
  obtain ⟨seen, queued, queue, since, status⟩ := tracks.live r live
  obtain rfl : queued = [] := by simpa [drained, eq_comm] using queue
  have all_seen : w.standing.since = seen := by simpa [free] using since
  rw [← all_seen] at status
  refine ⟨status, tracks.truth, fun half => ?_⟩
  rw [status, tracks.truth]
  exact foldl_learn_eq_iff _

theorem Shows.changes (h : Shows i w s k m l) (d : Device) : ∃ w', Step i w w' ∧
    Shows i w' { s with since := s.since ++ [d] } (k.change d) m l :=
  ⟨_, .change d, h.after_change d⟩

theorem Shows.moves (h : Shows i w s k m l) (made : l.step move = some (l', effects))
    (answers : k.Answers l move k') : ∃ w', Step i w w' ∧
      Shows i w' (s.note k move) (effects.foldl Kernel.feel k') (effects.foldl Monitor.feel m) l' := by
  rw [← h.kernel] at answers
  exact ⟨_, .move h.hosts.link? (by rw [made]; rfl) answers, h.after_move made⟩

private def locked : Kernel := ⟨1, fun _ => .lockedHoldoverAcquired, fun _ => none⟩

private def told (half : Half) (lock : UInt32) : Device :=
  { Device.blank with
    clockId := 1
    lock := lock
    kindCode := match half with
      | .frequency => 2
      | .phase => 1 }

private theorem dumps_locked : locked.Dumps [told .frequency 3, told .phase 3] := by
  intro half
  cases half <;> decide

private def scene (m : Monitor) : Node Kernel where
  transport := ⟨fun _ k => (true, k), fun _ k => (some 1, k), fun _ k => (none, k),
    fun _ k => (true, k), fun _ k => (.silence, k), Kernel.close, fun _ _ => false,
    fun _ _ => true, fun _ => 0⟩
  kernel := locked
  files := .empty
  timing := .standard
  pace := ⟨false, false⟩
  members := [⟨m, some (.link (.start (Node.schedule .standard))), 0, false⟩]
  subscriptions := []
  sources := .empty
  queues := []
  crashed := false

private def attached (holding : Option (List Device)) : Link :=
  { Link.start (Node.schedule .standard).reset with
    phase := .streaming 1, epoch := 1, receivers := [⟨1, 1, holding, false⟩] }

private theorem scene_joins (m : Monitor) (d : Device) : ∃ w,
    Relation.ReflTransGen (Step 0) (start (scene m)) w ∧
      Shows 0 w ⟨locked.truth, (locked.change d).truth, []⟩ ((locked.change d).join 1)
        (m.feel (.ingest [told .frequency 3, told .phase 3])) (attached none) := by
  have shows : Shows 0 (start (scene m)) ⟨locked.truth, locked.truth, []⟩ locked m
    (.start (Node.schedule .standard)) := ⟨⟨0, rfl⟩, rfl, rfl, rfl⟩
  obtain ⟨_, dialed, shows⟩ :=
    shows.moves rfl (.other rfl nofun : Kernel.Answers _ _ (.dialed (some 1)) _)
  obtain ⟨_, dumped, shows⟩ := shows.moves rfl (.dumped dumps_locked)
  obtain ⟨_, changed, shows⟩ := shows.changes d
  obtain ⟨_, primed, shows⟩ := shows.moves rfl (.other rfl nofun : Kernel.Answers _ _ .primed _)
  obtain ⟨_, joined, shows⟩ := shows.moves rfl (.joined rfl)
  exact ⟨_, ((((Relation.ReflTransGen.single dialed).tail dumped).tail changed).tail primed).tail
    joined, shows⟩

/-- The clock loses its lock after the dump and before the link joins. Nothing tells the monitor. -/
theorem stale_of_change_before_join : ∃ m₀ w m l r,
    Monitor.create (.standard 1 "ens1f0" [.gnss]) = .ok m₀ ∧
      Relation.ReflTransGen (Step 0) (start (scene m₀)) w ∧ w.node.Hosts 0 m l ∧
      l.phase = .streaming 1 ∧ l.receivers = [r] ∧ r.holding = none ∧
      w.node.kernel.queue r.connection = some [] ∧
      m.status .frequency = .lockedHoldoverAcquired ∧
      w.node.kernel.truth .frequency = .freeRun := by
  obtain ⟨m₀, created, clock⟩ : ∃ m₀, Monitor.create (.standard 1 "ens1f0" [.gnss]) = .ok m₀ ∧
      m₀.settings.clockId = 1 := ⟨_, rfl, rfl⟩
  obtain ⟨w, reached, shows⟩ := scene_joins m₀ (told .frequency 1)
  have known := congrFun (m₀.ingest_status [told .frequency 3, told .phase 3]) .frequency
  rw [clock] at known
  refine ⟨m₀, w, _, _, _, created, reached, shows.hosts, rfl, rfl, rfl, ?_, known, ?_⟩
  · rw [shows.kernel]
    rfl
  · rw [shows.kernel]
    rfl

theorem status_eq_truth_iff_caught_up : ∃ m₀ w m l,
    Monitor.create (.standard 1 "ens1f0" [.gnss]) = .ok m₀ ∧
      Relation.ReflTransGen (Step 0) (start (scene m₀)) w ∧ w.node.Hosts 0 m l ∧
      w.standing.dumped .frequency ≠ w.standing.joined .frequency ∧
      m.status = w.node.kernel.truth := by
  obtain ⟨m₀, created, clock⟩ : ∃ m₀, Monitor.create (.standard 1 "ens1f0" [.gnss]) = .ok m₀ ∧
      m₀.settings.clockId = 1 := ⟨_, rfl, rfl⟩
  obtain ⟨w, reached, shows⟩ := scene_joins m₀ (told .frequency 1)
  obtain ⟨_, changed, shows⟩ := shows.changes (told .frequency 4)
  obtain ⟨_, received, shows⟩ := shows.moves rfl
    (.batch List.mem_cons_self rfl rfl :
      Kernel.Answers _ (attached none) (.received 1 (.batch [told .frequency 4])) _)
  obtain ⟨w, handed_on, shows⟩ :=
    shows.moves rfl (.other rfl nofun : Kernel.Answers _ _ (.handedOn 1) _)
  have reached := ((reached.tail changed).tail received).tail handed_on
  obtain ⟨-, -, known⟩ := status_eq_truth_iff (t := .standard) ⟨0, rfl⟩ clock rfl reached
    shows.hosts List.mem_cons_self rfl (by rw [shows.kernel]; rfl)
  refine ⟨m₀, w, _, _, created, reached, shows.hosts, ?_, funext fun half => (known half).2 ?_⟩
  · rw [shows.standing]
    decide
  · rw [shows.standing, shows.kernel]
    cases half with
    | frequency => exact .inr ⟨_, List.mem_cons_self, rfl⟩
    | phase => exact .inl rfl

end World

end DpllWatch
