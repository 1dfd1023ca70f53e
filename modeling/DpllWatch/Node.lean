import DpllWatch.EventQueue
import DpllWatch.Link
import DpllWatch.Monitor.Input
import DpllWatch.Settings.Timing
import DpllWatch.Subscriptions
import DpllWatch.SourceStates

/-! A node: its monitors, what they share, and the workers that read for them. -/

namespace DpllWatch

inductive Worker where
  | files
  | link (link : Link)
deriving DecidableEq, Repr

inductive Role where
  | dependency (member : Nat)
  | activation (member : Nat)
deriving DecidableEq, Repr

/-- `queue` is the number of the queue that takes the monitor's reports. A member that is `released`
has no owner any more and lives only as long as its countdown. -/
structure Member where
  monitor : Monitor
  worker : Option Worker
  queue : Nat
  released : Bool

structure Pace where
  redials : Bool
  countdowns : Bool
deriving DecidableEq, Repr

/-- `crashed` is set by what no monitor survives. -/
structure Node (σ : Type) where
  transport : Transport σ
  kernel : σ
  files : FileTree
  timing : Timing
  pace : Pace
  members : List Member
  subscriptions : Subscriptions Role
  sources : SourceStates
  queues : List (EventQueue Report)
  crashed : Bool

namespace Member

def isAlive (m : Member) : Bool := !m.released || m.monitor.episode.isSome

end Member

namespace Node

variable {σ : Type}

def living? (n : Node σ) (i : Nat) : Option Member := (n.members[i]?).filter (·.isAlive)

def add (n : Node σ) (m : Monitor) (queue : Nat) : Node σ :=
  { n with members := n.members ++ [⟨m, none, queue, false⟩] }

def modifyMember (n : Node σ) (i : Nat) (f : Member → Member) : Node σ :=
  { n with members := n.members.modify i f }

def offer (n : Node σ) (queue : Nat) (reports : List Report) : Node σ :=
  { n with queues := n.queues.modify queue (·.publishAll reports) }

def input (n : Node σ) (i : Nat) (input : Monitor.Input) : Node σ :=
  match n.living? i with
  | none => n
  | some member =>
    let (monitor, reports) := member.monitor.step input
    (n.modifyMember i ({ · with monitor := monitor })).offer member.queue reports

/-- Ends monitoring and, the first time, drops the monitor's subscriptions. -/
def teardown (n : Node σ) (i : Nat) : Node σ :=
  match n.living? i with
  | none => n
  | some member =>
    let n := n.input i .teardown
    if member.monitor.tornDown then n
    else
      let topics := member.monitor.settings.dependsOn ++ [.monitoring]
      { n with
        subscriptions := topics.foldl
          (fun subs topic => (Subscriptions.unregister subs topic member.monitor.id).2)
          n.subscriptions }

def setLink (n : Node σ) (i : Nat) (l : Link) : Node σ :=
  n.modifyMember i ({ · with worker := some (.link l) })

def link? (n : Node σ) (i : Nat) : Option Link :=
  match n.members[i]? with
  | some ⟨_, some (.link l), _, _⟩ => some l
  | _ => none

def effect (n : Node σ) (i : Nat) : Link.Effect → Node σ
  | .ingest devices => n.input i (.ingest devices)
  | .teardown => n.teardown i
  | .close connection => { n with kernel := n.transport.close connection n.kernel }
  | .wait _ => n

def move (n : Node σ) (i : Nat) (move : Link.Move) : Node σ :=
  match (n.link? i).bind (·.step move) with
  | none => n
  | some (l, effects) => effects.foldl (fun n e => n.effect i e) (n.setLink i l)

def receiverMove? (n : Node σ) (r : Link.Receiver) : Option (Link.Move × σ) :=
  if r.holding.isSome then some (.handedOn r.epoch, n.kernel)
  else if n.transport.hasTraffic r.connection n.kernel && !r.stopAsked then
    let (arrival, kernel) := n.transport.receive r.connection n.kernel
    some (.received r.epoch arrival, kernel)
  else if r.stopAsked then some (.received r.epoch .silence, n.kernel)
  else none

/-- What a monitor's link does next by itself, with the kernel after its answer. Nothing if it waits
for something to happen. -/
def nextMove? (n : Node σ) (i : Nat) (l : Link) : Option (Link.Move × σ) :=
  match l.phase with
  | .dialing =>
    let (connection, kernel) := n.transport.dial i n.kernel
    some (.dialed connection, kernel)
  | .dumping c =>
    let (devices, kernel) := n.transport.dump c n.kernel
    some (.dumped devices, kernel)
  | .priming _ _ => some (.primed, n.kernel)
  | .joining c =>
    let (ok, kernel) := n.transport.join c n.kernel
    some (.joined ok, kernel)
  | .stopping _ => some (.tornDown, n.kernel)
  | .dismissing _ => some (.dismissed, n.kernel)
  | .streaming _ =>
    if l.signals.isEmpty then l.receivers.findSome? n.receiverMove? else some (.woken, n.kernel)
  | .redialing _ =>
    if !l.signals.isEmpty then some (.woken, n.kernel)
    else if n.pace.redials && n.transport.canDial i n.kernel then some (.waited, n.kernel)
    else none
  | .leaving =>
    match l.receivers.findSome? n.receiverMove? with
    | some next => some next
    | none => some (.left, n.kernel)
  | .stopped => none

def settleFor : Nat → Node σ → Nat → Node σ
  | 0, n, _ => n
  | budget + 1, n, i =>
    match (n.link? i).bind (n.nextMove? i) with
    | none => n
    | some (m, kernel) => settleFor budget (move { n with kernel := kernel } i m) i

/-- Each dial and each arrival takes fewer than eight moves. -/
def settle (n : Node σ) (i : Nat) : Node σ :=
  settleFor (8 * n.transport.remaining n.kernel + 32) n i

def redialWait? (n : Node σ) (i : Nat) : Option Span :=
  match n.link? i with
  | some ⟨.redialing wait, _, _, _, _⟩ =>
    if n.transport.canDial i n.kernel then some wait else none
  | _ => none

def redial (n : Node σ) (i : Nat) : Node σ := (n.move i .waited).settle i

def nextRedial? (n : Node σ) : Option Nat :=
  let waits := (List.range n.members.length).filterMap fun i => (n.redialWait? i).map (i, ·)
  (waits.foldl
    (fun (best : Option (Nat × Span)) w =>
      match best with
      | some b => if w.2.nanos < b.2.nanos then some w else some b
      | none => some w)
    none).map (·.1)

def countdownOwner (episode : Nat) : Countdown.Owner Monitor where
  cancelled m := !m.owns episode
  advance m offset := m.extrapolate episode offset

def runCountdown (n : Node σ) (i : Nat) : Node σ :=
  match n.members[i]? with
  | none => n
  | some member =>
    match member.monitor.episode with
    | none => n
    | some episode =>
      let countdown := Countdown.ofDrift n.timing member.monitor.drift
      let (monitor, outcome) := countdown.run (countdownOwner episode) member.monitor
      (n.modifyMember i ({ · with monitor := monitor })).input i (.finish episode outcome)

def settleCountdowns (n : Node σ) : Node σ :=
  (List.range n.members.length).foldl
    (fun n i =>
      match n.members[i]? with
      | none => n
      | some member =>
        if n.pace.countdowns || member.monitor.drift.timer == 0 then n.runCountdown i else n)
    n

def resolve (n : Node σ) (i : Nat) : Backend × Node σ :=
  match n.living? i with
  | none => (.absent, n)
  | some member =>
    let (backend, kernel) := Backend.resolve n.files n.timing.statusRoot
      member.monitor.settings.interface (n.transport.probe i) n.kernel
    (backend, input { n with kernel := kernel } i (.resolved backend))

def subscribe (n : Node σ) (i : Nat) : Node σ :=
  match n.living? i with
  | none => n
  | some member =>
    member.monitor.settings.dependsOn.foldl
      (fun n source =>
        { n with
          sources := n.sources.register source
          subscriptions :=
            Subscriptions.register n.subscriptions ⟨source, member.monitor.id, .dependency i⟩ })
      n

def bind (n : Node σ) (i : Nat) (profile : Profile) : Node σ :=
  match n.living? i with
  | none => n
  | some member =>
    let n := n.input i (.bind profile)
    { n with
      subscriptions :=
        Subscriptions.register n.subscriptions ⟨.monitoring, member.monitor.id, .activation i⟩ }

def poll (n : Node σ) (i : Nat) : Node σ :=
  match n.living? i with
  | none => n
  | some member =>
    n.input i (.sample (StatusFiles.read n.files n.timing.statusRoot
      member.monitor.settings.interface))

def schedule (t : Timing) : Redial.Schedule := .doubling t.redialSpan t.redialMaxSpan

/-- Workers are named after their interface, and no name can hold a NUL. -/
def canName (interface : String) : Bool := !interface.contains '\x00'

/-- Starts a monitor's worker, unless it runs already, and answers whether one runs. A worker that
cannot be named takes the whole node down. -/
def start (n : Node σ) (i : Nat) : Bool × Node σ :=
  match n.living? i with
  | none => (false, n)
  | some member =>
    if member.monitor.stopping then (false, n)
    else if member.worker.isSome then (true, n)
    else if member.monitor.backend == .absent then (false, n)
    else if !canName member.monitor.settings.interface then (false, { n with crashed := true })
    else
      match member.monitor.backend with
      | .absent => (false, n)
      | .sysfs =>
        let n := n.modifyMember i ({ · with worker := some .files })
        (true, (n.input i .activate).poll i)
      | .netlink =>
        let n := n.setLink i (.start (schedule n.timing))
        (true, (n.input i .activate).settle i)

/-- A state change reaches one monitor. It goes into the shared table first, unless the monitor has
not begun. -/
def notify (n : Node σ) (i : Nat) (source : Source) (state : SyncState) : Node σ :=
  match n.living? i with
  | none => n
  | some member =>
    if member.monitor.monitoring then
      input { n with sources := (n.sources.update source state).2 } i (.notify source state)
    else n

def publish (n : Node σ) (source : Source) (state : SyncState) : Nat × Node σ :=
  let targets := Subscriptions.matching n.subscriptions source
  (targets.length,
    targets.foldl
      (fun n s =>
        match s.target with
        | .dependency i => n.notify i source state
        | .activation _ => n)
      n)

def startAll (n : Node σ) : Nat × Node σ :=
  let targets := Subscriptions.matching n.subscriptions .monitoring
  (targets.length,
    targets.foldl
      (fun n s =>
        match s.target with
        | .dependency _ => n
        | .activation i => (n.start i).2)
      n)

def stop (n : Node σ) (i : Nat) : Node σ :=
  let n := n.input i .beginStop
  let n := match n.link? i with
    | some _ => (n.move i .stopAsked).settle i
    | none => n
  (n.modifyMember i ({ · with worker := none })).teardown i

/-- The owner of a monitor lets go of it without stopping it. -/
def release (n : Node σ) (i : Nat) : Node σ := n.modifyMember i ({ · with released := true })

end Node

end DpllWatch
