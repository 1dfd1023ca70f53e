import DpllWatch.ClockId
import DpllWatch.Daemon.CommandLine
import DpllWatch.Node
import DpllWatch.Settings.Document
import DpllWatch.Text.Fault

/-! The daemon: it sets up a monitor for each interface, starts them together, tends them, and stops
them in order. Whatever it lets others see is an act. -/

namespace DpllWatch

namespace Daemon

inductive Level where
  | info
  | warning
  | error
deriving DecidableEq, Repr

def Level.name : Level → String
  | info => "INFO"
  | warning => "WARN"
  | error => "ERROR"

inductive Act where
  | print (line : String)
  | log (level : Level) (message : String)
  | report (report : Report)
  | notice (datagram : String)
  | fail (layers : List String)
deriving DecidableEq, Repr

def Act.isReport : Act → Bool
  | .report _ => true
  | _ => false

inductive Manager where
  | absent
  | listening
  | unreachable
deriving DecidableEq, Repr

/-- What the daemon finds where it runs. `locked` says that another instance holds the lock. -/
structure Host (σ : Type) where
  files : FileTree
  locked : Bool
  manager : Manager
  transport : Transport σ
  kernel : (receiveTimeout : Span) → σ

end Daemon

structure Daemon (σ : Type) where
  node : Node σ
  manager : Daemon.Manager
  queueDepth : Nat
  logJson : Bool

namespace Daemon

variable {σ : Type}

def lockPath : String := "/var/run/dpllsync.lock"

def notice (manager : Manager) (state : String) : List Act :=
  match manager with
  | .absent => []
  | .listening => [.notice (state ++ "=1\n")]
  | .unreachable =>
    [.log .warning ("systemd notification failed: " ++ FileError.notFound.message)]

/-- The depth of a queue whose consumer keeps up: only a queue without any room ever refuses. -/
def attendedDepth (depth : Nat) : Nat := if depth = 0 then 0 else UInt64.size

def emptyNode (host : Host σ) (timing : Timing) : Node σ where
  transport := host.transport
  kernel := host.kernel timing.receiveSpan
  files := host.files
  timing := timing
  pace := ⟨false, false⟩
  members := []
  subscriptions := []
  sources := .empty
  queues := [.bounded (attendedDepth timing.queueDepth.toNat)]
  crashed := false

def setUp (profile : Profile) :
    Node σ → List Settings → List Act × Except (List String) (Node σ)
  | n, [] => ([], .ok n)
  | n, settings :: rest =>
    match Monitor.create settings with
    | .error e =>
      ([], .error (("Failed to set up DPLL monitor for " ++ settings.interface) :: e.layers))
    | .ok monitor =>
      let i := n.members.length
      let (backend, n) := (n.add monitor 0).resolve i
      let (acts, result) := setUp profile ((n.subscribe i).bind i profile) rest
      (.log .info (settings.interface ++ ": using " ++ backend.name ++ " backend") :: acts, result)

def collect (n : Node σ) : List Act × Node σ :=
  match n.queues with
  | [] => ([], n)
  | queue :: rest =>
    let (reports, queue) := queue.drain none
    (reports.map .report, { n with queues := queue :: rest })

def settingsFor (host : Host σ) (o : CommandLine.Options) :
    Except (List String) DaemonSettings :=
  match DaemonSettings.load host.files o.config with
  | .error e => .error e.layers
  | .ok d =>
    let d := if o.interfaces.isEmpty then d else { d with interfaces := o.interfaces }
    if d.interfaces.isEmpty then .error ["No interfaces configured in " ++ o.config] else .ok d

def foundClockId (interface : String) (id : UInt64) : Act :=
  .log .info (interface ++ ": clock id 0x" ++ String.ofList (Text.hex id.toNat) ++
    " derived from PCI device serial number")

inductive Failure where
  | fault (layers : List String)
  | crash
deriving DecidableEq, Repr

namespace Failure

def acts : Failure → List Act
  | fault layers => [.fail layers]
  | crash => []

def status : Failure → Nat
  | fault _ => 1
  | crash => 101

end Failure

def launch (host : Host σ) (o : CommandLine.Options) : List Act × Except Failure (Daemon σ) :=
  match settingsFor host o with
  | .error e => ([], .error (.fault e))
  | .ok d =>
    let lookup := ClockId.ofDevice host.files d.timing.statusRoot
    let (asked, result) := d.configure lookup
    let found := asked.filterMap fun interface =>
      (lookup interface).toOption.map (foundClockId interface)
    match result with
    | .error e => (found, .error (.fault (e.layers ClockId.Error.layers)))
    | .ok settings =>
      let depth := d.timing.queueDepth.toNat
      if EventQueue.maxDepth < depth then (found, .error .crash)
      else
        match setUp d.profile (emptyNode host d.timing) settings with
        | (acts, .error e) => (found ++ acts, .error (.fault e))
        | (acts, .ok n) =>
          let (started, n) := n.startAll
          if n.crashed then (found ++ acts, .error .crash)
          else
            let (reports, n) := collect n
            let summary := Act.log .info ("Started DPLL monitoring on " ++ toString started ++
              " of " ++ toString settings.length ++ " interface(s)")
            (found ++ acts ++ [summary] ++ notice host.manager "READY" ++ reports,
              .ok ⟨n, host.manager, depth, o.logJson⟩)

def tend (d : Daemon σ) (files : FileTree) : List Act × Daemon σ :=
  let n := { d.node with files := files }
  let n := (List.range n.members.length).foldl
    (fun n i => if (n.members[i]?).any (·.worker = some .files) then n.poll i else n) n
  let (reports, n) := collect n
  (reports, { d with node := n })

def shutDown (d : Daemon σ) : List Act :=
  let n := { d.node with queues := [.bounded d.queueDepth] }
  let n := (List.range n.members.length).foldl (fun n i => n.stop i) n
  [.log .info "Ctrl+C received. Shutting down..."] ++ notice d.manager "STOPPING" ++
    (collect n).1 ++ [.log .info "Exiting."]

def tendFor : Nat → Daemon σ → List Act × Daemon σ
  | 0, d => ([], d)
  | rounds + 1, d =>
    let (acts, d) := d.tend d.node.files
    let (later, d) := tendFor rounds d
    (acts ++ later, d)

/-- Lets links redial, the shortest wait first, until enough reports wait in the queue or no link
could do anything new. -/
def awaitReports (wanted : Nat) : Nat → Node σ → Node σ
  | 0, n => n
  | budget + 1, n =>
    if n.queues.any fun q => wanted ≤ q.waiting.length then n
    else
      match n.nextRedial? with
      | some i => awaitReports wanted budget (n.redial i)
      | none => n

def await (d : Daemon σ) (wanted : Nat) : List Act × Daemon σ :=
  let budget := d.node.transport.remaining d.node.kernel
  let (reports, n) := collect (awaitReports wanted budget d.node)
  (reports, { d with node := n })

structure Session where
  acts : List Act
  status : Nat
  logJson : Bool
deriving DecidableEq, Repr

/-- A faulty command line is refused before anything else happens; help and the version are given
even when another instance runs. The daemon is interrupted after `rounds` further rounds, once it
has printed `wanted` reports. -/
def session (host : Host σ) (arguments : List String) (rounds wanted : Nat) : Session :=
  match CommandLine.parse arguments with
  | none => ⟨[], 2, false⟩
  | some .help => ⟨CommandLine.helpLines.map .print, 0, false⟩
  | some .version => ⟨[.print CommandLine.versionLine], 0, false⟩
  | some (.watch o) =>
    if host.locked then
      ⟨[.log .error ("Another instance of dpllsync is already running! (Lockfile: " ++ lockPath ++
        ")")], 1, o.logJson⟩
    else
      match launch host o with
      | (acts, .error failure) => ⟨acts ++ failure.acts, failure.status, o.logJson⟩
      | (acts, .ok d) =>
        let (reports, d) := d.tendFor rounds
        let acts := acts ++ reports
        let (reports, d) := d.await (wanted - acts.countP Act.isReport)
        ⟨acts ++ reports ++ d.shutDown, 0, o.logJson⟩

end Daemon

end DpllWatch
