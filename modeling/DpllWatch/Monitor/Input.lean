import DpllWatch.Countdown
import DpllWatch.Monitor
import DpllWatch.Netlink.Device

/-! What reaches a monitor: its life cycle, samples, notifications and the calls of countdowns. Each
input is taken as one step, which answers with the reports that the monitor offers. -/

namespace DpllWatch.Monitor

def bind (m : Monitor) (p : Profile) : Monitor := { m with profile := some p }

def activate (m : Monitor) : Bool × Monitor :=
  if m.stopping || m.backend == .absent then (false, m) else (true, { m with monitoring := true })

/-- The source's state, as far as the GNSS receiver is concerned. When it comes back, decisions look
at the sampled offset again and an earlier excess is forgotten. -/
def trackGnss (m : Monitor) (state : SyncState) : Monitor :=
  let lost := state != .locked
  { m with
    offset := if m.sourceLost && !lost then m.phaseOffset else m.offset
    rangeExceeded := m.rangeExceeded && lost
    sourceLost := lost }

def hear (m : Monitor) (source : Source) (state : SyncState) : Monitor :=
  let m := { m with lastSeen := m.lastSeen.set source state }
  if source = .gnss then m.trackGnss state else m

/-- A state change of a source. Repeated reports, and reports before monitoring begins,
change nothing. -/
def notify (m : Monitor) (source : Source) (state : SyncState) : Monitor × List Report :=
  if !m.monitoring then (m, [])
  else if m.lastSeen.get source = state then (m, [])
  else (m.hear source state).decide

def takeSample (m : Monitor) (s : Sample) : Monitor :=
  let m := match s.frequencyStatus with
    | some code => { m with frequency := .ofCode code.toInt }
    | none => m
  let m := match s.phaseStatus with
    | some code => { m with phase := .ofCode code.toInt }
    | none => m
  match s.phaseOffset with
  | some offset =>
    { m with phaseOffset := offset, offset := if m.sourceLost then m.offset else offset }
  | none => m

def sample (m : Monitor) (s : Sample) : Monitor × List Report := (m.takeSample s).decide

/-- Takes over one device message and tells whether it was about this clock. Messages with an
invalid status are passed over. The kernel reports no phase offset, so a phase message sets it
to zero. -/
def takeDevice (m : Monitor) (d : Netlink.Device) : Monitor × Bool :=
  if d.clockId ≠ m.settings.clockId ∨ d.status = .invalid then (m, false)
  else
    match d.kind with
    | .eec => ({ m with frequency := d.status }, true)
    | .pps =>
      ({ m with
          phase := d.status, phaseOffset := 0, offset := if m.sourceLost then m.offset else 0 },
        true)
    | .other _ => (m, false)

def takeDevices (m : Monitor) : List Netlink.Device → Monitor × Bool
  | [] => (m, false)
  | d :: rest =>
    let (m, concerns) := m.takeDevice d
    let (m, concerned) := takeDevices m rest
    (m, concerns || concerned)

/-- One decision follows the whole batch, if any message in it was about this clock. -/
def ingest (m : Monitor) (devices : List Netlink.Device) : Bool × Monitor × List Report :=
  let (m, concerned) := m.takeDevices devices
  if concerned then (true, m.decide) else (false, m, [])

/-- A countdown tells the offset that the clock may have reached; the answer is whether it goes on.
Only the owned countdown is listened to. -/
def extrapolate (m : Monitor) (episode : Nat) (offset : Int64) : Monitor × Bool :=
  if m.owns episode then
    ({ m with offset := offset }, (m.window?.map (·.contains offset)).getD false)
  else (m, false)

def conclude (m : Monitor) (outcome : Countdown.Outcome) : Monitor :=
  let m := { m with episode := none }
  match outcome with
  | .expired => { m with inSpec := false, state := .freeRun }
  | .cancelled => { m with inSpec := true }
  | .rangeExceeded => { m with rangeExceeded := true }

def finish (m : Monitor) (episode : Nat) (outcome : Countdown.Outcome) : Monitor × List Report :=
  if m.owns episode then
    let m := m.conclude outcome
    if m.stopping then (m, []) else m.decide
  else (m, [])

def beginStop (m : Monitor) : Monitor := { m with stopping := true }

/-- Ends monitoring, the first time it is asked to: the countdown is given up and consumers get a
reset report. -/
def teardown (m : Monitor) : Monitor × List Report :=
  if m.tornDown then (m, [])
  else
    let m := release { m with tornDown := true, stopping := true }
    ({ m with monitoring := false }, (m.profile.map m.resetReport).toList)

inductive Input where
  | resolved (backend : Backend)
  | bind (profile : Profile)
  | activate
  | notify (source : Source) (state : SyncState)
  | sample (sample : Sample)
  | ingest (devices : List Netlink.Device)
  | extrapolate (episode : Nat) (offset : Int64)
  | finish (episode : Nat) (outcome : Countdown.Outcome)
  | beginStop
  | teardown
deriving DecidableEq, Repr

def step (m : Monitor) : Input → Monitor × List Report
  | .resolved backend => ({ m with backend := backend }, [])
  | .bind profile => (m.bind profile, [])
  | .activate => (m.activate.2, [])
  | .notify source state => m.notify source state
  | .sample s => m.sample s
  | .ingest devices => (m.ingest devices).2
  | .extrapolate episode offset => ((m.extrapolate episode offset).1, [])
  | .finish episode outcome => m.finish episode outcome
  | .beginStop => (m.beginStop, [])
  | .teardown => m.teardown

/-- Whether an input asks for the offset window: to decide, or to tell whether a countdown goes on. -/
def consults (m : Monitor) : Input → Bool
  | .notify source state => m.monitoring && m.lastSeen.get source != state
  | .sample _ => true
  | .ingest devices => (m.takeDevices devices).2
  | .extrapolate episode _ => m.owns episode
  | .finish episode _ => m.owns episode && !m.stopping
  | .resolved _ | .bind _ | .activate | .beginStop | .teardown => false

/-- An input fails halfway when it asks for the offset window and none is in force. -/
def fails (m : Monitor) (input : Input) : Bool := m.consults input && m.window?.isNone

def run (m : Monitor) : List Input → Monitor × List Report
  | [] => (m, [])
  | input :: rest =>
    let (m, offered) := m.step input
    let (m, later) := run m rest
    (m, offered ++ later)

inductive Reachable : Monitor → Prop where
  | create {settings : Settings} {m : Monitor} : create settings = .ok m → Reachable m
  | step {m : Monitor} (input : Input) : Reachable m → Reachable (m.step input).1

end DpllWatch.Monitor
