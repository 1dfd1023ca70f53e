import DpllWatch.Netlink.Device
import DpllWatch.Redial

/-! The netlink link of a monitor: it connects, takes over a dump of all devices, joins the group of
change notices and hands the connection to a receiver; when the receiver ends it waits and connects
again. The link and its receivers run side by side and meet in a queue of signals. Whatever can
happen next is a move, so that every order of events is a list of moves. -/

namespace DpllWatch

abbrev ConnectionId := Nat

namespace Link

inductive Signal where
  | stop
  | receiverExited (epoch : Nat)
deriving DecidableEq, Repr

/-- What the link is doing. `dismissing` has ended monitoring and has yet to ask its receiver to end;
`leaving` waits for the receivers after that. -/
inductive Phase where
  | dialing
  | dumping (connection : ConnectionId)
  | priming (connection : ConnectionId) (devices : List Netlink.Device)
  | joining (connection : ConnectionId)
  | streaming (epoch : Nat)
  | redialing (wait : Span)
  | stopping (epoch : Option Nat)
  | dismissing (epoch : Nat)
  | leaving
  | stopped
deriving DecidableEq, Repr

/-- A receiver owns a connection. `holding` is a batch that it has received and not handed on. -/
structure Receiver where
  epoch : Nat
  connection : ConnectionId
  holding : Option (List Netlink.Device)
  stopAsked : Bool
deriving DecidableEq, Repr

inductive Arrival where
  | batch (devices : List Netlink.Device)
  | silence
  | failure
deriving DecidableEq, Repr

end Link

/-- `epoch` counts the connections that were handed to receivers. -/
structure Link where
  phase : Link.Phase
  signals : List Link.Signal
  epoch : Nat
  schedule : Redial.Schedule
  receivers : List Link.Receiver
deriving DecidableEq, Repr

namespace Link

/-- What can happen next. Answers of the kernel come with the move: `none` and `false` are
failures. -/
inductive Move where
  | dialed (connection : Option ConnectionId)
  | dumped (devices : Option (List Netlink.Device))
  | primed
  | joined (ok : Bool)
  | received (epoch : Nat) (arrival : Arrival)
  | handedOn (epoch : Nat)
  | woken
  | waited
  | stopAsked
  | tornDown
  | dismissed
  | left
deriving DecidableEq, Repr

inductive Effect where
  | ingest (devices : List Netlink.Device)
  | teardown
  | close (connection : ConnectionId)
  | wait (span : Span)
deriving DecidableEq, Repr

def start (schedule : Redial.Schedule) : Link := ⟨.dialing, [], 0, schedule, []⟩

def redial (l : Link) : Link × List Effect :=
  match l.schedule.draw with
  | (some wait, schedule) =>
    ({ l with phase := .redialing wait, schedule := schedule }, [.wait wait])
  | (none, schedule) => ({ l with phase := .stopped, schedule := schedule }, [])

def abandon (l : Link) (connection : ConnectionId) : Link × List Effect :=
  let (l, effects) := l.redial
  (l, .close connection :: effects)

def receiver? (l : Link) (epoch : Nat) : Option Receiver :=
  l.receivers.find? (·.epoch == epoch)

def setReceiver (l : Link) (r : Receiver) : Link :=
  { l with receivers := l.receivers.map fun other => if other.epoch = r.epoch then r else other }

def exit (l : Link) (r : Receiver) : Link × List Effect :=
  ({ l with
      receivers := l.receivers.filter (·.epoch != r.epoch)
      signals := l.signals ++ [.receiverExited r.epoch] },
    [.close r.connection])

def loop (l : Link) (r : Receiver) : Link × List Effect :=
  if r.stopAsked then l.exit r else (l.setReceiver r, [])

def receive (l : Link) (r : Receiver) : Arrival → Link × List Effect
  | .batch devices => (l.setReceiver { r with holding := some devices }, [])
  | .silence => l.loop r
  | .failure => l.exit r

def askReceiver (l : Link) (epoch : Nat) : Link :=
  { l with
    receivers := l.receivers.map fun r =>
      if r.epoch = epoch then { r with stopAsked := true } else r }

/-- The link takes a signal that it waited for. While it streams, the exit of its own receiver makes
it redial and the exit of an earlier one is ignored; while it waits to redial, any exit ends
the wait. -/
def take (l : Link) (signal : Signal) : Option (Link × List Effect) :=
  match l.phase, signal with
  | .streaming epoch, .receiverExited exited => some (if exited = epoch then l.redial else (l, []))
  | .streaming epoch, .stop => some ({ l with phase := .stopping (some epoch) }, [])
  | .redialing _, .receiverExited _ => some ({ l with phase := .dialing }, [])
  | .redialing _, .stop => some ({ l with phase := .stopping none }, [])
  | _, _ => none

/-- One move, or nothing if the link cannot make it now. A wait runs out only if no signal is
there. -/
def step (l : Link) (move : Move) : Option (Link × List Effect) :=
  match move, l.phase with
  | .dialed none, .dialing => some l.redial
  | .dialed (some c), .dialing => some ({ l with phase := .dumping c }, [])
  | .dumped none, .dumping c => some (l.abandon c)
  | .dumped (some devices), .dumping c => some ({ l with phase := .priming c devices }, [])
  | .primed, .priming c devices => some ({ l with phase := .joining c }, [.ingest devices])
  | .joined false, .joining c => some (l.abandon c)
  | .joined true, .joining c =>
    let epoch := l.epoch + 1
    some ({ l with
      phase := .streaming epoch
      epoch := epoch
      schedule := l.schedule.reset
      receivers := l.receivers ++ [⟨epoch, c, none, false⟩] }, [])
  | .received epoch arrival, _ =>
    match l.receiver? epoch with
    | some r => if r.holding.isSome then none else some (l.receive r arrival)
    | none => none
  | .handedOn epoch, _ =>
    match l.receiver? epoch with
    | some r =>
      r.holding.map fun devices =>
        let (l, effects) := l.loop { r with holding := none }
        (l, .ingest devices :: effects)
    | none => none
  | .woken, _ =>
    match l.signals with
    | signal :: rest => take { l with signals := rest } signal
    | [] => none
  | .waited, .redialing _ =>
    if l.signals.isEmpty then some ({ l with phase := .dialing }, []) else none
  | .stopAsked, _ => some ({ l with signals := l.signals ++ [.stop] }, [])
  | .tornDown, .stopping none => some ({ l with phase := .leaving }, [.teardown])
  | .tornDown, .stopping (some epoch) =>
    some ({ l with phase := .dismissing epoch }, [.teardown])
  | .dismissed, .dismissing epoch =>
    some (askReceiver { l with phase := .leaving } epoch, [])
  | .left, .leaving => if l.receivers.isEmpty then some ({ l with phase := .stopped }, []) else none
  | _, _ => none

def run (l : Link) : List Move → Option (Link × List Effect)
  | [] => some (l, [])
  | move :: rest => do
    let (l, effects) ← l.step move
    let (l, later) ← run l rest
    return (l, effects ++ later)

end Link

/-- The other end of a link: how a state of the kernel answers. `caller` is the number of the
monitor that dials. -/
structure Transport (σ : Type) where
  probe : (caller : Nat) → σ → Bool × σ
  dial : (caller : Nat) → σ → Option ConnectionId × σ
  dump : ConnectionId → σ → Option (List Netlink.Device) × σ
  join : ConnectionId → σ → Bool × σ
  receive : ConnectionId → σ → Link.Arrival × σ
  close : ConnectionId → σ → σ
  /-- Whether there is traffic or a failure to receive. -/
  hasTraffic : ConnectionId → σ → Bool
  /-- Whether dialing again could ever do anything new. -/
  canDial : (caller : Nat) → σ → Bool
  /-- A bound on the dials and arrivals that are still to come. -/
  remaining : σ → Nat

end DpllWatch
