import DpllWatch.Link

/-! A kernel that answers by script, one script for each monitor, and keeps account of how it was
called. -/

namespace DpllWatch.Link

inductive Stage where
  | dial
  | dump
  | join
deriving DecidableEq, Repr

structure Answer where
  devices : List Netlink.Device
  fails : Option Stage
deriving DecidableEq, Repr

inductive Call where
  | probe
  | dial
  | dump
  | join
  | receive
  | receiveFailed
  | close
deriving DecidableEq, Repr

def Call.name : Call → String
  | probe => "probe"
  | dial => "dial"
  | dump => "dump"
  | join => "join"
  | receive => "recv"
  | receiveFailed => "recv_error"
  | close => "close"

/-- The script of one monitor. Without a scripted probe, probing is dialing. When the answers are
used up, dialing succeeds and shows no devices. -/
structure Script where
  probe : Option Bool
  answers : List Answer
  calls : List Call
deriving DecidableEq, Repr

structure OpenConnection where
  id : ConnectionId
  caller : Nat
  answer : Answer
  inbox : List Arrival
deriving DecidableEq, Repr

structure ScriptedKernel where
  scripts : List Script
  connections : List OpenConnection
  nextId : ConnectionId
deriving DecidableEq, Repr

namespace ScriptedKernel

def ofScripts (scripts : List (Option Bool × List Answer)) : ScriptedKernel :=
  ⟨scripts.map fun s => ⟨s.1, s.2, []⟩, [], 0⟩

def log (k : ScriptedKernel) (caller : Nat) (call : Call) : ScriptedKernel :=
  { k with scripts := k.scripts.modify caller fun s => { s with calls := s.calls ++ [call] } }

def connection? (k : ScriptedKernel) (id : ConnectionId) : Option OpenConnection :=
  k.connections.find? (·.id == id)

def nextAnswer (k : ScriptedKernel) (caller : Nat) : Answer × ScriptedKernel :=
  match (k.scripts[caller]?).bind (·.answers.head?) with
  | none => (⟨[], none⟩, k)
  | some answer =>
    (answer,
      { k with scripts := k.scripts.modify caller fun s => { s with answers := s.answers.tail } })

def dial (caller : Nat) (k : ScriptedKernel) : Option ConnectionId × ScriptedKernel :=
  let (answer, k) := (k.log caller .dial).nextAnswer caller
  if answer.fails = some .dial then (none, k)
  else
    (some k.nextId,
      { k with
        connections := k.connections ++ [⟨k.nextId, caller, answer, []⟩]
        nextId := k.nextId + 1 })

def close (id : ConnectionId) (k : ScriptedKernel) : ScriptedKernel :=
  match k.connection? id with
  | none => k
  | some c => { k.log c.caller .close with connections := k.connections.filter (·.id != id) }

def probe (caller : Nat) (k : ScriptedKernel) : Bool × ScriptedKernel :=
  match (k.scripts[caller]?).bind (·.probe) with
  | some answer => (answer, k.log caller .probe)
  | none =>
    match dial caller k with
    | (none, k) => (false, k)
    | (some id, k) => (true, k.close id)

def dump (id : ConnectionId) (k : ScriptedKernel) :
    Option (List Netlink.Device) × ScriptedKernel :=
  match k.connection? id with
  | none => (none, k)
  | some c =>
    (if c.answer.fails = some .dump then none else some c.answer.devices, k.log c.caller .dump)

def join (id : ConnectionId) (k : ScriptedKernel) : Bool × ScriptedKernel :=
  match k.connection? id with
  | none => (false, k)
  | some c => (c.answer.fails != some .join, k.log c.caller .join)

def setInbox (k : ScriptedKernel) (id : ConnectionId) (inbox : List Arrival) : ScriptedKernel :=
  { k with
    connections := k.connections.map fun c => if c.id = id then { c with inbox := inbox } else c }

def receive (id : ConnectionId) (k : ScriptedKernel) : Arrival × ScriptedKernel :=
  match k.connection? id with
  | none => (.failure, k)
  | some c =>
    match c.inbox with
    | [] => (.silence, k)
    | arrival :: rest =>
      let k := k.setInbox id rest
      match arrival with
      | .batch _ => (arrival, k.log c.caller .receive)
      | .silence => (arrival, k)
      | .failure => (arrival, k.log c.caller .receiveFailed)

def push (caller : Nat) (arrival : Arrival) (k : ScriptedKernel) : ScriptedKernel :=
  { k with
    connections := k.connections.map fun c =>
      if c.caller = caller then { c with inbox := c.inbox ++ [arrival] } else c }

def takeCalls (caller : Nat) (k : ScriptedKernel) : List Call × ScriptedKernel :=
  (((k.scripts[caller]?).map (·.calls)).getD [],
    { k with scripts := k.scripts.modify caller fun s => { s with calls := [] } })

def transport : Transport ScriptedKernel where
  probe := probe
  dial := dial
  dump := dump
  join := join
  receive := receive
  close := close
  hasTraffic id k := ((k.connection? id).map fun c => !c.inbox.isEmpty).getD false
  canDial _ _ := true
  remaining k :=
    k.scripts.length + (k.scripts.flatMap (·.answers)).length +
      (k.connections.flatMap (·.inbox)).length

end ScriptedKernel

end DpllWatch.Link
