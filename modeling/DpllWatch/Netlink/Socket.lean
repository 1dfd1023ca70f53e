import DpllWatch.Link
import DpllWatch.Netlink.Family

/-! Netlink connections over sockets. A socket follows a script that says how each call on it turns
out; every call is accounted for. -/

namespace DpllWatch.Netlink

inductive Datagram where
  | data (bytes : Bytes)
  | failure (errno : Nat)
  | closed
deriving DecidableEq, Repr

/-- Outcomes of the calls on one socket; zero is success. A missing send outcome is success, and
when no datagram is left a receive call times out. -/
structure SocketScript where
  openErrno : Nat
  bindErrno : Nat
  timeoutErrno : Nat
  membershipErrno : Nat
  sendErrnos : List Nat
  datagrams : List Datagram
deriving DecidableEq, Repr

inductive SocketCall where
  | socket (domain kind protocol : Nat)
  | bind (address : Bytes)
  | setOption (level name : Nat) (value : Bytes)
  | send (data : Bytes) (flags : Nat)
  | receive (size flags : Nat)
deriving DecidableEq, Repr

inductive SocketError where
  | openFailed (errno : Nat)
  | bindFailed (errno : Nat)
  | timeoutNotSet (errno : Nat)
  | sendFailed (errno : Nat)
  | receiveFailed (errno : Nat)
  | closed
  | familyTimeout
  | familyUndecodable (cause : DecodeError)
  | dumpTimeout
  | undecodable (cause : DecodeError)
  | noGroup
  | notJoined (group : UInt32) (errno : Nat)
deriving DecidableEq, Repr

def familyName : String := "dpll"

def groupName : String := "monitor"

namespace SocketError

def layers : SocketError → List String
  | openFailed errno => ["failed to open generic netlink socket", Errno.named errno]
  | bindFailed errno => ["failed to bind netlink socket", Errno.named errno]
  | timeoutNotSet errno => ["failed to set netlink receive timeout", Errno.named errno]
  | sendFailed errno => ["netlink send failed", Errno.named errno]
  | receiveFailed errno => ["netlink receive failed", Errno.named errno]
  | closed => ["netlink socket closed"]
  | familyTimeout => ["timed out resolving " ++ familyName ++ " family"]
  | familyUndecodable cause => ["failed to resolve dpll family", cause.message]
  | dumpTimeout => ["timed out waiting for dpll device dump"]
  | undecodable cause => [cause.message]
  | noGroup => ["multicast group " ++ groupName ++ " not found"]
  | notJoined group errno =>
    ["failed to join multicast group " ++ toString group.toNat, Errno.named errno]

end SocketError

namespace Datagram

def bufferSize : Nat := 65536

def isSilence (errno : Nat) : Bool := errno == 11 || errno == 4

/-- What a receive call returns. What does not fit the buffer is lost; no bytes at all mean that the
other end has closed. -/
def arrive : Datagram → Except SocketError (Option Bytes)
  | data bytes => if bytes.isEmpty then .error .closed else .ok (some (bytes.take bufferSize))
  | failure errno => if isSilence errno then .ok none else .error (.receiveFailed errno)
  | closed => .error .closed

end Datagram

def awaitFamily : List Datagram → Except SocketError Family × List Datagram × Nat
  | [] => (.error .familyTimeout, [], 1)
  | d :: rest =>
    match d.arrive with
    | .error e => (.error e, rest, 1)
    | .ok none => (.error .familyTimeout, rest, 1)
    | .ok (some bytes) =>
      match Family.decode bytes with
      | .error e => (.error (.familyUndecodable e), rest, 1)
      | .ok (some family) => (.ok family, rest, 1)
      | .ok none =>
        let (result, rest, calls) := awaitFamily rest
        (result, rest, calls + 1)

def collectDump (family : UInt16) :
    List Datagram → Except SocketError (List Device) × List Datagram × Nat
  | [] => (.error .dumpTimeout, [], 1)
  | d :: rest =>
    match d.arrive with
    | .error e => (.error e, rest, 1)
    | .ok none => (.error .dumpTimeout, rest, 1)
    | .ok (some bytes) =>
      match Batch.decode bytes family with
      | .error e => (.error (.undecodable e), rest, 1)
      | .ok batch =>
        if batch.done then (.ok batch.devices, rest, 1)
        else
          let (result, rest, calls) := collectDump family rest
          (result.map (batch.devices ++ ·), rest, calls + 1)

structure Connection where
  script : SocketScript
  sequence : UInt32
  family : Family
deriving DecidableEq, Repr

structure Sockets where
  scripts : List SocketScript
  calls : List SocketCall
deriving DecidableEq, Repr

namespace Sockets

def ofScripts (scripts : List SocketScript) : Sockets := ⟨scripts, []⟩

def log (s : Sockets) (calls : List SocketCall) : Sockets := { s with calls := s.calls ++ calls }

end Sockets

namespace Connection

def receiveCall : SocketCall := .receive Datagram.bufferSize 0

def timeoutValue (timeout : Span) : Bytes :=
  Bytes.ofNat 8 timeout.seconds ++ Bytes.ofNat 8 (timeout.subsecNanos / 1000)

def openCalls (timeout : Span) : List SocketCall :=
  [.socket 16 0x80003 16, .bind (Bytes.ofNat 2 16 ++ List.replicate 10 0),
    .setOption 1 20 (timeoutValue timeout)]

def requestFlag : UInt16 := 1

def dumpFlags : UInt16 := 0x301

def familyRequest : Request where
  family := Family.controllerId
  flags := requestFlag
  sequence := 1
  command := 3
  version := 1
  attributes := [⟨Family.familyNameKind, Text.Utf8.encode familyName.toList ++ [0]⟩]

def sendOutcome (script : SocketScript) : Nat × SocketScript :=
  (script.sendErrnos.headD 0, { script with sendErrnos := script.sendErrnos.tail })

def dial (timeout : Span) (s : Sockets) : Except SocketError Connection × Sockets :=
  let calls := openCalls timeout
  match s.scripts with
  | [] => (.error (.openFailed 93), s.log (calls.take 1))
  | script :: rest =>
    let s := { s with scripts := rest }
    if script.openErrno ≠ 0 then (.error (.openFailed script.openErrno), s.log (calls.take 1))
    else if script.bindErrno ≠ 0 then
      (.error (.bindFailed script.bindErrno), s.log (calls.take 2))
    else if script.timeoutErrno ≠ 0 then
      (.error (.timeoutNotSet script.timeoutErrno), s.log calls)
    else
      let s := s.log (calls ++ [.send familyRequest.encode 0])
      let (errno, script) := sendOutcome script
      if errno ≠ 0 then (.error (.sendFailed errno), s)
      else
        let (result, datagrams, receives) := awaitFamily script.datagrams
        (result.map fun family => ⟨{ script with datagrams := datagrams }, 1, family⟩,
          s.log (List.replicate receives receiveCall))

def dumpRequest (c : Connection) : Request where
  family := c.family.id
  flags := dumpFlags
  sequence := c.sequence + 1
  command := getCommand
  version := 1
  attributes := []

def dump (c : Connection) (s : Sockets) :
    Except SocketError (List Device) × Connection × Sockets :=
  let s := s.log [.send c.dumpRequest.encode 0]
  let (errno, script) := sendOutcome c.script
  let c := { c with script := script, sequence := c.sequence + 1 }
  if errno ≠ 0 then (.error (.sendFailed errno), c, s)
  else
    let (result, datagrams, receives) := collectDump c.family.id c.script.datagrams
    (result, { c with script := { c.script with datagrams := datagrams } },
      s.log (List.replicate receives receiveCall))

def join (c : Connection) (s : Sockets) : Except SocketError Unit × Sockets :=
  match c.family.groups.get? groupName with
  | none => (.error .noGroup, s)
  | some group =>
    let s := s.log [.setOption 270 1 (Bytes.ofNat 4 group.toNat)]
    if c.script.membershipErrno ≠ 0 then (.error (.notJoined group c.script.membershipErrno), s)
    else (.ok (), s)

def receive (c : Connection) (s : Sockets) :
    Except SocketError (Option (List Device)) × Connection × Sockets :=
  let s := s.log [receiveCall]
  match c.script.datagrams with
  | [] => (.ok none, c, s)
  | d :: rest =>
    let c := { c with script := { c.script with datagrams := rest } }
    match d.arrive with
    | .error e => (.error e, c, s)
    | .ok none => (.ok none, c, s)
    | .ok (some bytes) =>
      match Batch.decode bytes c.family.id with
      | .error e => (.error (.undecodable e), c, s)
      | .ok batch => (.ok (some batch.devices), c, s)

end Connection

end DpllWatch.Netlink
