import DpllWatch.Netlink.Socket

/-! The kernel as links see it over sockets. -/

namespace DpllWatch.Netlink

structure SocketKernel where
  timeout : Span
  sockets : Sockets
  connections : List (ConnectionId × Connection)
  nextId : ConnectionId

namespace SocketKernel

def ofScripts (timeout : Span) (scripts : List SocketScript) : SocketKernel :=
  ⟨timeout, .ofScripts scripts, [], 0⟩

def dial (_ : Nat) (k : SocketKernel) : Option ConnectionId × SocketKernel :=
  match Connection.dial k.timeout k.sockets with
  | (.error _, sockets) => (none, { k with sockets := sockets })
  | (.ok c, sockets) =>
    (some k.nextId,
      { k with
        sockets := sockets
        connections := (k.nextId, c) :: k.connections
        nextId := k.nextId + 1 })

def close (id : ConnectionId) (k : SocketKernel) : SocketKernel :=
  { k with connections := k.connections.filter (·.1 != id) }

def probe (caller : Nat) (k : SocketKernel) : Bool × SocketKernel :=
  match dial caller k with
  | (none, k) => (false, k)
  | (some id, k) => (true, k.close id)

def setConnection (k : SocketKernel) (id : ConnectionId) (c : Connection) : SocketKernel :=
  { k with connections := k.connections.map fun entry => if entry.1 = id then (id, c) else entry }

def dump (id : ConnectionId) (k : SocketKernel) : Option (List Device) × SocketKernel :=
  match k.connections.lookup id with
  | none => (none, k)
  | some c =>
    let (result, c, sockets) := c.dump k.sockets
    (result.toOption, { k with sockets := sockets }.setConnection id c)

def join (id : ConnectionId) (k : SocketKernel) : Bool × SocketKernel :=
  match k.connections.lookup id with
  | none => (false, k)
  | some c =>
    let (result, sockets) := c.join k.sockets
    (result.isOk, { k with sockets := sockets })

def receive (id : ConnectionId) (k : SocketKernel) : Link.Arrival × SocketKernel :=
  match k.connections.lookup id with
  | none => (.failure, k)
  | some c =>
    let (result, c, sockets) := c.receive k.sockets
    let k := { k with sockets := sockets }.setConnection id c
    match result with
    | .error _ => (.failure, k)
    | .ok none => (.silence, k)
    | .ok (some devices) => (.batch devices, k)

def transport : Transport SocketKernel where
  probe := probe
  dial := dial
  dump := dump
  join := join
  receive := receive
  close := close
  hasTraffic id k :=
    ((k.connections.lookup id).map fun c => !c.script.datagrams.isEmpty).getD false
  canDial _ k := !k.sockets.scripts.isEmpty
  remaining k :=
    k.sockets.scripts.length + (k.sockets.scripts.flatMap (·.datagrams)).length +
      (k.connections.flatMap (·.2.script.datagrams)).length

end SocketKernel

end DpllWatch.Netlink
