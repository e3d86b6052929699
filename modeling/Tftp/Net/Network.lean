import Tftp.Net.Host

/-!
# A simulated UDP network

The sockets of one host and the datagrams waiting in them, with time as a number of milliseconds
that only the caller moves forward. A datagram sent to a bound address is queued there at once; one
sent to an address nobody has bound is lost, as UDP loses it. Every queued datagram carries the
number of sends before it, so the oldest can be delivered first across sockets.

The network can be unreachable, as a host whose loopback interface is down: then every send fails
with `ENETUNREACH` and nothing ever arrives. A datagram longer than the 65535 bytes a UDP length
field can hold fails with `EMSGSIZE` before any route is looked up; over a reachable network so
does one longer than the 65507 bytes an IPv4 packet can carry.

Transfer sockets take ports counted up from 1024, the start of the registered range; a socket
bound to the unspecified address receives what is sent to any address at its port and sends from
the loopback address.
-/

namespace Tftp.Net

/-- A bound socket and the datagrams waiting in it, oldest first, each with the number of datagrams
sent before it. -/
structure Socket where
  addr : SocketAddr
  queue : List (Nat × Datagram) := []
  deriving Repr

/-- The sockets of a host and its clock. -/
structure Network where
  /-- Whether datagrams can be sent at all. -/
  reachable : Bool
  /-- Milliseconds since the start. -/
  now : Nat := 0
  sockets : List Socket := []
  /-- Datagrams sent so far. -/
  sent : Nat := 0
  /-- The next port tried for a transfer socket. -/
  nextPort : Nat := 1024
  deriving Repr

/-- The largest datagram a UDP length field can describe. -/
def udpLengthLimit : Nat := 65535

/-- The largest datagram an IPv4 packet can carry. -/
def ipv4PayloadLimit : Nat := 65507

/-- The lowest port handed out for transfer sockets. -/
def firstEphemeralPort : Nat := 1024

/-- Whether an address is the unspecified one of its family. -/
def IpAddr.isUnspecified : IpAddr → Bool
  | .v4 a b c d => a == 0 && b == 0 && c == 0 && d == 0
  | .v6 gs => gs.all (· == 0)

/-- Whether a socket bound to `bound` receives what is sent to `dst`. -/
def receivesAt (bound dst : SocketAddr) : Bool :=
  bound.port == dst.port && (bound.ip == dst.ip || bound.ip.isUnspecified)

/-- Whether two bindings claim the same port on overlapping addresses. -/
def overlaps (a b : SocketAddr) : Bool :=
  a.port == b.port && (a.ip == b.ip || a.ip.isUnspecified || b.ip.isUnspecified)

/-- The address a socket bound to `bound` sends from: the loopback address stands in for the
unspecified one. -/
def sourceOf (bound : SocketAddr) : SocketAddr :=
  if bound.ip.isUnspecified then .ofIp .localhost bound.port else bound

namespace Network

/-- An empty network, reachable or not. -/
def empty (reachable : Bool) : Network := { reachable }

/-- Whether an address is bound. -/
def isBound (n : Network) (addr : SocketAddr) : Bool :=
  n.sockets.any fun s => s.addr == addr

/-- Binds an address; fails if the port is taken on an overlapping address. -/
def bind (n : Network) (addr : SocketAddr) : Except Errno Network :=
  if n.sockets.any (fun s => overlaps s.addr addr) then .error .addressInUse
  else .ok { n with sockets := n.sockets ++ [{ addr }] }

/-- Binds a transfer socket on `ip` at the next free port, trying a few ports in turn. -/
def bindEphemeral (n : Network) (ip : IpAddr) : Option (Network × SocketAddr) :=
  let rec go : Nat → Nat → Option (Network × SocketAddr)
    | 0, _ => none
    | k + 1, port =>
      let port := if port > 65535 then firstEphemeralPort else port
      let addr := SocketAddr.ofIp ip port.toUInt16
      match n.bind addr with
      | .ok n => some ({ n with nextPort := port + 1 }, addr)
      | .error _ => go k (port + 1)
  go ephemeralTries n.nextPort

/-- Closes a socket; what waits in it is lost. -/
def close (n : Network) (addr : SocketAddr) : Network :=
  { n with sockets := n.sockets.filter fun s => s.addr != addr }

/-- Queues a datagram at the socket that receives at `dst`, if any. -/
def enqueue (sockets : List Socket) (dst : SocketAddr) (seq : Nat) (d : Datagram) :
    List Socket :=
  match sockets.findIdx? (fun s => receivesAt s.addr dst) with
  | some i => sockets.modify i fun s => { s with queue := s.queue ++ [(seq, d)] }
  | none => sockets

/-- Sends a datagram from the socket bound to `src`: the number of bytes sent, or why not. -/
def send (n : Network) (src dst : SocketAddr) (payload : List UInt8) :
    Network × Except Errno Nat :=
  if payload.length > udpLengthLimit then (n, .error .messageTooLong)
  else if !n.reachable then (n, .error .networkUnreachable)
  else if payload.length > ipv4PayloadLimit then (n, .error .messageTooLong)
  else
    let d : Datagram := { source := sourceOf src, payload }
    ({ n with sockets := enqueue n.sockets dst n.sent d, sent := n.sent + 1 }, .ok payload.length)

/-- The datagrams waiting at a socket, with their sequence numbers. -/
def queued (n : Network) (addr : SocketAddr) : List (Nat × Datagram) :=
  match n.sockets.find? (fun s => s.addr == addr) with
  | some s => s.queue
  | none => []

/-- Takes the oldest datagram waiting at a socket. -/
def take (n : Network) (addr : SocketAddr) : Option (Datagram × Network) :=
  match n.queued addr with
  | (_, d) :: rest =>
    some (d, { n with sockets := n.sockets.map fun s =>
      if s.addr == addr then { s with queue := rest } else s })
  | [] => none

/-- The sequence number of the oldest datagram waiting at a socket. -/
def oldest? (n : Network) (addr : SocketAddr) : Option Nat :=
  (n.queued addr).head?.map (·.1)

/-- Moves the clock forward to `t`, never back. -/
def advanceTo (n : Network) (t : Nat) : Network := { n with now := max n.now t }

end Network

/-- A computation over the network. -/
abbrev NetM := StateM Network

/-- The simulated network as a host. -/
instance : Host NetM where
  transmit src dst payload := modifyGet fun n => let (n, r) := n.send src dst payload; (r, n)
  now := do return (← get).now
  bindTransfer ip := modifyGet fun n =>
    match n.bindEphemeral ip with
    | some (n, addr) => (some addr, n)
    | none => (none, n)
  release addr := modify fun n => n.close addr

end Tftp.Net
