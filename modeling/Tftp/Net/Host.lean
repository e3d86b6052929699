import Tftp.Net.Address
import Tftp.Errno

/-!
# Hosts

What the transfer machines need from the host they run on: sending a datagram from one of its
sockets, reading its clock in milliseconds, binding a transfer socket at a port of its choosing,
and closing a socket. The machines never wait themselves; whoever runs them waits for a datagram
or a deadline and hands over what happened.

A simulated network is one host; real sockets are another.
-/

namespace Tftp.Net

/-- A datagram that arrived at a socket: where it came from and what it carries. -/
structure Datagram where
  source : SocketAddr
  payload : List UInt8
  deriving DecidableEq, Repr

/-- Ports tried before giving up on a transfer socket. -/
def ephemeralTries : Nat := 3

/-- The services of a host, in the monad `m` the machines run in. -/
class Host (m : Type → Type) where
  /-- Sends a datagram from the socket bound at `src` to `dst`: the bytes sent, or why not. -/
  transmit : (src dst : SocketAddr) → List UInt8 → m (Except Errno Nat)
  /-- Milliseconds on the host's clock. -/
  now : m Nat
  /-- Binds a transfer socket on an address at a port the host picks, if one is free. -/
  bindTransfer : IpAddr → m (Option SocketAddr)
  /-- Closes a socket. -/
  release : SocketAddr → m Unit

end Tftp.Net
