import Tftp.Simulation.World

/-!
# Probing a host from outside

Sockets that stand outside the simulated machines, as a test script holds them: they send
datagrams into the host and take what the host sends back, waiting on the simulated clock.

A wait ends as soon as a datagram is there, or when the time is up; draining takes datagrams until
a whole quiet gap passes without one.
-/

namespace Tftp.Simulation

open Tftp.Net

/-- What a wait at a probe socket produced. -/
inductive Arrival where
  | datagram (d : Datagram)
  | timedOut
  deriving Repr

/-- Datagrams a single drain takes at most. -/
def drainLimit : Nat := 100000

namespace World

/-- Binds a probe socket at the next free port on the loopback address. -/
def probe (w : World) : World × SocketAddr :=
  match w.net.bindEphemeral .localhost with
  | some (net, addr) => ({ w with net }, addr)
  | none => (w, .ofIp .localhost 0)

/-- Sends a datagram from a probe socket, then lets the host handle what is due now. -/
def inject (w : World) (src dst : SocketAddr) (payload : List UInt8) :
    World × Except Errno Nat :=
  let (r, w) := w.onNet (Host.transmit src dst payload)
  (w.settleNow, r)

/-- Waits up to `ms` for a datagram at a probe socket. -/
def receiveAt (w : World) (addr : SocketAddr) (ms : Nat) : World × Arrival :=
  let w := w.runUntil (some (w.net.now + ms)) fun w => !(w.net.queued addr).isEmpty
  match w.net.take addr with
  | some (d, net) => ({ w with net }, .datagram d)
  | none => (w, .timedOut)

/-- Takes datagrams at a probe socket until `quiet` milliseconds pass without one. -/
def drainAt (w : World) (addr : SocketAddr) (quiet : Nat) : World × List Datagram :=
  go drainLimit w []
where
  /-- One datagram per round. -/
  go : Nat → World → List Datagram → World × List Datagram
    | 0, w, acc => (w, acc)
    | fuel + 1, w, acc =>
      match w.receiveAt addr quiet with
      | (w, .datagram d) => go fuel w (acc ++ [d])
      | (w, .timedOut) => (w, acc)

end World

end Tftp.Simulation
