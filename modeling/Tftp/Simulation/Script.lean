import Tftp.Simulation.Probe
import Tftp.Config.Settings

/-!
# Scripts against a server or a client

A script plays the other side of a transfer from probe sockets, one step at a time: it sends
datagrams, waits for datagrams, drains them, or lets time pass, while the simulated host runs.

Against a server, the script holds one or more peer sockets and sends either to the server's
well-known socket or to a transfer socket it has already heard from; transfer sockets are numbered
in the order the script first hears from them. Against a client, the script holds the sockets of
a fake server: the configured server address, a transfer socket and a stranger; it can only send
to the client once it has heard from it.
-/

namespace Tftp.Simulation

open Tftp.Net Tftp.Config

/-- What one step of a script saw; `ω` names who sent a datagram. -/
inductive Outcome (ω : Type) where
  /-- A datagram of this many bytes left. -/
  | sent (n : Nat)
  /-- The step could not be carried out. -/
  | refused (message : String)
  | received (origin : ω) (payload : List UInt8)
  | timedOut
  | drained (datagrams : List (ω × List UInt8))
  | slept

/-- One step of a script whose sockets are named by `σ` and whose destinations by `τ`. -/
inductive Step (σ τ : Type) where
  /-- Sends a datagram from socket `src` to `dst`. -/
  | send (src : σ) (dst : τ) (payload : List UInt8)
  /-- Waits up to `ms` for a datagram at socket `sock`. -/
  | receive (sock : σ) (ms : Nat)
  /-- Takes datagrams at socket `sock` until `quiet` milliseconds pass without one. -/
  | drain (sock : σ) (quiet : Nat)
  | sleep (ms : Nat)

/-! ## Against a server -/

/-- Where a script sends a datagram to a server. -/
inductive ServerTarget where
  | wellKnown
  /-- The `k`-th transfer socket heard from. -/
  | session (k : Nat)
  deriving DecidableEq, Repr

/-- Who sent a datagram that a script took from a server. -/
inductive ServerOrigin where
  | wellKnown
  | session (k : Nat)
  deriving DecidableEq, Repr

/-- A server under a script. -/
structure ServerScene where
  world : World
  listen : SocketAddr
  peers : List SocketAddr
  /-- The server's transfer sockets heard from, in order. -/
  seen : List SocketAddr := []

namespace ServerScene

/-- Starts a server over `store` with `peers` probe sockets. -/
def start (net : Network) (settings : ServerSettings) (store : Store) (peers : Nat) :
    ServerScene :=
  let w : World := { net }
  let (w, listen) := w.probe
  let w := { w with server := some { settings, listen, store } }
  let (w, peers) := (List.range peers).foldl (fun (w, acc) _ =>
    let (w, a) := w.probe; (w, acc ++ [a])) (w, [])
  { world := w, listen, peers }

/-- Names the sender of a datagram, numbering transfer sockets as they are first heard from. -/
def origin (sc : ServerScene) (src : SocketAddr) : ServerScene × ServerOrigin :=
  if src == sc.listen then (sc, .wellKnown)
  else match sc.seen.idxOf? src with
    | some k => (sc, .session k)
    | none => ({ sc with seen := sc.seen ++ [src] }, .session sc.seen.length)

/-- Names the senders of datagrams in order. -/
def origins (sc : ServerScene) (ds : List Datagram) :
    ServerScene × List (ServerOrigin × List UInt8) :=
  ds.foldl (fun (sc, acc) d =>
    let (sc, o) := sc.origin d.source; (sc, acc ++ [(o, d.payload)])) (sc, [])

/-- The probe socket of a peer. -/
def peer (sc : ServerScene) (i : Nat) : Except String SocketAddr :=
  match sc.peers[i]? with
  | some a => .ok a
  | none => .error ("peer " ++ toString i ++ " does not exist")

/-- Carries out one step. -/
def step (sc : ServerScene) : Step Nat ServerTarget → ServerScene × Outcome ServerOrigin
  | .send i target payload =>
    match sc.peer i with
    | .error msg => (sc, .refused msg)
    | .ok src =>
      let dst := match target with
        | .wellKnown => some sc.listen
        | .session k => sc.seen[k]?
      match dst with
      | none => (sc, .refused "session not seen yet")
      | some dst =>
        match sc.world.inject src dst payload with
        | (w, .ok n) => ({ sc with world := w }, .sent n)
        | (w, .error e) => ({ sc with world := w }, .refused e.message)
  | .receive i ms =>
    match sc.peer i with
    | .error msg => (sc, .refused msg)
    | .ok addr =>
      match sc.world.receiveAt addr ms with
      | (w, .datagram d) =>
        let (sc, o) := { sc with world := w }.origin d.source
        (sc, .received o d.payload)
      | (w, .timedOut) => ({ sc with world := w }, .timedOut)
  | .drain i quiet =>
    match sc.peer i with
    | .error msg => (sc, .refused msg)
    | .ok addr =>
      let (w, ds) := sc.world.drainAt addr quiet
      let (sc, got) := { sc with world := w }.origins ds
      (sc, .drained got)
  | .sleep ms => ({ sc with world := sc.world.runFor ms }, .slept)

/-- Runs a script, then stops the server and lets its sessions run out: what every step saw and
the server's files at the end. -/
def run (sc : ServerScene) (steps : List (Step Nat ServerTarget)) :
    List (Outcome ServerOrigin) × Volume :=
  let (sc, outs) := steps.foldl (fun (sc, acc) s =>
    let (sc, o) := sc.step s; (sc, acc ++ [o])) (sc, [])
  let w := sc.world.stopServer
  (outs, match w.server with
    | some srv => srv.store.volume
    | none => {})

end ServerScene

/-! ## Against a client -/

/-- The fake server's sockets. -/
inductive FakeSocket where
  /-- The address the client is configured to ask. -/
  | main
  | transfer
  | stranger
  deriving DecidableEq, Repr

/-- Who sent a datagram that a script took from a client. -/
inductive ClientOrigin where
  | client
  | other
  deriving DecidableEq, Repr

/-- A client operation under a script. -/
structure ClientScene where
  world : World
  main : SocketAddr
  transfer : SocketAddr
  stranger : SocketAddr
  /-- The client's address, once heard from. -/
  client? : Option SocketAddr := none
  ticket : Nat

namespace ClientScene

/-- The address of a fake socket. -/
def addrOf (sc : ClientScene) : FakeSocket → SocketAddr
  | .main => sc.main
  | .transfer => sc.transfer
  | .stranger => sc.stranger

/-- Starts `op` on `name` from a client over `store`, against a fake server. -/
def start (net : Network) (settings : ClientSettings) (store : Store) (op : Operation)
    (name : String) : ClientScene :=
  let w : World := { net }
  let (w, main) := w.probe
  let (w, transfer) := w.probe
  let (w, stranger) := w.probe
  let w := { w with client := some { settings := { settings with server := main }, store } }
  let (w, ticket) := w.begin op name
  { world := w, main, transfer, stranger, ticket }

/-- Names the sender of a datagram; the first sender heard from is the client. -/
def origin (sc : ClientScene) (src : SocketAddr) : ClientScene × ClientOrigin :=
  match sc.client? with
  | some c => (sc, if c == src then .client else .other)
  | none => ({ sc with client? := some src }, .client)

/-- Carries out one step; every datagram sent goes to the client. -/
def step (sc : ClientScene) : Step FakeSocket Unit → ClientScene × Outcome ClientOrigin
  | .send via () payload =>
    match sc.client? with
    | none => (sc, .refused "client address not seen yet")
    | some dst =>
      match sc.world.inject (sc.addrOf via) dst payload with
      | (w, .ok n) => ({ sc with world := w }, .sent n)
      | (w, .error e) => ({ sc with world := w }, .refused e.message)
  | .receive sock ms =>
    match sc.world.receiveAt (sc.addrOf sock) ms with
    | (w, .datagram d) =>
      let (sc, o) := { sc with world := w }.origin d.source
      (sc, .received o d.payload)
    | (w, .timedOut) => ({ sc with world := w }, .timedOut)
  | .drain sock quiet =>
    let (w, ds) := sc.world.drainAt (sc.addrOf sock) quiet
    let (sc, got) := ds.foldl (fun (sc, acc) d =>
      let (sc, o) := sc.origin d.source; (sc, acc ++ [(o, d.payload)])) ({ sc with world := w }, [])
    (sc, .drained got)
  | .sleep ms => ({ sc with world := sc.world.runFor ms }, .slept)

/-- Runs a script, then waits for the client operation: what every step saw, the operation's
result and the client's files at the end. -/
def run (sc : ClientScene) (steps : List (Step FakeSocket Unit)) :
    List (Outcome ClientOrigin) × Except TransferError Summary × Volume :=
  let (sc, outs) := steps.foldl (fun (sc, acc) s =>
    let (sc, o) := sc.step s; (sc, acc ++ [o])) (sc, [])
  let w := sc.world.await [sc.ticket]
  let result := (w.resultOf sc.ticket).getD (.error (.transport .timeout))
  (outs, result, match w.client with
    | some c => c.store.volume
    | none => {})

end ClientScene

end Tftp.Simulation
