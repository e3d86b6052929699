import Tftp.Transfer.Server
import Tftp.Transfer.Client
import Tftp.Net.Network

/-!
# A simulated host

A server and a client sharing one simulated network, run by discrete events. At every instant
the datagrams already waiting are handled first, oldest first across sockets, each taking no time;
when none waits, the clock jumps to the earliest end of a wait, whose timeout is then handled.
Other sockets on the network (those of a test script, say) are left alone: what reaches them waits
until it is taken.

Every event is handled by one step of one machine, and a run is bounded by a number of events, so
a run always ends, even when two machines could keep each other busy forever.
-/

namespace Tftp.Simulation

open Tftp.Net

/-- Events handled in one run before it stops. -/
def eventBudget : Nat := 1000000

/-- The network, the server and the client of a simulated host. -/
structure World where
  net : Network
  server : Option Server := none
  client : Option Client := none
  /-- Client operations in flight, each with its ticket. -/
  runs : List (Nat × ClientRun) := []
  /-- Finished client operations by ticket. -/
  results : List (Nat × Except TransferError Summary) := []
  nextTicket : Nat := 0

/-- What happens next on a host. -/
inductive Event where
  /-- A datagram waits at the server's well-known socket. -/
  | request
  /-- A datagram waits at the socket of server session `i`. -/
  | sessionDatagram (i : Nat)
  /-- A datagram waits at the socket of client operation `k`. -/
  | runDatagram (k : Nat)
  /-- The wait of server session `i` ends. -/
  | sessionTimeout (i : Nat)
  /-- The wait of client operation `k` ends. -/
  | runTimeout (k : Nat)
  deriving DecidableEq, Repr

/-- The earliest of some candidates by their key; the first among equals. -/
def earliest {α : Type} (cs : List (Nat × α)) : Option (Nat × α) :=
  cs.foldl (fun best c => match best with
    | some b => if c.1 < b.1 then some c else best
    | none => some c) none

namespace World

/-- Runs a computation on the network. -/
def onNet {α : Type} (w : World) (m : NetM α) : α × World :=
  let (a, net) := m.run w.net
  (a, { w with net })

/-- The datagrams waiting for a machine, by the sequence number of the oldest. -/
def arrivals (w : World) : List (Nat × Event) :=
  let listen := match w.server with
    | some srv =>
      if srv.accepting then ((w.net.oldest? srv.listen).map fun s => (s, Event.request)).toList
      else []
    | none => []
  let sessions := match w.server with
    | some srv => (srv.sessions.mapIdx fun i ss =>
        (w.net.oldest? ss.session.socket).map fun s => (s, Event.sessionDatagram i)).filterMap id
    | none => []
  let runs := (w.runs.mapIdx fun k (_, run) =>
    (w.net.oldest? run.session.socket).map fun s => (s, Event.runDatagram k)).filterMap id
  listen ++ sessions ++ runs

/-- The ends of the machines' waits. -/
def deadlines (w : World) : List (Nat × Event) :=
  let sessions := match w.server with
    | some srv => srv.sessions.mapIdx fun i ss => (ss.deadline, Event.sessionTimeout i)
    | none => []
  sessions ++ w.runs.mapIdx fun k (_, run) => (run.deadline, Event.runTimeout k)

/-- The next event no later than `horizon` (unbounded when `none`). -/
def nextEvent (w : World) (horizon : Option Nat) : Option Event :=
  match earliest w.arrivals with
  | some (_, e) => some e
  | none =>
    match earliest w.deadlines with
    | some (t, e) => if horizon.all (t ≤ ·) then some e else none
    | none => none

/-- Records how a client operation stands: still running at index `k`, or finished. -/
def settleRun (w : World) (k ticket : Nat) (flow : ClientFlow) : World :=
  match flow with
  | .running run => { w with runs := w.runs.set k (ticket, run) }
  | .finished r => { w with runs := w.runs.eraseIdx k, results := w.results ++ [(ticket, r)] }

/-- Advances client operation `k` with a step on the network. -/
def stepRun (w : World) (k : Nat) (f : Client → ClientRun → NetM (Client × ClientFlow)) :
    World :=
  match w.client, w.runs[k]? with
  | some c, some (ticket, run) =>
    let ((c, flow), w) := w.onNet (f c run)
    { w with client := some c }.settleRun k ticket flow
  | _, _ => w

/-- Advances the server with a step on the network. -/
def stepServer (w : World) (f : Server → NetM Server) : World :=
  match w.server with
  | some srv => let (srv, w) := w.onNet (f srv); { w with server := some srv }
  | none => w

/-- Handles one event. -/
def fire (w : World) : Event → World
  | .request => w.stepServer fun srv => do
      match (← get).take srv.listen with
      | some (d, n) => set n; srv.dispatch d
      | none => return srv
  | .sessionDatagram i => w.stepServer fun srv => do
      match srv.sessions[i]? with
      | some ss =>
        match (← get).take ss.session.socket with
        | some (d, n) => set n; srv.deliver i d
        | none => return srv
      | none => return srv
  | .runDatagram k => w.stepRun k fun c run => do
      match (← get).take run.session.socket with
      | some (d, n) => set n; c.deliver run d
      | none => return (c, .running run)
  | .sessionTimeout i => w.stepServer fun srv => do
      match srv.sessions[i]? with
      | some ss => modify (·.advanceTo ss.deadline); srv.expire i
      | none => return srv
  | .runTimeout k => w.stepRun k fun c run => do
      modify (·.advanceTo run.deadline)
      c.step run .timeout

/-- Moves the clock forward to `t`. -/
def advanceTo (w : World) (t : Nat) : World := { w with net := w.net.advanceTo t }

/-- Handles events until `stop` holds, nothing is left to do before `horizon`, or the budget of
events is spent; then the clock stands at `horizon` unless `stop` ended the run. -/
def runUntil (w : World) (horizon : Option Nat) (stop : World → Bool) : World :=
  go eventBudget w
where
  /-- One event per round. -/
  go : Nat → World → World
    | 0, w => w
    | fuel + 1, w =>
      if stop w then w
      else match w.nextEvent horizon with
        | some e => go fuel (w.fire e)
        | none => match horizon with
          | some t => w.advanceTo t
          | none => w

/-- Handles everything due by `t`, then sets the clock to `t`. -/
def runFor (w : World) (ms : Nat) : World :=
  w.runUntil (some (w.net.now + ms)) fun _ => false

/-- Handles everything due now. -/
def settleNow (w : World) : World := w.runUntil (some w.net.now) fun _ => false

/-- Starts a client operation: its ticket. -/
def begin (w : World) (op : Operation) (name : String) : World × Nat :=
  let ticket := w.nextTicket
  let w := { w with nextTicket := ticket + 1 }
  match w.client with
  | none => (w, ticket)
  | some c =>
    let ((c, flow), w) := w.onNet (c.begin op name)
    let w := { w with client := some c }
    match flow with
    | .running run => ({ w with runs := w.runs ++ [(ticket, run)] }, ticket)
    | .finished r => ({ w with results := w.results ++ [(ticket, r)] }, ticket)

/-- The result of a finished client operation. -/
def resultOf (w : World) (ticket : Nat) : Option (Except TransferError Summary) :=
  (w.results.find? (·.1 == ticket)).map (·.2)

/-- Runs until the given client operations have finished. -/
def await (w : World) (tickets : List Nat) : World :=
  w.runUntil none fun w => tickets.all fun t => (w.resultOf t).isSome

/-- Stops the server taking requests and lets its sessions run out. -/
def stopServer (w : World) : World :=
  let w := match w.server with
    | some srv => { w with server := some { srv with accepting := false } }
    | none => w
  w.runUntil none fun w => match w.server with
    | some srv => srv.sessions.isEmpty
    | none => true

end World

end Tftp.Simulation
