import Tftp.Simulation.Probe
import Tftp.Config.Settings

/-!
# A client against a server

A server and a client on one simulated host, the client configured with the server's well-known
address. Operations run one after another or several at once; between operations the files of
either side can be changed behind both programs' backs.
-/

namespace Tftp.Simulation

open Tftp.Net Tftp.Config

/-- One of the two sides. -/
inductive Side where
  | client
  | server
  deriving DecidableEq, Repr

/-- A change to a side's files that neither program sees coming. -/
inductive Edit where
  | remove (name : String)
  | write (name : String) (data : List UInt8)
  deriving DecidableEq, Repr

/-- A server and a client on one host. -/
structure Pairing where
  world : World

namespace Pairing

/-- Starts a server over `serverStore` and a client over `clientStore` that talks to it. -/
def start (net : Network) (serverSettings : ServerSettings) (serverStore : Store)
    (clientSettings : ClientSettings) (clientStore : Store) : Pairing :=
  let w : World := { net }
  let (w, listen) := w.probe
  let w := { w with
    server := some { settings := serverSettings, listen, store := serverStore },
    client := some { settings := { clientSettings with server := listen }, store := clientStore } }
  { world := w }

/-- Runs operations at once and waits for all of them: their results in order. -/
def runAll (p : Pairing) (ops : List (Operation × String)) :
    Pairing × List (Except TransferError Summary) :=
  let (w, tickets) := ops.foldl (fun (w, ts) (op, name) =>
    let (w, t) := w.begin op name; (w, ts ++ [t])) (p.world, [])
  let w := w.await tickets
  ({ world := w }, tickets.map fun t => (w.resultOf t).getD (.error (.transport .timeout)))

/-- Runs one operation and waits for it. -/
def runOne (p : Pairing) (op : Operation) (name : String) :
    Pairing × Except TransferError Summary :=
  match p.runAll [(op, name)] with
  | (p, [r]) => (p, r)
  | (p, _) => (p, .error (.transport .timeout))

/-- The files of a side. -/
def volume (p : Pairing) : Side → Volume
  | .client => (p.world.client.map (·.store.volume)).getD {}
  | .server => (p.world.server.map (·.store.volume)).getD {}

/-- Replaces the files of a side. -/
def setVolume (p : Pairing) (side : Side) (v : Volume) : Pairing :=
  match side with
  | .client => { world := { p.world with client := p.world.client.map fun c =>
      { c with store := { c.store with volume := v } } } }
  | .server => { world := { p.world with server := p.world.server.map fun s =>
      { s with store := { s.store with volume := v } } } }

/-- Changes a side's files directly. -/
def edit (p : Pairing) (side : Side) (e : Edit) : Pairing × Except Errno Unit :=
  let v := p.volume side
  let r := match e with
    | .remove name => v.removeFile name
    | .write name data => v.writeFile name data
  match r with
  | .ok v => (p.setVolume side v, .ok ())
  | .error err => (p, .error err)

/-- Stops the server and lets its sessions run out. -/
def stop (p : Pairing) : Pairing := { world := p.world.stopServer }

end Pairing

end Tftp.Simulation
