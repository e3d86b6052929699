import Tftp.Transfer.Stream
import Tftp.Access.Store
import Tftp.Config.Settings
import Tftp.Huffman.Files

/-!
# The client

One read, write or delete against a server. Local files live under the client's root and go
through the client's own arbiter.

A read refuses to overwrite a local file, receives into a new file (its compressed twin when
compression is on, restored afterwards), and removes what it received if the transfer fails. A
write sends a local file (compressed first when compression is on, the twin removed afterwards)
once the server acknowledged block 0. A delete asks the server and waits for the ACK of block
65535; if none comes it tells the server it gave up.

Local names are checked before any file is touched; the name of a delete is the server's business.
-/

namespace Tftp

open Tftp.Net Tftp.Config

/-- Where a client operation stands while it waits for the server. -/
inductive ClientStage where
  /-- Reading: receiving into `target`. -/
  | reading (handle : WriteHandle) (target : String) (st : Receiving)
  /-- Writing: waiting for the ACK of block 0 before sending `source`. -/
  | opening (handle : ReadHandle) (source : String)
  /-- Writing: sending `source`. -/
  | writing (handle : ReadHandle) (source : String) (st : Sending)
  /-- Deleting: waiting for the delete ACK. -/
  | deleting
  deriving Repr

/-- A client operation in flight. -/
structure ClientRun where
  operation : Operation
  name : String
  session : Session
  stage : ClientStage
  /-- When the current wait ends. -/
  deadline : Nat
  deriving Repr

/-- A client: its settings and its local store. -/
structure Client where
  settings : ClientSettings
  store : Store

/-- How a client operation stands after a step. -/
inductive ClientFlow where
  | running (run : ClientRun)
  | finished (result : Except TransferError Summary)
  deriving Repr

namespace Client

variable {m : Type → Type} [Monad m] [Host m]

/-- The longest one wait for a response lasts. -/
def window (c : Client) : Nat := c.settings.transfer.receiveWindow

/-- Removes a temporary local file; a failure is only logged. -/
def discard (c : Client) (name : String) : Client :=
  { c with store := (c.store.tryDelete name).1 }

/-- A session on a fresh transfer socket, talking to the configured server. -/
def openSession (c : Client) : m (Except TransferError Session) := do
  match ← Host.bindTransfer c.settings.bindIp with
  | none => return .error (.transport (.ephemeralExhausted ephemeralTries))
  | some socket =>
    return .ok (Session.withServer socket c.settings.server c.settings.transfer.maxRetries)

/-- Starts waiting for the server's next response. -/
def wait (c : Client) (op : Operation) (name : String) (s : Session) (stage : ClientStage) :
    m ClientFlow := do
  let deadline := (← Host.now) + c.window
  return .running { operation := op, name, session := s, stage, deadline }

/-- Ends an operation: closes its socket. -/
def conclude (s : Option Session) (result : Except TransferError Summary) : m ClientFlow := do
  match s with
  | some s => Host.release s.socket
  | none => pure ()
  return .finished result

/-! ## Read -/

/-- Ends a read that failed: the partial file goes. -/
def failRead (c : Client) (h : WriteHandle) (s : Option Session) (e : TransferError) :
    m (Client × ClientFlow) := do
  let (store, _) := c.store.abandonWrite h
  return ({ c with store }, ← conclude s (.error e))

/-- Ends a read whose transfer completed: releases the file and restores a compressed one. -/
def completeRead (c : Client) (h : WriteHandle) (target name : String) (s : Session)
    (stats : Stats) : m (Client × ClientFlow) := do
  let (store, _) := c.store.closeWrite h
  let c := { c with store }
  let summary : Summary := { operation := .read, fileName := name, stats }
  if c.settings.compress then
    let (volume, unpacked) := Huffman.decompressFile c.store.root c.store.volume target
    let c := { c with store := { c.store with volume } }
    let c := c.discard target
    match unpacked with
    | .error e =>
      let volume := (c.store.volume.removeFile name).toOption.getD c.store.volume
      let flow ← conclude (some s) (.error (.compression e))
      return ({ c with store := { c.store with volume } }, flow)
    | .ok _ => return (c, ← conclude (some s) (.ok summary))
  else return (c, ← conclude (some s) (.ok summary))

/-- Starts fetching `name` from the server into the local root. -/
def beginRead (c : Client) (name : String) : m (Client × ClientFlow) := do
  match checkName name with
  | .error e => return (c, .finished (.error (.access e)))
  | .ok () =>
    if c.store.isAvailable name then return (c, .finished (.error (.access (.alreadyExists name))))
    else
      let target := if c.settings.compress then compressedName name else name
      let (store, r) := c.store.openForWrite target
      let c := { c with store }
      match r with
      | .error e => return (c, .finished (.error (.access e)))
      | .ok h =>
        match ← c.openSession with
        | .error e => c.failRead h none e
        | .ok s =>
          match ← s.sendRequest (Packet.readRequest name) with
          | .error e => c.failRead h (some s) e
          | .ok s =>
            return (c, ← c.wait .read name s (.reading h target (Receiving.start h.file)))

/-! ## Write -/

/-- Ends a write, whatever its outcome: releases the source and removes a compressed twin. -/
def endWrite (c : Client) (h : ReadHandle) (source name : String) (s : Option Session)
    (result : Except TransferError Stats) : m (Client × ClientFlow) := do
  let (store, _) := c.store.closeRead h
  let c := { c with store }
  let c := if c.settings.compress then c.discard source else c
  let result := result.map fun stats => ({ operation := .write, fileName := name, stats } : Summary)
  return (c, ← conclude s result)

/-- Starts sending the local file `name` to the server. -/
def beginWrite (c : Client) (name : String) : m (Client × ClientFlow) := do
  match checkName name with
  | .error e => return (c, .finished (.error (.access e)))
  | .ok () =>
    if !c.store.isAvailable name then return (c, .finished (.error (.access (.notFound name))))
    else
      let packed : Except CompressionError (Client × String) :=
        if c.settings.compress then
          match Huffman.compressFile c.store.root c.store.volume name with
          | (volume, .ok _) =>
            .ok ({ c with store := { c.store with volume } }, compressedName name)
          | (_, .error e) => .error e
        else .ok (c, name)
      match packed with
      | .error e => return (c, .finished (.error (.compression e)))
      | .ok (c, source) =>
        let (store, r) := c.store.openForRead source
        let c := { c with store }
        match r with
        | .error e =>
          let c := if c.settings.compress then c.discard source else c
          return (c, .finished (.error (.access e)))
        | .ok h =>
          match ← c.openSession with
          | .error e => c.endWrite h source name none (.error e)
          | .ok s =>
            match ← s.sendRequest (Packet.writeRequest name) with
            | .error e => c.endWrite h source name (some s) (.error e)
            | .ok s => return (c, ← c.wait .write name s (.opening h source))

/-! ## Delete -/

/-- Starts asking the server to delete `name`. -/
def beginDelete (c : Client) (name : String) : m (Client × ClientFlow) := do
  match ← c.openSession with
  | .error e => return (c, .finished (.error e))
  | .ok s =>
    match ← s.sendRequest (Packet.deleteRequest name) with
    | .error e => return (c, ← conclude (some s) (.error e))
    | .ok s => return (c, ← c.wait .delete name s .deleting)

/-- Starts an operation. -/
def begin (c : Client) (op : Operation) (name : String) : m (Client × ClientFlow) :=
  match op with
  | .read => c.beginRead name
  | .write => c.beginWrite name
  | .delete => c.beginDelete name

/-! ## Responses -/

/-- Advances an operation with what its wait produced. -/
def step (c : Client) (run : ClientRun) (incoming : Incoming) : m (Client × ClientFlow) := do
  let name := run.name
  match run.stage with
  | .reading h target st =>
    match ← Receiving.step c.store.volume run.session st incoming with
    | (v, s, .waiting st) =>
      let c := { c with store := { c.store with volume := v } }
      return (c, ← c.wait .read name s (.reading h target st))
    | (v, s, .finished r) =>
      let c := { c with store := { c.store with volume := v } }
      match r with
      | .ok stats => c.completeRead h target name s stats
      | .error e => c.failRead h (some s) e
  | .opening h source =>
    match ← awaitAck run.session 0 incoming with
    | (s, none) => return (c, ← c.wait .write name s (.opening h source))
    | (s, some (.error e)) => c.endWrite h source name (some s) (.error e)
    | (s, some (.ok ())) =>
      match ← Sending.start c.store.volume s h.file with
      | (s, .waiting st) => return (c, ← c.wait .write name s (.writing h source st))
      | (s, .finished r) => c.endWrite h source name (some s) r
  | .writing h source st =>
    match ← Sending.step c.store.volume run.session st incoming with
    | (s, .waiting st) => return (c, ← c.wait .write name s (.writing h source st))
    | (s, .finished r) => c.endWrite h source name (some s) r
  | .deleting =>
    match ← awaitAck run.session deleteAckBlock incoming with
    | (s, none) => return (c, ← c.wait .delete name s .deleting)
    | (s, some (.ok ())) =>
      let summary : Summary := { operation := .delete, fileName := name, stats := {} }
      return (c, ← conclude (some s.finish) (.ok summary))
    | (s, some (.error (.retriesExhausted n))) =>
      let s ← s.sendError .notDefined "no ack received"
      return (c, ← conclude (some s) (.error (.retriesExhausted n)))
    | (s, some (.error e)) => return (c, ← conclude (some s.abort) (.error e))

/-- Delivers a datagram that arrived at the operation's socket: a stranger's is answered and the
wait goes on. -/
def deliver (c : Client) (run : ClientRun) (d : Datagram) : m (Client × ClientFlow) := do
  match ← run.session.classify d with
  | none => return (c, .running run)
  | some (s, incoming) => c.step { run with session := s } incoming

end Client

end Tftp
