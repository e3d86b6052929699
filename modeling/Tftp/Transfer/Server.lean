import Tftp.Transfer.Stream
import Tftp.Access.Store
import Tftp.Config.Settings
import Tftp.FileName

/-!
# The server

The server owns a well-known socket. Each acceptable request gets a session of its own on a fresh
transfer socket; the dispatcher never waits on a session.

A request is refused with an ERROR from the well-known socket when it does not decode (`Illegal
TFTP operation`, `malformed request`), is not a request at all (`expected a request`; an ERROR
packet is ignored instead), asks for a mode other than octet, names a file outside the root
(`Access violation` with the reason), or comes while `maxSessions` sessions (at least one) are
running (`server busy`).

A read session streams the file; a write session acknowledges block 0 and receives the file,
removing it again if the upload does not complete; a delete session removes the file and confirms
with the ACK of block 65535. A request the store refuses is answered with the access error's code
and text.
-/

namespace Tftp

open Tftp.Net Tftp.Config

/-- What a running server session is doing. -/
inductive ServerTask where
  /-- Streaming a file to the peer. -/
  | sending (handle : ReadHandle) (st : Sending)
  /-- Receiving a file from the peer. -/
  | receiving (handle : WriteHandle) (st : Receiving)
  deriving Repr

/-- A running server session: its session, its task and when its current wait ends. -/
structure ServerSession where
  session : Session
  task : ServerTask
  deadline : Nat
  deriving Repr

/-- A server: its settings, its well-known socket, its store and its running sessions. -/
structure Server where
  settings : ServerSettings
  listen : SocketAddr
  store : Store
  sessions : List ServerSession := []
  /-- Whether requests are still taken; a stopped server lets its sessions run out. -/
  accepting : Bool := true

namespace Server

variable {m : Type → Type} [Monad m] [Host m]

/-- The longest one wait for a response lasts. -/
def window (srv : Server) : Nat := srv.settings.transfer.receiveWindow

/-- Sessions that may run at once. -/
def capacity (srv : Server) : Nat := max srv.settings.maxSessions 1

/-- Sends an ERROR from the well-known socket; a failure to send is only logged. -/
def refuse (srv : Server) (dst : SocketAddr) (code : ErrorCode) (message : String) : m Unit := do
  match (Packet.error code message).toBytes with
  | .ok bytes => let _ ← Host.transmit srv.listen dst bytes
  | .error _ => pure ()

/-- Answers a request the store refused with the access error. -/
def deny (s : Session) (e : AccessError) : m Unit := do
  let _ ← s.sendError e.wireCode e.message

/-- Adds a session that waits for its first response, or closes its socket if it is over. -/
def keep (srv : Server) (s : Session) (task : Option ServerTask) : m Server := do
  match task with
  | some task =>
    let now ← Host.now
    let ss : ServerSession := { session := s, task, deadline := now + srv.window }
    return { srv with sessions := srv.sessions ++ [ss] }
  | none =>
    Host.release s.socket
    return srv

/-- Starts serving a read: open the file and send its first block. -/
def startRead (srv : Server) (s : Session) (name : String) : m Server := do
  let (store, r) := srv.store.openForRead name
  let srv := { srv with store }
  match r with
  | .error e => deny s e; srv.keep s none
  | .ok h =>
    match ← Sending.start srv.store.volume s h.file with
    | (s, .waiting st) => srv.keep s (some (.sending h st))
    | (s, .finished _) =>
      let (store, _) := srv.store.closeRead h
      { srv with store }.keep s none

/-- Starts serving a write: create the file and acknowledge block 0. -/
def startWrite (srv : Server) (s : Session) (name : String) : m Server := do
  let (store, r) := srv.store.openForWrite name
  let srv := { srv with store }
  match r with
  | .error e => deny s e; srv.keep s none
  | .ok h =>
    match ← s.send (.ack 0) with
    | .ok s => srv.keep s (some (.receiving h (Receiving.start h.file)))
    | .error _ =>
      let (store, _) := srv.store.abandonWrite h
      { srv with store }.keep s none

/-- Serves a delete: remove the file and confirm with the delete ACK. -/
def startDelete (srv : Server) (s : Session) (name : String) : m Server := do
  let (store, r) := srv.store.tryDelete name
  let srv := { srv with store }
  match r with
  | .error e => deny s e; srv.keep s none
  | .ok () =>
    let _ ← s.send (.ack deleteAckBlock)
    srv.keep s none

/-- Starts a session for an accepted request on its transfer socket. -/
def start (srv : Server) (op : Operation) (name : String) (peer socket : SocketAddr) :
    m Server :=
  let s := Session.withPeer socket peer srv.settings.transfer.maxRetries
  match op with
  | .read => srv.startRead s name
  | .write => srv.startWrite s name
  | .delete => srv.startDelete s name

/-- Handles a datagram that arrived at the well-known socket. -/
def dispatch (srv : Server) (d : Datagram) : m Server := do
  let src := d.source
  match Packet.decode (d.payload.take receiveBufferSize) with
  | .error _ => srv.refuse src .illegalOperation "malformed request"; return srv
  | .ok (.error _ _) => return srv
  | .ok (.request op name mode) =>
    if !isOctetMode mode then
      srv.refuse src .illegalOperation ("unsupported mode '" ++ mode ++ "'"); return srv
    else
      match checkFileName name with
      | .error r => srv.refuse src .accessViolation r.reason; return srv
      | .ok () =>
        if srv.sessions.length ≥ srv.capacity then
          srv.refuse src .notDefined "server busy"; return srv
        else
          match ← Host.bindTransfer srv.settings.bindIp with
          | none => srv.refuse src .notDefined "no transfer port available"; return srv
          | some socket => srv.start op name src socket
  | .ok _ => srv.refuse src .illegalOperation "expected a request"; return srv

/-- Advances one session with what its wait produced: the session, or `none` once it is over. -/
def advance (srv : Server) (ss : ServerSession) (incoming : Incoming) :
    m (Server × Option ServerSession) := do
  match ss.task with
  | .sending h st =>
    match ← Sending.step srv.store.volume ss.session st incoming with
    | (s, .waiting st) =>
      let deadline := (← Host.now) + srv.window
      return (srv, some { session := s, task := .sending h st, deadline })
    | (s, .finished _) =>
      let (store, _) := srv.store.closeRead h
      Host.release s.socket
      return ({ srv with store }, none)
  | .receiving h st =>
    match ← Receiving.step srv.store.volume ss.session st incoming with
    | (v, s, .waiting st) =>
      let srv := { srv with store := { srv.store with volume := v } }
      let deadline := (← Host.now) + srv.window
      return (srv, some { session := s, task := .receiving h st, deadline })
    | (v, s, .finished r) =>
      let store := { srv.store with volume := v }
      let (store, _) := match r with
        | .ok _ => store.closeWrite h
        | .error _ => store.abandonWrite h
      Host.release s.socket
      return ({ srv with store }, none)

/-- Replaces the session at index `i`, or drops it once it is over. -/
def settle (srv : Server) (i : Nat) (ss : Option ServerSession) : Server :=
  match ss with
  | some ss => { srv with sessions := srv.sessions.set i ss }
  | none => { srv with sessions := srv.sessions.eraseIdx i }

/-- Delivers a datagram to the session at index `i`: a stranger's is answered and the wait goes
on. -/
def deliver (srv : Server) (i : Nat) (d : Datagram) : m Server := do
  match srv.sessions[i]? with
  | none => return srv
  | some ss =>
    match ← ss.session.classify d with
    | none => return srv
    | some (s, incoming) =>
      let (srv, ss) ← srv.advance { ss with session := s } incoming
      return srv.settle i ss

/-- The wait of the session at index `i` ran out. -/
def expire (srv : Server) (i : Nat) : m Server := do
  match srv.sessions[i]? with
  | none => return srv
  | some ss =>
    let (srv, ss) ← srv.advance ss .timeout
    return srv.settle i ss

end Server

end Tftp
