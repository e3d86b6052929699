import Tftp.Net.Host
import Tftp.Transfer.Error
import Tftp.Wire.Encode
import Tftp.Wire.Decode

/-!
# Sessions

One side of a stop-and-wait transfer: its socket, the peer's transfer ID, and the retry state. At
most one packet is outstanding; the session keeps it so that a soft failure (a timeout, a datagram
that does not decode, a packet out of order) can send it again. A session gives up after
`maxRetries` soft failures in a row, without sending anything more, and at once when the peer
reports an error.

A client session starts with the server's well-known address as a pending peer: the first datagram
from the server's host fixes the peer to the address it came from. Datagrams from any other address
are answered with `Unknown transfer ID` and otherwise ignored.

Waiting is not done here: a caller that wants the next packet waits for a datagram at the
session's socket, or for the end of one receive window, and hands what arrived to `classify`,
which reads at most a receive buffer of it.
-/

namespace Tftp

open Tftp.Net

/-- The other end of a transfer. -/
inductive Peer where
  /-- The request went to this address; the first reply from its host fixes the peer. -/
  | pending (addr : SocketAddr)
  | fixed (addr : SocketAddr)
  deriving DecidableEq, Repr

/-- The address the peer is reached at. -/
def Peer.addr : Peer → SocketAddr
  | pending a => a
  | fixed a => a

/-- Where a session is in its life. -/
inductive Phase where
  | init
  | exchanging
  | done
  | aborted
  deriving DecidableEq, Repr

/-- What one wait for a response produced. -/
inductive Incoming where
  | packet (p : Packet)
  /-- A datagram from the peer that does not decode. -/
  | invalid
  | timeout
  deriving DecidableEq, Repr

/-- One side of a transfer. -/
structure Session where
  /-- The session's own socket. -/
  socket : SocketAddr
  peer : Peer
  phase : Phase := .init
  retries : Nat := 0
  /-- Soft failures in a row that end the session; at least one. -/
  maxRetries : Nat
  /-- The outstanding packet, as sent. -/
  lastSent : Option (List UInt8) := none
  deriving DecidableEq, Repr

namespace Session

variable {m : Type → Type} [Monad m] [Host m]

/-- A server session: the peer is known from the request. -/
def withPeer (socket peer : SocketAddr) (maxRetries : Nat) : Session :=
  { socket, peer := .fixed peer, maxRetries := max maxRetries 1 }

/-- A client session: the peer's port is learned from its first reply. -/
def withServer (socket server : SocketAddr) (maxRetries : Nat) : Session :=
  { socket, peer := .pending server, maxRetries := max maxRetries 1 }

/-- Sends an encoded packet to the peer. -/
def transmitBytes (s : Session) (bytes : List UInt8) : m (Except TransferError Unit) := do
  match ← Host.transmit s.socket s.peer.addr bytes with
  | .ok _ => return .ok ()
  | .error e => return .error (.transport (.io e))

/-- Sends the opening request, once; it is never sent again. -/
def sendRequest (s : Session) (p : Packet) : m (Except TransferError Session) := do
  match p.toBytes with
  | .error e => return .error (.codec e)
  | .ok bytes =>
    match ← s.transmitBytes bytes with
    | .error e => return .error e
    | .ok () => return .ok { s with phase := .exchanging }

/-- Sends a DATA or ACK packet and keeps it for sending again. -/
def send (s : Session) (p : Packet) : m (Except TransferError Session) := do
  match p.toBytes with
  | .error e => return .error (.codec e)
  | .ok bytes =>
    match ← s.transmitBytes bytes with
    | .error e => return .error e
    | .ok () => return .ok { s with lastSent := some bytes, phase := .exchanging }

/-- Sends an ERROR to the peer if it can; the session is over either way. -/
def sendError (s : Session) (code : ErrorCode) (message : String) : m Session := do
  match (Packet.error code message).toBytes with
  | .ok bytes => let _ ← s.transmitBytes bytes
  | .error _ => pure ()
  return { s with phase := .aborted }

/-- Answers a datagram from a stranger with `Unknown transfer ID`. -/
def rejectStranger (s : Session) (src : SocketAddr) : m Unit := do
  let reply := Packet.error .unknownTid ErrorCode.unknownTid.defaultMessage
  match reply.toBytes with
  | .ok bytes => let _ ← Host.transmit s.socket src bytes
  | .error _ => pure ()

/-- Classifies a datagram that arrived at the session's socket: what it brings, or `none` when it
came from a stranger (who is answered, and the wait goes on). -/
def classify (s : Session) (d : Datagram) : m (Option (Session × Incoming)) := do
  let s? : Option Session := match s.peer with
    | .fixed p => if p == d.source then some s else none
    | .pending server =>
      if server.ip == d.source.ip then some { s with peer := .fixed d.source } else none
  match s? with
  | none => s.rejectStranger d.source; return none
  | some s =>
    match Packet.decode (d.payload.take receiveBufferSize) with
    | .ok p => return some (s, .packet p)
    | .error _ => return some (s, .invalid)

/-- The awaited packet arrived: the run of soft failures is over. -/
def accept (s : Session) : Session := { s with retries := 0 }

/-- Counts a soft failure and sends the outstanding packet again; once the budget is spent the
session aborts without sending. -/
def retry (s : Session) : m (Session × Except TransferError Unit) := do
  let s := { s with retries := s.retries + 1 }
  if s.retries ≥ s.maxRetries then
    return ({ s with phase := .aborted }, .error (.retriesExhausted s.retries))
  match s.lastSent with
  | some bytes => return (s, ← s.transmitBytes bytes)
  | none => return (s, .ok ())

/-- Handles a response that is not the awaited one: a peer ERROR ends the session, anything else
is a soft failure. -/
def reject (s : Session) (incoming : Incoming) : m (Session × Except TransferError Unit) :=
  match incoming with
  | .packet (.error code message) =>
    return ({ s with phase := .aborted }, .error (.peer code message))
  | _ => s.retry

/-- The transfer completed. -/
def finish (s : Session) : Session := { s with phase := .done }

/-- The transfer was given up. -/
def abort (s : Session) : Session := { s with phase := .aborted }

end Session

end Tftp
