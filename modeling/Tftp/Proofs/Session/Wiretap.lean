import Tftp.Transfer.Client
import Tftp.Net.Network
import Tftp.Proofs.Decoding
import Tftp.Proofs.Net.Runs
import Mathlib

/-!
# Sessions on a recording host

The transfer machines are written against any `Host`. To say which datagrams a session puts on
the wire, this module runs them on a host that records every datagram handed to it, in order, and
answers each send as a fixed function `fate` of sender, destination and bytes decides: a host on
which some sends fail is a `Wiretap` too. `Wiretap.Delivers` says that every send succeeds.

Each operation of `Session` that sends gets its run here, what it returns and what it adds to the
record, from how it runs on every host with a state (`Tftp.Proofs.Net.Runs`) and what this host's
send does (`TapM.run_transmit`). Later proofs cite these and never unfold the operation.
-/

namespace Tftp.Net

/-- One datagram handed to the host: the socket it is sent from, where to, and its bytes. -/
structure Transmission where
  src : SocketAddr
  dst : SocketAddr
  bytes : List UInt8
  deriving DecidableEq, Repr

/-- A host that records what it is asked to send. Transfer sockets are given ports counted up from
`nextPort`; the clock stands still. -/
structure Wiretap where
  /-- How the host answers a send. -/
  fate : SocketAddr → SocketAddr → List UInt8 → Except Errno Nat
  /-- Every datagram handed to the host so far, oldest first. -/
  log : List Transmission := []
  now : Nat := 0
  nextPort : Nat := firstEphemeralPort

/-- A computation on a recording host. -/
abbrev TapM := StateM Wiretap

instance : Host TapM where
  transmit src dst bytes := modifyGet fun w =>
    (w.fate src dst bytes, { w with log := w.log ++ [⟨src, dst, bytes⟩] })
  now := do return (← get).now
  bindTransfer ip := modifyGet fun w =>
    (some (.ofIp ip w.nextPort.toUInt16), { w with nextPort := w.nextPort + 1 })
  release _ := pure ()

namespace Wiretap

/-- The host after it was handed `ts`. -/
def record (w : Wiretap) (ts : List Transmission) : Wiretap := { w with log := w.log ++ ts }

/-- Every send succeeds. -/
def Delivers (w : Wiretap) : Prop := ∀ src dst bytes, ∃ n, w.fate src dst bytes = .ok n

/-- A host that sends everything it is handed. -/
def faithful : Wiretap where
  fate _ _ bytes := .ok bytes.length

theorem delivers_faithful : faithful.Delivers := fun _ _ bytes => ⟨bytes.length, rfl⟩

@[simp] theorem record_nil (w : Wiretap) : w.record [] = w := by
  simp [record]

@[simp] theorem record_record (w : Wiretap) (ts ts' : List Transmission) :
    (w.record ts).record ts' = w.record (ts ++ ts') := by
  simp [record]

@[simp] theorem log_record (w : Wiretap) (ts : List Transmission) :
    (w.record ts).log = w.log ++ ts := rfl

@[simp] theorem fate_record (w : Wiretap) (ts : List Transmission) :
    (w.record ts).fate = w.fate := rfl

@[simp] theorem nextPort_record (w : Wiretap) (ts : List Transmission) :
    (w.record ts).nextPort = w.nextPort := rfl

theorem Delivers.record {w : Wiretap} (hd : w.Delivers) (ts : List Transmission) :
    (w.record ts).Delivers := hd

end Wiretap

namespace TapM

variable {w : Wiretap}

theorem run_transmit (src dst : SocketAddr) (bytes : List UInt8) :
    (Host.transmit src dst bytes : TapM _).run w =
      (w.fate src dst bytes, w.record [⟨src, dst, bytes⟩]) := rfl

end TapM

end Tftp.Net

namespace Tftp

open Tftp.Net

namespace Session

variable {w : Wiretap}

/-- What sending the outstanding packet again puts on the wire: nothing while only a request was
sent. -/
def outstanding (s : Session) : List Transmission :=
  s.lastSent.toList.map (Transmission.mk s.socket s.peer.addr)

@[simp] theorem outstanding_retries (s : Session) (n : Nat) :
    { s with retries := n }.outstanding = s.outstanding := rfl

@[simp] theorem outstanding_phase (s : Session) (p : Phase) :
    { s with phase := p }.outstanding = s.outstanding := rfl

theorem transmitBytes_run (hd : w.Delivers) (s : Session) (bytes : List UInt8) :
    (s.transmitBytes bytes : TapM _).run w = (.ok (), w.record [⟨s.socket, s.peer.addr, bytes⟩]) := by
  obtain ⟨n, hn⟩ := hd s.socket s.peer.addr bytes
  exact s.transmitBytes_run_ok (by rw [TapM.run_transmit, hn])

/-- A request that can be written goes to the peer once; it is not kept for sending again. -/
theorem sendRequest_run (hd : w.Delivers) (s : Session) {p : Packet} {bytes : List UInt8}
    (hb : p.toBytes = .ok bytes) :
    (s.sendRequest p : TapM _).run w =
      (.ok { s with phase := .exchanging }, w.record [⟨s.socket, s.peer.addr, bytes⟩]) :=
  s.sendRequest_run_of hb (transmitBytes_run hd s bytes)

/-- A DATA or ACK that can be written goes to the peer once and becomes the outstanding packet. -/
theorem send_run (hd : w.Delivers) (s : Session) {p : Packet} {bytes : List UInt8}
    (hb : p.toBytes = .ok bytes) :
    (s.send p : TapM _).run w =
      (.ok { s with lastSent := some bytes, phase := .exchanging },
        w.record [⟨s.socket, s.peer.addr, bytes⟩]) :=
  s.send_run_of hb (transmitBytes_run hd s bytes)

/-- An ERROR goes to the peer once, and the session is over. -/
theorem sendError_run (hd : w.Delivers) (s : Session) {code : ErrorCode} {message : String}
    {bytes : List UInt8} (hb : (Packet.error code message).toBytes = .ok bytes) :
    (s.sendError code message : TapM _).run w =
      ({ s with phase := .aborted }, w.record [⟨s.socket, s.peer.addr, bytes⟩]) :=
  s.sendError_run_of hb (transmitBytes_run hd s bytes)

end Session

end Tftp
