import Tftp.Transfer.Session
import Mathlib

/-!
# Runs on a host with a state

The machines are proved correct on two hosts, each a state monad: the simulated network (`NetM`)
and a host that records what it is asked to send (`TapM`). On such a host a computation has a
run, the result it returns and the state it leaves. A session's sends run alike on every such
host: the host's send of the bytes decides what the session's operation returns and what state
it leaves, and the rest of the operation does not touch the host. These lemmas say so once, for
every host with a state; each host then says what its own send does.
-/

namespace Tftp.Net

namespace StateM

variable {σ α β : Type} {w w₁ : σ}

/-- A computation whose run is known may run first. -/
theorem run_bind_of_run {x : StateM σ α} {f : α → StateM σ β} {a : α} (hx : x.run w = (a, w₁)) :
    (x >>= f).run w = (f a).run w₁ := by
  show (f (x.run w).1).run (x.run w).2 = _
  rw [hx]

@[simp] theorem run_pure (a : α) : (pure a : StateM σ α).run w = (a, w) := rfl

end StateM

end Tftp.Net

namespace Tftp.Session

open Tftp.Net

variable {σ : Type} [Host (StateM σ)] {w w₁ : σ} (s : Session) {bytes : List UInt8}

/-- A send the host makes is a success of the session. -/
theorem transmitBytes_run_ok {k : Nat}
    (ht : (Host.transmit s.socket s.peer.addr bytes : StateM σ _).run w = (.ok k, w₁)) :
    (s.transmitBytes bytes : StateM σ _).run w = (.ok (), w₁) := by
  rw [transmitBytes, StateM.run_bind_of_run ht]
  rfl

/-- A send the host refuses is a transport error of the session. -/
theorem transmitBytes_run_error {e : Errno}
    (ht : (Host.transmit s.socket s.peer.addr bytes : StateM σ _).run w = (.error e, w₁)) :
    (s.transmitBytes bytes : StateM σ _).run w = (.error (.transport (.io e)), w₁) := by
  rw [transmitBytes, StateM.run_bind_of_run ht]
  rfl

/-- A request that cannot be written is refused, and nothing is handed to the host. -/
theorem sendRequest_run_codec {p : Packet} {e : CodecError} (hb : p.toBytes = .error e) :
    (s.sendRequest p : StateM σ _).run w = (.error (.codec e), w) := by
  simp only [sendRequest, hb]
  rfl

/-- A request that can be written is handed to the host once; the session answers as the send
went, and does not keep the request for sending again. -/
theorem sendRequest_run_of {p : Packet} {r : Except TransferError Unit}
    (hb : p.toBytes = .ok bytes) (ht : (s.transmitBytes bytes : StateM σ _).run w = (r, w₁)) :
    (s.sendRequest p : StateM σ _).run w =
      (r.map fun _ => { s with phase := .exchanging }, w₁) := by
  simp only [sendRequest, hb]
  rw [StateM.run_bind_of_run ht]
  cases r <;> rfl

/-- A DATA or ACK that can be written is handed to the host once and becomes the outstanding
packet, if the send went through. -/
theorem send_run_of {p : Packet} {r : Except TransferError Unit}
    (hb : p.toBytes = .ok bytes) (ht : (s.transmitBytes bytes : StateM σ _).run w = (r, w₁)) :
    (s.send p : StateM σ _).run w =
      (r.map fun _ => { s with lastSent := some bytes, phase := .exchanging }, w₁) := by
  simp only [send, hb]
  rw [StateM.run_bind_of_run ht]
  cases r <;> rfl

/-- An ERROR that can be written is handed to the host once, and the session is over. -/
theorem sendError_run_of {code : ErrorCode} {message : String} {r : Except TransferError Unit}
    (hb : (Packet.error code message).toBytes = .ok bytes)
    (ht : (s.transmitBytes bytes : StateM σ _).run w = (r, w₁)) :
    (s.sendError code message : StateM σ _).run w = ({ s with phase := .aborted }, w₁) := by
  simp only [sendError, hb]
  rw [StateM.run_bind_of_run ht]
  rfl

/-- Whether or not the host sends it, an ERROR ends the session. -/
theorem exists_sendError_run (code : ErrorCode) (message : String) :
    ∃ w', (s.sendError code message : StateM σ _).run w = ({ s with phase := .aborted }, w') := by
  refine ⟨((s.sendError code message : StateM σ _).run w).2, Prod.ext ?_ rfl⟩
  unfold sendError
  split <;> rfl

/-- Sending a packet leaves the count of soft failures alone. -/
theorem retries_of_send_run {s' : Session} {p : Packet}
    (h : ((s.send p : StateM σ _).run w).1 = .ok s') : s'.retries = s.retries := by
  cases hb : p.toBytes with
  | error e =>
    simp only [send, hb] at h
    cases h
  | ok bytes =>
    rcases ht : (s.transmitBytes bytes : StateM σ _).run w with ⟨r, w₂⟩
    rw [send_run_of s hb ht] at h
    cases r with
    | error e => cases h
    | ok u =>
      cases h
      rfl

end Tftp.Session
