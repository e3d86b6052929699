import Tftp.Transfer.Session
import Tftp.Store.Volume

/-!
# Streaming a file

The two halves of a stop-and-wait transfer, as machines that a caller feeds with what each wait
for a response produced.

The sender reads the file in blocks of 512 bytes and sends each as a DATA packet numbered from 1,
waiting for its ACK before the next; a block shorter than 512 bytes is the last, so a file whose
size is a multiple of 512 ends with an empty block. The receiver acknowledges every block it
accepts, once; a duplicate block gets the last ACK again through the retry path.

Block numbers wrap around at 65536.
-/

namespace Tftp

open Tftp.Net

variable {m : Type → Type} [Monad m] [Host m]

/-- How a machine stands after a step: waiting for the next response, or finished. -/
inductive Flow (σ : Type) where
  | waiting (state : σ)
  | finished (result : Except TransferError Stats)
  deriving Repr

/-- The sender while a DATA block is outstanding. -/
structure Sending where
  file : OpenFile
  /-- The block in flight. -/
  block : UInt16
  /-- Its payload's length. -/
  size : Nat
  stats : Stats
  deriving Repr

/-- Whether a block of this size ends a transfer. -/
def isFinalBlock (size : Nat) : Bool := size < maxPayload

namespace Sending

/-- Reads the block after `block` and sends it; a file that cannot be read ends the transfer
with `file read error` sent to the peer. -/
def next (v : Volume) (s : Session) (file : OpenFile) (block : UInt16) (stats : Stats) :
    m (Session × Flow Sending) := do
  match v.readUpTo file maxPayload with
  | .error e =>
    let s ← s.sendError .notDefined "file read error"
    return (s, .finished (.error (.io e)))
  | .ok (file, chunk) =>
    let block := block + 1
    match ← s.send (.data block chunk) with
    | .error e => return (s, .finished (.error e))
    | .ok s => return (s, .waiting { file, block, size := chunk.length, stats })

/-- Starts sending a file from its current position. -/
def start (v : Volume) (s : Session) (file : OpenFile) : m (Session × Flow Sending) :=
  next v s file 0 {}

/-- Takes a response to the outstanding block. -/
def step (v : Volume) (s : Session) (st : Sending) (incoming : Incoming) :
    m (Session × Flow Sending) := do
  match incoming with
  | .packet (.ack b) =>
    if b == st.block then
      let s := s.accept
      let stats := st.stats.add st.size
      if isFinalBlock st.size then return (s.finish, .finished (.ok stats))
      else next v s st.file st.block stats
    else reject s st incoming
  | _ => reject s st incoming
where
  /-- A response that is not the awaited ACK. -/
  reject (s : Session) (st : Sending) (incoming : Incoming) :
      m (Session × Flow Sending) := do
    match ← s.reject incoming with
    | (s, .error e) => return (s, .finished (.error e))
    | (s, .ok ()) => return (s, .waiting st)

end Sending

/-- The receiver, having accepted `block`. -/
structure Receiving where
  file : OpenFile
  /-- The last block accepted; 0 before the first. -/
  block : UInt16
  stats : Stats
  deriving Repr

namespace Receiving

/-- A receiver that has accepted nothing yet. -/
def start (file : OpenFile) : Receiving := { file, block := 0, stats := {} }

/-- Takes a response while waiting for the block after `st.block`; a block that cannot be
written ends the transfer with `file write error` sent to the peer. -/
def step (v : Volume) (s : Session) (st : Receiving) (incoming : Incoming) :
    m (Volume × Session × Flow Receiving) := do
  let expected := st.block + 1
  match incoming with
  | .packet (.data b payload) =>
    if b == expected then
      let s := s.accept
      match v.write st.file payload with
      | .error e =>
        let s ← s.sendError .notDefined "file write error"
        return (v, s, .finished (.error (.io e)))
      | .ok (v, file) =>
        match ← s.send (.ack expected) with
        | .error e => return (v, s, .finished (.error e))
        | .ok s =>
          let stats := st.stats.add payload.length
          if isFinalBlock payload.length then return (v, s.finish, .finished (.ok stats))
          else return (v, s, .waiting { file, block := expected, stats })
    else reject v s st incoming
  | _ => reject v s st incoming
where
  /-- A response that is not the awaited block. -/
  reject (v : Volume) (s : Session) (st : Receiving) (incoming : Incoming) :
      m (Volume × Session × Flow Receiving) := do
    match ← s.reject incoming with
    | (s, .error e) => return (v, s, .finished (.error e))
    | (s, .ok ()) => return (v, s, .waiting st)

end Receiving

/-- Waits for one ACK before anything else is sent: `none` while still waiting, then success or
the failure. -/
def awaitAck (s : Session) (block : UInt16) (incoming : Incoming) :
    m (Session × Option (Except TransferError Unit)) := do
  match incoming with
  | .packet (.ack b) =>
    if b == block then return (s.accept, some (.ok ())) else reject s incoming
  | _ => reject s incoming
where
  /-- A response that is not the awaited ACK: still waiting, or failed. -/
  reject (s : Session) (incoming : Incoming) :
      m (Session × Option (Except TransferError Unit)) := do
    match ← s.reject incoming with
    | (s, .error e) => return (s, some (.error e))
    | (s, .ok ()) => return (s, none)

end Tftp
