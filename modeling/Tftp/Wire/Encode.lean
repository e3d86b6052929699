import Tftp.Wire.Packet
import Tftp.Wire.Error

/-!
# Encoding

Writing a message into a buffer of a given capacity. Requests, DATA and ACK fail when the buffer
is too small; an ERROR message is cut to fit, down to the five-byte minimum. The checks run in a
fixed order: a request opcode, then embedded NULs (or the payload size for DATA), then the
capacity.

`Packet.write? p n` gives the bytes written into a buffer of `n` bytes; `Packet.encodeInto`
applies them to an actual buffer and leaves the rest of it alone, and `Packet.toBytes` sizes the
buffer to the message, capped at one datagram for ERROR.
-/

namespace Tftp

/-- A 16-bit number as two big-endian bytes. -/
def wordBytes (n : Nat) : List UInt8 := [(n / 256 % 256).toUInt8, (n % 256).toUInt8]

/-- The number two big-endian bytes spell. -/
def wordOf (hi lo : UInt8) : UInt16 := (hi.toNat * 256 + lo.toNat).toUInt16

/-- Fails unless the buffer holds `needed` bytes. -/
def checkCapacity (needed capacity : Nat) : Except CodecError Unit :=
  if capacity < needed then .error (.bufferTooSmall needed capacity) else .ok ()

/-- A request message: opcode, filename, NUL, mode, NUL. -/
def encodeRequest (op : Opcode) (filename mode : String) (capacity : Nat) :
    Except CodecError (List UInt8) := do
  if !op.isRequest then throw (.notARequest op)
  let f := Utf8.encode filename
  let m := Utf8.encode mode
  if f.contains 0 || m.contains 0 then throw .embeddedNul
  checkCapacity (2 + f.length + 1 + m.length + 1) capacity
  return wordBytes op.toNat ++ f ++ [0] ++ m ++ [0]

/-- A DATA message: opcode, block, payload of at most 512 bytes. -/
def encodeData (block : UInt16) (payload : List UInt8) (capacity : Nat) :
    Except CodecError (List UInt8) := do
  if payload.length > maxPayload then throw (.payloadTooLarge payload.length)
  checkCapacity (headerSize + payload.length) capacity
  return wordBytes Opcode.data.toNat ++ wordBytes block.toNat ++ payload

/-- An ACK message: opcode, block. -/
def encodeAck (block : UInt16) (capacity : Nat) : Except CodecError (List UInt8) := do
  checkCapacity headerSize capacity
  return wordBytes Opcode.ack.toNat ++ wordBytes block.toNat

/-- An ERROR message: opcode, code, the message cut at its first NUL and then to the buffer,
and a NUL. -/
def encodeError (code : ErrorCode) (message : String) (capacity : Nat) :
    Except CodecError (List UInt8) := do
  checkCapacity minErrorSize capacity
  let text := (messageBytes message).take (capacity - minErrorSize)
  return wordBytes Opcode.error.toNat ++ wordBytes code.toNat ++ text ++ [0]

namespace Packet

/-- The bytes a message writes into a buffer of `capacity` bytes. -/
def write? (p : Packet) (capacity : Nat) : Except CodecError (List UInt8) :=
  match p with
  | request op filename mode => encodeRequest (Opcode.ofOperation op) filename mode capacity
  | data block payload => encodeData block payload capacity
  | ack block => encodeAck block capacity
  | error code message => encodeError code message capacity

/-- Writes the message at the front of `buf`: the buffer after, and the number of bytes written
or why nothing was. Bytes past the written ones are those of `buf`, and a failed write leaves
`buf` as it was. -/
def encodeInto (p : Packet) (buf : List UInt8) : List UInt8 × Except CodecError Nat :=
  match p.write? buf.length with
  | .ok w => (w ++ buf.drop w.length, .ok w.length)
  | .error e => (buf, .error e)

/-- The buffer size `toBytes` uses: the message's own length, and at most one datagram for an
ERROR. -/
def bufferSize (p : Packet) : Nat :=
  match p with
  | error .. => min p.encodedLen maxPacketSize
  | _ => p.encodedLen

/-- The message as a fresh datagram. -/
def toBytes (p : Packet) : Except CodecError (List UInt8) := p.write? p.bufferSize

end Packet

end Tftp
