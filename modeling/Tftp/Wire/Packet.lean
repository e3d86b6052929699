import Tftp.Text.Utf8
import Tftp.Wire.Opcode

/-!
# Packets

The six TFTP messages as one type. The three requests share a layout and differ only in the
operation they ask for, so they are one constructor. Every integer on the wire is a big-endian
16-bit word:

| message          | bytes                                      |
|------------------|--------------------------------------------|
| RRQ / WRQ / DEL  | opcode · filename · 0 · mode · 0           |
| DATA             | opcode · block · payload (at most 512)     |
| ACK              | opcode · block                             |
| ERROR            | opcode · code · message · 0                |
-/

namespace Tftp

/-- Largest payload of one DATA message. -/
def maxPayload : Nat := 512

/-- Opcode and block number, or opcode and error code. -/
def headerSize : Nat := 4

/-- A DATA header with a full payload: the largest message sent. -/
def maxPacketSize : Nat := maxPayload + headerSize

/-- The smallest buffer an ERROR fits in: header and terminator. -/
def minErrorSize : Nat := headerSize + 1

/-- Receive buffers hold this many bytes; longer datagrams are cut. -/
def receiveBufferSize : Nat := 1024

/-- The block number of the ACK that confirms a delete. -/
def deleteAckBlock : UInt16 := 0xFFFF

/-- The only transfer mode served. -/
def octetMode : String := "octet"

/-- A TFTP message. -/
inductive Packet where
  /-- RRQ, WRQ or DEL: a request to read, write or delete `filename`. -/
  | request (op : Operation) (filename mode : String)
  | data (block : UInt16) (payload : List UInt8)
  | ack (block : UInt16)
  | error (code : ErrorCode) (message : String)
  deriving DecidableEq, Repr, Inhabited

/-- Whether a mode names octet transfers, up to ASCII case. -/
def isOctetMode (mode : String) : Bool :=
  (mode.toList.map Char.toLower) == octetMode.toList

/-- The bytes of a message text up to its first NUL. -/
def messageBytes (message : String) : List UInt8 :=
  (Utf8.encode message).takeWhile (· != 0)

namespace Packet

/-- A read request in octet mode. -/
def readRequest (filename : String) : Packet := request .read filename octetMode

/-- A write request in octet mode. -/
def writeRequest (filename : String) : Packet := request .write filename octetMode

/-- A delete request in octet mode. -/
def deleteRequest (filename : String) : Packet := request .delete filename octetMode

/-- The opcode of a message. -/
def opcode : Packet → Opcode
  | request op _ _ => Opcode.ofOperation op
  | data .. => .data
  | ack _ => .ack
  | error .. => .error

/-- Bytes the message takes when nothing is cut. -/
def encodedLen : Packet → Nat
  | request _ filename mode => 2 + Utf8.byteLength filename + 1 + Utf8.byteLength mode + 1
  | data _ payload => headerSize + payload.length
  | ack _ => headerSize
  | error _ message => headerSize + (messageBytes message).length + 1

/-- The one-line description of a message, as in `RRQ 'boot.img' (octet)`, `DATA #1 (3 bytes)`,
`ACK #5` or `ERROR File not found (1): no such file`. -/
def describe : Packet → String
  | p@(request _ filename mode) => p.opcode.name ++ " '" ++ filename ++ "' (" ++ mode ++ ")"
  | data block payload =>
    "DATA #" ++ toString block.toNat ++ " (" ++ toString payload.length ++ " bytes)"
  | ack block => "ACK #" ++ toString block.toNat
  | error code message => "ERROR " ++ code.describe ++ ": " ++ message

instance : ToString Packet := ⟨describe⟩

end Packet

end Tftp
