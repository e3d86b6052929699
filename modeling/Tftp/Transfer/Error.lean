import Tftp.Net.Address
import Tftp.Errno
import Tftp.Wire.Error
import Tftp.Huffman.Error
import Tftp.Access.Error
import Tftp.Operation

/-!
# Transfer errors and summaries

Why a transfer did not complete, and what one that did moved. Socket failures are transport
errors; a transfer fails when the peer reports an error, when its retry budget runs out, when the
store refuses access, or when a local file, the codec or the compressor fails.
-/

namespace Tftp

open Tftp.Net

/-- A failure of a UDP socket. -/
inductive TransportError where
  | bind (addr : SocketAddr) (err : Errno)
  | ephemeralExhausted (tries : Nat)
  | shortWrite (sent expected : Nat)
  | timeout
  | io (err : Errno)
  deriving DecidableEq, Repr

/-- The text of each transport error. -/
def TransportError.message : TransportError → String
  | bind addr e => "failed to bind " ++ addr.toText ++ ": " ++ e.message
  | ephemeralExhausted n => "no free ephemeral port after " ++ toString n ++ " attempts"
  | shortWrite s e => "short write: sent " ++ toString s ++ " of " ++ toString e ++ " bytes"
  | timeout => "receive timed out"
  | io e => e.message

/-- Why a transfer did not complete. -/
inductive TransferError where
  /-- The peer sent an ERROR packet. -/
  | peer (code : ErrorCode) (message : String)
  /-- This many soft failures in a row. -/
  | retriesExhausted (attempts : Nat)
  | access (e : AccessError)
  /-- A local file could not be read or written. -/
  | io (e : Errno)
  | transport (e : TransportError)
  | codec (e : CodecError)
  | compression (e : CompressionError)
  | unexpected (op : Opcode)
  deriving DecidableEq, Repr

/-- The text of each transfer error. -/
def TransferError.message : TransferError → String
  | peer code msg => "peer reported error: " ++ code.describe ++ ": " ++ msg
  | retriesExhausted n => "no valid response after " ++ toString n ++ " attempts"
  | access e => "request rejected locally: " ++ e.message
  | io e => "local file I/O failed: " ++ e.message
  | transport e => e.message
  | codec e => e.message
  | compression e => e.message
  | unexpected op => "unexpected " ++ op.name ++ " from peer"

/-- Blocks and bytes a transfer moved. -/
structure Stats where
  blocks : Nat := 0
  bytes : Nat := 0
  deriving DecidableEq, Repr, Inhabited

/-- Counts one more block of `size` bytes. -/
def Stats.add (s : Stats) (size : Nat) : Stats :=
  { blocks := s.blocks + 1, bytes := s.bytes + size }

/-- What a finished client operation did. -/
structure Summary where
  operation : Operation
  fileName : String
  stats : Stats
  deriving DecidableEq, Repr

end Tftp
