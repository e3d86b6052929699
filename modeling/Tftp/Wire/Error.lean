import Tftp.Wire.Opcode

/-!
# Codec errors

Why a message could not be encoded or decoded, and the text that reports it.
-/

namespace Tftp

/-- The two text fields of a request. -/
inductive TextField where
  | filename
  | mode
  deriving DecidableEq, Repr

/-- The field's name as messages spell it. -/
def TextField.name : TextField → String
  | filename => "filename"
  | mode => "mode"

/-- Why a message could not be encoded or decoded. -/
inductive CodecError where
  /-- The datagram ends before its header does; `len` is the datagram's whole length. -/
  | truncated (len : Nat)
  | unknownOpcode (raw : UInt16)
  | missingTerminator (field : TextField)
  | invalidText (field : TextField)
  | payloadTooLarge (len : Nat)
  | bufferTooSmall (needed available : Nat)
  | embeddedNul
  | notARequest (op : Opcode)
  deriving DecidableEq, Repr

namespace CodecError

/-- The text of each error. -/
def message : CodecError → String
  | truncated len => "packet truncated (" ++ toString len ++ " bytes)"
  | unknownOpcode raw => "unknown opcode " ++ toString raw.toNat
  | missingTerminator field => field.name ++ " field is not NUL-terminated"
  | invalidText field => field.name ++ " field is not valid ASCII text"
  | payloadTooLarge len => "data payload of " ++ toString len ++ " bytes exceeds 512"
  | bufferTooSmall needed available =>
    "buffer too small: need " ++ toString needed ++ " bytes, have " ++ toString available
  | embeddedNul => "text field contains an embedded NUL"
  | notARequest op => op.name ++ " is not a request opcode"

end CodecError

end Tftp
