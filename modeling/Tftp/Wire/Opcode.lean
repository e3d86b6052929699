import Tftp.Operation

/-!
# Opcodes and error codes

The first two bytes of every message say its kind: 1 to 5 as RFC 1350 numbers them, and 6 for
the delete request. An ERROR message carries one of the eight error codes of RFC 1350; each has a
fixed default text.
-/

namespace Tftp

/-- The kind of a message, as its first two bytes number it. -/
inductive Opcode where
  | rrq
  | wrq
  | data
  | ack
  | error
  | del
  deriving DecidableEq, Repr, Inhabited

namespace Opcode

/-- The number on the wire. -/
def toNat : Opcode → Nat
  | rrq => 1
  | wrq => 2
  | data => 3
  | ack => 4
  | error => 5
  | del => 6

/-- The opcode a number names, if any. -/
def ofNat? : Nat → Option Opcode
  | 1 => some rrq
  | 2 => some wrq
  | 3 => some data
  | 4 => some ack
  | 5 => some error
  | 6 => some del
  | _ => none

/-- The short upper-case name. -/
def name : Opcode → String
  | rrq => "RRQ"
  | wrq => "WRQ"
  | data => "DATA"
  | ack => "ACK"
  | error => "ERROR"
  | del => "DEL"

instance : ToString Opcode := ⟨name⟩

/-- Requests open a transfer on the well-known port. -/
def isRequest : Opcode → Bool
  | rrq | wrq | del => true
  | _ => false

/-- The request opcode of an operation. -/
def ofOperation : Operation → Opcode
  | .read => rrq
  | .write => wrq
  | .delete => del

/-- The operation a request opcode asks for. -/
def operation? : Opcode → Option Operation
  | rrq => some .read
  | wrq => some .write
  | del => some .delete
  | _ => none

theorem ofNat?_toNat (op : Opcode) : ofNat? op.toNat = some op := by
  cases op <;> rfl

theorem toNat_of_ofNat? {n : Nat} {op : Opcode} (h : ofNat? n = some op) : op.toNat = n := by
  unfold ofNat? at h
  split at h <;> first | (cases h; rfl) | cases h

theorem isRequest_ofOperation (o : Operation) : (ofOperation o).isRequest = true := by
  cases o <;> rfl

theorem operation?_ofOperation (o : Operation) : (ofOperation o).operation? = some o := by
  cases o <;> rfl

end Opcode

/-- The error codes of RFC 1350. -/
inductive ErrorCode where
  | notDefined
  | fileNotFound
  | accessViolation
  | diskFull
  | illegalOperation
  | unknownTid
  | fileAlreadyExists
  | noSuchUser
  deriving DecidableEq, Repr, Inhabited

namespace ErrorCode

/-- The number on the wire. -/
def toNat : ErrorCode → Nat
  | notDefined => 0
  | fileNotFound => 1
  | accessViolation => 2
  | diskFull => 3
  | illegalOperation => 4
  | unknownTid => 5
  | fileAlreadyExists => 6
  | noSuchUser => 7

/-- The error code a number names, if any. -/
def ofNat? : Nat → Option ErrorCode
  | 0 => some notDefined
  | 1 => some fileNotFound
  | 2 => some accessViolation
  | 3 => some diskFull
  | 4 => some illegalOperation
  | 5 => some unknownTid
  | 6 => some fileAlreadyExists
  | 7 => some noSuchUser
  | _ => none

/-- A received code outside 0..7 reads as `notDefined`. -/
def ofNatOrUndefined (n : Nat) : ErrorCode := (ofNat? n).getD notDefined

/-- The default text of each code. -/
def defaultMessage : ErrorCode → String
  | notDefined => "Undefined error"
  | fileNotFound => "File not found"
  | accessViolation => "Access violation"
  | diskFull => "Disk full or allocation exceeded"
  | illegalOperation => "Illegal TFTP operation"
  | unknownTid => "Unknown transfer ID"
  | fileAlreadyExists => "File already exists"
  | noSuchUser => "No such user"

/-- The text of a code: its default message and its number, as in `File not found (1)`. -/
def describe (c : ErrorCode) : String := c.defaultMessage ++ " (" ++ toString c.toNat ++ ")"

instance : ToString ErrorCode := ⟨describe⟩

theorem ofNat?_toNat (c : ErrorCode) : ofNat? c.toNat = some c := by
  cases c <;> rfl

theorem toNat_lt (c : ErrorCode) : c.toNat < 8 := by
  cases c <;> decide

end ErrorCode

end Tftp
