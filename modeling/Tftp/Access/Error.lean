import Tftp.FileName
import Tftp.Errno
import Tftp.Wire.Opcode

/-!
# Access errors

Why the arbiter refused or failed a call, the text that reports it, and the error code a peer is
sent for it.
-/

namespace Tftp

/-- Why access to a name is denied. -/
inductive Denial where
  /-- The name itself is refused. -/
  | badName (r : NameRejection)
  | permissionDenied
  | beingWritten
  | inUse
  | cannotCreate
  | cannotDelete
  deriving DecidableEq, Repr

/-- The reason as reported. -/
def Denial.reason : Denial → String
  | badName r => r.reason
  | permissionDenied => "permission denied"
  | beingWritten => "file is being written"
  | inUse => "file is in use"
  | cannotCreate => "cannot create file"
  | cannotDelete => "cannot delete file"

/-- A release that finds no holder to release. -/
inductive Fault where
  | closeReadWithoutReader
  | closeWriteWithoutWriter
  | abandonWithoutWriter
  deriving DecidableEq, Repr

/-- The detail as reported. -/
def Fault.detail : Fault → String
  | closeReadWithoutReader => "close_read without an active reader"
  | closeWriteWithoutWriter => "close_write without an active writer"
  | abandonWithoutWriter => "abandon_write without an active writer"

/-- Why the arbiter refused or failed a call. -/
inductive AccessError where
  | notFound (name : String)
  | alreadyExists (name : String)
  | violation (name : String) (denial : Denial)
  | invariant (name : String) (fault : Fault)
  | io (name : String) (err : Errno)
  deriving DecidableEq, Repr

namespace AccessError

/-- The text of each error. -/
def message : AccessError → String
  | notFound name => "file '" ++ name ++ "' not found"
  | alreadyExists name => "file '" ++ name ++ "' already exists"
  | violation name d => "access to '" ++ name ++ "' denied: " ++ d.reason
  | invariant name f => "access table invariant violated for '" ++ name ++ "': " ++ f.detail
  | io name err => "I/O error on '" ++ name ++ "': " ++ err.message

/-- The error code a peer is sent. -/
def wireCode : AccessError → ErrorCode
  | notFound _ => .fileNotFound
  | alreadyExists _ => .fileAlreadyExists
  | violation .. => .accessViolation
  | invariant .. | io .. => .notDefined

end AccessError

/-- A name the store accepts, or the violation that refuses it. -/
def checkName (name : String) : Except AccessError Unit :=
  match checkFileName name with
  | .ok () => .ok ()
  | .error r => .error (.violation name (.badName r))

end Tftp
