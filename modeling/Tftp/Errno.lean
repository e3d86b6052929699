/-!
# Operating-system errors

The failures of file and socket calls that the library reports, with their Linux numbers and
texts. An error is shown as its description followed by its number, as in
`No such file or directory (os error 2)`.
-/

namespace Tftp

/-- A failed system call, by its Linux error number. -/
inductive Errno where
  /-- ENOENT: a path component does not exist. -/
  | noEntry
  /-- EBADF: the descriptor is not open for the requested access. -/
  | badDescriptor
  /-- EEXIST: the path already exists. -/
  | alreadyExists
  /-- ENOTDIR: a path component is not a directory. -/
  | notDirectory
  /-- EISDIR: the path is a directory. -/
  | isDirectory
  /-- ENAMETOOLONG: a path component is longer than a directory entry can hold. -/
  | nameTooLong
  /-- ENOTEMPTY: the directory is not empty. -/
  | notEmpty
  /-- EMSGSIZE: the datagram is too long to send. -/
  | messageTooLong
  /-- EADDRINUSE: the address is already bound. -/
  | addressInUse
  /-- ENETUNREACH: no route to the destination network. -/
  | networkUnreachable
  /-- A path holding a NUL byte, which no system call can be given. -/
  | nulInPath
  /-- Any other failure a real host reports, by its number and text. -/
  | other (number : Nat) (text : String)
  deriving DecidableEq, Repr, Inhabited

namespace Errno

/-- The Linux error number. -/
def code : Errno → Nat
  | noEntry => 2
  | badDescriptor => 9
  | alreadyExists => 17
  | notDirectory => 20
  | isDirectory => 21
  | nameTooLong => 36
  | notEmpty => 39
  | messageTooLong => 90
  | addressInUse => 98
  | networkUnreachable => 101
  | nulInPath => 22  -- EINVAL, the kind of argument it is
  | other number _ => number

/-- Whether the system refused the call for want of permission: EPERM or EACCES, the two numbers
the standard library reports as a denied permission. -/
def deniesPermission : Errno → Bool
  | other number _ => number == 1 || number == 13
  | _ => false

/-- The C library's description. -/
def description : Errno → String
  | noEntry => "No such file or directory"
  | badDescriptor => "Bad file descriptor"
  | alreadyExists => "File exists"
  | notDirectory => "Not a directory"
  | isDirectory => "Is a directory"
  | nameTooLong => "File name too long"
  | notEmpty => "Directory not empty"
  | messageTooLong => "Message too long"
  | addressInUse => "Address already in use"
  | networkUnreachable => "Network is unreachable"
  | nulInPath => "file name contained an unexpected NUL byte"
  | other _ text => text

/-- The error as reported: description and number; a path refused before any call was made has
no number to show. -/
def message : Errno → String
  | nulInPath => nulInPath.description
  | e => e.description ++ " (os error " ++ toString e.code ++ ")"

instance : ToString Errno := ⟨message⟩

end Errno

end Tftp
