import Tftp.Text.Utf8
import Tftp.Text.Whitespace

/-!
# File names

Which names a store accepts, and the name of the temporary compressed twin of a file.

A name is accepted when it stays a single component inside the store root: it is not blank, not
`.` or `..`, at most 255 UTF-8 bytes long, free of `/` and `\`, and free of control characters.
The checks run in that order, and the first that fails gives the reason.
-/

namespace Tftp

/-- Longest accepted file name, in UTF-8 bytes. -/
def maxFileNameLength : Nat := 255

/-- Suffix of the temporary file holding compressed bytes. -/
def compressedSuffix : String := ".cmp"

/-- Why a file name is refused. -/
inductive NameRejection where
  | empty
  | dotName
  | tooLong
  | separator
  | control
  deriving DecidableEq, Repr

/-- The reason as reported to peers and callers. -/
def NameRejection.reason : NameRejection → String
  | empty => "empty file name"
  | dotName => "invalid file name"
  | tooLong => "file name too long"
  | separator => "path separators are not allowed"
  | control => "control characters are not allowed"

/-- Checks a requested file name; the first failing rule gives the rejection. -/
def checkFileName (name : String) : Except NameRejection Unit :=
  if name.toList.all Text.isWhiteSpace then .error .empty
  else if name = "." ∨ name = ".." then .error .dotName
  else if Utf8.byteLength name > maxFileNameLength then .error .tooLong
  else if name.toList.any (fun c => c = '/' ∨ c = '\\') then .error .separator
  else if name.toList.any Text.isControl then .error .control
  else .ok ()

/-- Whether a file name is accepted. -/
def isValidFileName (name : String) : Bool := (checkFileName name).toBool

/-- The name of the compressed twin of a file. -/
def compressedName (name : String) : String := name ++ compressedSuffix

/-- The part of a name before the compressed-file suffix, if it has the suffix; possibly empty. -/
def stripCompressedSuffix? (name : String) : Option String :=
  let cs := name.toList
  let suffix := compressedSuffix.toList
  if suffix.isSuffixOf cs then some (String.ofList (cs.take (cs.length - suffix.length)))
  else none

/-- The name a compressed twin stands for: the name without its suffix, if it has the suffix and
something is left. -/
def decompressedName? (name : String) : Option String :=
  match stripCompressedSuffix? name with
  | some "" => none
  | r => r

end Tftp
