import Tftp.Errno

/-!
# Compression errors

Why a container could not be built or read, or why a file could not be compressed or restored.
-/

namespace Tftp

/-- Why compressing or restoring failed. -/
inductive CompressionError where
  /-- The data does not start with the container's magic. -/
  | badMagic
  /-- The data ends before the header or before the promised number of bytes. -/
  | truncated
  /-- The code lengths cannot form a prefix code, or a code would be too long. -/
  | invalidCodeTable
  /-- The bits match no code. -/
  | invalidBitstream
  /-- A file to restore does not carry the compressed-file suffix. -/
  | unexpectedName (path : String)
  /-- Reading or writing a file failed. -/
  | io (err : Errno)
  deriving DecidableEq, Repr

/-- The text of each error. -/
def CompressionError.message : CompressionError → String
  | badMagic => "not a compressed file (bad magic)"
  | truncated => "compressed data is truncated"
  | invalidCodeTable => "corrupt code table"
  | invalidBitstream => "bitstream does not decode to a known symbol"
  | unexpectedName path => "'" ++ path ++ "' does not carry the compressed-file suffix"
  | io err => "I/O error: " ++ err.message

end Tftp
