import Tftp.Huffman.Container
import Tftp.Store.Volume
import Tftp.FileName

/-!
# Compressing files

Compressing a file of a volume writes its container next to it under the compressed-file
suffix; restoring a `.cmp` file writes the bytes back under the name without the suffix. Paths are
reported as the root's path joined with the name. A twin named just `.cmp` restores to the root
directory itself, which cannot be written.
-/

namespace Tftp.Huffman

/-- The path of a name under a root; an absolute name stands for itself. -/
def pathOf (root name : String) : String :=
  if name.startsWith "/" then name else root ++ "/" ++ name

/-- Lifts a file-system failure. -/
def ioResult {α : Type} : Except Errno α → Except CompressionError α
  | .ok a => .ok a
  | .error e => .error (.io e)

/-- Compresses `name` into its twin; the twin's path on success. -/
def compressFile (root : String) (v : Volume) (name : String) :
    Volume × Except CompressionError String :=
  let target := compressedName name
  match ioResult (v.readFile name) >>= compress with
  | .error e => (v, .error e)
  | .ok packed =>
    match v.writeFile target packed with
    | .ok v => (v, .ok (pathOf root target))
    | .error e => (v, .error (.io e))

/-- Restores a `.cmp` file under the name without the suffix; that name's path on success. -/
def decompressFile (root : String) (v : Volume) (name : String) :
    Volume × Except CompressionError String :=
  match stripCompressedSuffix? name with
  | none => (v, .error (.unexpectedName (pathOf root name)))
  | some target =>
    match ioResult (v.readFile name) >>= decompress with
    | .error e => (v, .error e)
    | .ok bytes =>
      match v.writeFile target bytes with
      | .ok v => (v, .ok (pathOf root target))
      | .error e => (v, .error (.io e))

end Tftp.Huffman
