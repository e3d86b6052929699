import Tftp.Huffman.DecodeTable

/-!
# The compressed container

Compressed data is the magic `HUF1`, the uncompressed length as a big-endian 64-bit number, the 256
code lengths, and then the canonical codes of the input bytes, most significant bit first, the
last byte padded with zero bits. Reading checks the header, rebuilds the codes from the lengths and
reads codes until the promised number of bytes is out; bits that match no code are an error, and
so is running out of bits first.
-/

namespace Tftp.Huffman

/-- The four bytes `HUF1` every container starts with. -/
def magic : List UInt8 := [0x48, 0x55, 0x46, 0x31]

/-- Magic, length and code lengths. -/
def headerLength : Nat := 4 + 8 + 256

/-- A number as eight big-endian bytes. -/
def u64Bytes (n : Nat) : List UInt8 :=
  (List.range 8).reverse.map fun i => (n / Nat.pow 2 (8 * i) % 256).toUInt8

/-- The number big-endian bytes spell. -/
def beValue (bytes : List UInt8) : Nat :=
  bytes.foldl (fun acc b => acc * 256 + b.toNat) 0

/-- Bits written most significant first into whole bytes; fewer than eight bits wait in `acc`. -/
structure BitWriter where
  bytes : Array UInt8 := #[]
  acc : Nat := 0
  pending : Nat := 0
  deriving Inhabited

namespace BitWriter

/-- Appends the `len` low bits of `code`, most significant first. -/
def push (w : BitWriter) (code len : Nat) : BitWriter :=
  let acc := w.acc * Nat.pow 2 len + code
  let n := w.pending + len
  let out := (List.range (n / 8)).foldl
    (fun out i => out.push (acc / Nat.pow 2 (n - 8 * (i + 1)) % 256).toUInt8) w.bytes
  { bytes := out, acc := acc % Nat.pow 2 (n % 8), pending := n % 8 }

/-- The written bytes, the last one padded with zero bits. -/
def finish (w : BitWriter) : List UInt8 :=
  if w.pending > 0 then (w.bytes.push (w.acc * Nat.pow 2 (8 - w.pending) % 256).toUInt8).toList
  else w.bytes.toList

end BitWriter

/-- The container of a byte string. -/
def compress (input : List UInt8) : Except CompressionError (List UInt8) := do
  let lengths ← codeLengths (frequencies input)
  let codes := canonicalCodes lengths
  let body := input.foldl
    (fun w b => w.push (codes.getD b.toNat 0) (lengths.getD b.toNat 0)) ({} : BitWriter)
  return magic ++ u64Bytes input.length ++ lengths.toList.map Nat.toUInt8 ++ body.finish

/-- Where reading the bits stands. -/
inductive BitScan where
  /-- Reading: the bits of the current code, its length so far and the values out so far. -/
  | reading (code len : Nat) (out : Array UInt8)
  /-- All promised values are out; later bits are ignored. -/
  | complete (out : Array UInt8)
  /-- Bits that match no code. -/
  | failed

/-- The bits of a byte, most significant first. -/
def byteBits (b : UInt8) : List Bool := (List.range 8).reverse.map fun i => b.toNat.testBit i

/-- Reads one more bit. -/
def BitScan.step (t : DecodeTable) (expected : Nat) (s : BitScan) (bit : Bool) : BitScan :=
  match s with
  | reading code len out =>
    let code := code * 2 + (if bit then 1 else 0)
    let len := len + 1
    match t.lookup code len with
    | some sym =>
      let out := out.push sym.toUInt8
      if out.size = expected then complete out else reading 0 0 out
    | none => if len ≥ t.maxLen then failed else reading code len out
  | s => s

/-- Reads `expected` values from the bits of `body`. -/
def decodeBody (t : DecodeTable) (expected : Nat) (body : List UInt8) :
    Except CompressionError (List UInt8) :=
  let s := body.foldl (fun s b => (byteBits b).foldl (BitScan.step t expected) s) (.reading 0 0 #[])
  match s with
  | .complete out => .ok out.toList
  | .reading _ _ _ => .error .truncated
  | .failed => .error .invalidBitstream

/-- The bytes a container holds. -/
def decompress (input : List UInt8) : Except CompressionError (List UInt8) :=
  if input.length < headerLength then
    if magic.isPrefixOf input || input.length < magic.length then .error .truncated
    else .error .badMagic
  else if input.take 4 != magic then .error .badMagic
  else
    let expected := beValue ((input.drop 4).take 8)
    let lengths := ((input.drop 12).take 256).map UInt8.toNat
    if expected = 0 then .ok []
    else do
      let t ← DecodeTable.build lengths.toArray
      decodeBody t expected (input.drop headerLength)

end Tftp.Huffman
