import Tftp.Huffman.Canonical

/-!
# Decode tables

The table that reads canonical codes back, built from the stored code lengths alone. For every
length it keeps the number of codes of that length, the first code of that length and where its
values start in the canonical order; a code of length `len` then names the value at its distance
from the first code. The lengths are refused when the longest is 0 or above 56, or when they
over-subscribe the code space (Kraft's sum above 1).
-/

namespace Tftp.Huffman

/-- Per-length ranges of canonical codes. -/
structure DecodeTable where
  maxLen : Nat
  /-- Number of codes of each length, indexed by length. -/
  count : Array Nat
  /-- The first code of each length. -/
  firstCode : Array Nat
  /-- Where the values of each length start in `symbols`. -/
  offset : Array Nat
  /-- The used byte values in canonical order. -/
  symbols : Array Nat
  deriving Repr, Inhabited

/-- The longest code length of a table. -/
def longestLength (lengths : Array Nat) : Nat := lengths.foldl max 0

/-- Number of codes of each length `0..maxLen`. -/
def lengthCounts (lengths : Array Nat) (maxLen : Nat) : Array Nat :=
  lengths.foldl (fun c l => if l > 0 then c.modify l (· + 1) else c)
    (Array.replicate (maxLen + 1) 0)

/-- Kraft's sum scaled by `2 ^ maxLen`: the share of the code space the lengths take. -/
def kraftSum (count : Array Nat) (maxLen : Nat) : Nat :=
  (List.range maxLen).foldl (fun k i => k + count.getD (i + 1) 0 * Nat.pow 2 (maxLen - (i + 1))) 0

/-- One length of the first-code loop: the running code doubles for the longer length and is
the first code of that length, the running index is where its values start, and both move past
the codes of that length. -/
def firstCodeStep (count : Array Nat) (acc : Array Nat × Array Nat × Nat × Nat) (len : Nat) :
    Array Nat × Array Nat × Nat × Nat :=
  let (first, offset, code, index) := acc
  let code := code * 2
  let n := count.getD len 0
  (first.set! len code, offset.set! len index, code + n, index + n)

theorem firstCodeStep_eq (count first offset : Array Nat) (code index len : Nat) :
    firstCodeStep count (first, offset, code, index) len =
      (first.set! len (code * 2), offset.set! len index, code * 2 + count.getD len 0,
        index + count.getD len 0) := rfl

/-- First codes and offsets of every length, from the counts. -/
def firstCodes (count : Array Nat) (maxLen : Nat) : Array Nat × Array Nat :=
  let (first, offset, _, _) := ((List.range maxLen).map (· + 1)).foldl (firstCodeStep count)
    (Array.replicate (maxLen + 1) 0, Array.replicate (maxLen + 1) 0, 0, 0)
  (first, offset)

namespace DecodeTable

/-- The decode table of stored code lengths, or why they form no prefix code. -/
def build (lengths : Array Nat) : Except CompressionError DecodeTable :=
  let maxLen := longestLength lengths
  if maxLen = 0 ∨ maxLen > maxCodeLength then .error .invalidCodeTable
  else
    let count := lengthCounts lengths maxLen
    if kraftSum count maxLen > Nat.pow 2 maxLen then .error .invalidCodeTable
    else
      let (first, offset) := firstCodes count maxLen
      .ok ⟨maxLen, count, first, offset, (canonicalOrder lengths).toArray⟩

/-- The byte value whose code is `code` with length `len`, if any. -/
def lookup (t : DecodeTable) (code len : Nat) : Option Nat :=
  let n := t.count.getD len 0
  if len > t.maxLen ∨ n = 0 then none
  else
    let first := t.firstCode.getD len 0
    if code < first then none
    else if code - first < n then t.symbols[t.offset.getD len 0 + (code - first)]?
    else none

end DecodeTable

end Tftp.Huffman
