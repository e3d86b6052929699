import Tftp.Huffman.CodeLengths

/-!
# Canonical codes

The canonical prefix code of a table of code lengths. The used byte values are taken in order of
(length, value); the first gets code 0, and each next one gets the previous code plus one,
shifted left by the growth in length. Only the lengths need to be stored: both ends rebuild the
same codes from them.
-/

namespace Tftp.Huffman

/-- The used byte values in canonical order: by length, then by value. -/
def canonicalOrder (lengths : Array Nat) : List Nat :=
  ((List.range 256).filter fun s => lengths.getD s 0 > 0).mergeSort fun a b =>
    let la := lengths.getD a 0
    let lb := lengths.getD b 0
    la < lb || (la == lb && a ≤ b)

/-- One value of the canonical-code loop: its code is the running code shifted left by the
growth in length, and the running code moves one past it. -/
def canonicalStep (lengths : Array Nat) (acc : Array Nat × Nat × Nat) (s : Nat) :
    Array Nat × Nat × Nat :=
  let (codes, code, prev) := acc
  let len := lengths.getD s 0
  let code := code <<< (len - prev)
  (codes.set! s code, code + 1, len)

theorem canonicalStep_eq (lengths codes : Array Nat) (code prev s : Nat) :
    canonicalStep lengths (codes, code, prev) s =
      (codes.set! s (code <<< (lengths.getD s 0 - prev)),
        code <<< (lengths.getD s 0 - prev) + 1, lengths.getD s 0) := rfl

/-- The canonical code of every byte value (0 for unused values). -/
def canonicalCodes (lengths : Array Nat) : Array Nat :=
  ((canonicalOrder lengths).foldl (canonicalStep lengths) (Array.replicate 256 0, 0, 0)).1

end Tftp.Huffman
