import Tftp.Proofs.Huffman.Untrusted
import Mathlib

/-!
# Canonical codes form a prefix code

The canonical codes and the decode table are built from the code lengths by two separate loops:
one walks the used values in canonical order, shifting the running code by each growth in length;
the other keeps, for every length, the count of codes, the first code and where its values start.
For every table of lengths that `DecodeTable.build` accepts (the longest between 1 and 56 and
Kraft's sum at most 1, complete or not, with lengths that no value has), the two agree on one
prefix code (`build_reads_canonical`): every code fits in its length, no code is a prefix of
another, and the table names a value for a code of a given length exactly when it is that value's
canonical code. Reading the concatenated codes of used values then gives the values back, both in
the bit loop and through a whole container.
-/

namespace Tftp.Huffman

/-- The canonical code of `s` as bits, most significant first. -/
def codeBits (ls : Array Nat) (s : Nat) : List Bool :=
  bitsOf ((canonicalCodes ls).getD s 0) (ls.getD s 0)

/-! ## Bits of numbers -/

theorem testBit_eq_of_bitsOf_eq {v w : Nat} {n : Nat} (h : bitsOf v n = bitsOf w n) :
    ∀ i < n, v.testBit i = w.testBit i := by
  induction n with
  | zero => intro i hi; omega
  | succ n ih =>
    simp only [bitsOf, List.cons.injEq] at h
    intro i hi
    by_cases hin : i = n
    · exact hin ▸ h.1
    · exact ih h.2 i (by omega)

/-- Numbers below `2 ^ n` are told apart by their `n` low bits. -/
theorem eq_of_bitsOf_eq {v w n : Nat} (hv : v < 2 ^ n) (hw : w < 2 ^ n)
    (h : bitsOf v n = bitsOf w n) : v = w := by
  apply Nat.eq_of_testBit_eq
  intro i
  by_cases hi : i < n
  · exact testBit_eq_of_bitsOf_eq h i hi
  · -- above the `n` low bits both numbers are zero
    have hpow : 2 ^ n ≤ 2 ^ i := Nat.pow_le_pow_right (by decide) (by omega)
    rw [Nat.testBit_eq_false_of_lt (by omega), Nat.testBit_eq_false_of_lt (by omega)]

/-- When the `n` bits of `v` start the `m` bits of `w`, `v` is the top `n` bits of `w`. -/
theorem eq_div_of_bitsOf_prefix {v w n m : Nat} (hv : v < 2 ^ n) (hw : w < 2 ^ m)
    (h : bitsOf v n <+: bitsOf w m) : n ≤ m ∧ v = w / 2 ^ (m - n) := by
  have hnm : n ≤ m := by simpa using h.length_le
  have hsplit : bitsOf w m = bitsOf (w / 2 ^ (m - n)) n ++ bitsOf w (m - n) := by
    rw [← bitsOf_add, Nat.add_sub_cancel' hnm]
  have htop : bitsOf (w / 2 ^ (m - n)) n <+: bitsOf w m := hsplit ▸ List.prefix_append _ _
  have heq : bitsOf v n = bitsOf (w / 2 ^ (m - n)) n :=
    (List.prefix_of_prefix_length_le h htop (by simp)).eq_of_length (by simp)
  have hdiv : w / 2 ^ (m - n) < 2 ^ n := by
    rw [Nat.div_lt_iff_lt_mul (Nat.two_pow_pos _), ← Nat.pow_add, Nat.add_sub_cancel' hnm]
    exact hw
  exact ⟨hnm, eq_of_bitsOf_eq hv hdiv heq⟩

/-! ## Looking codes up -/

section
variable {ls : Array Nat}

theorem getElem?_foldl_count_zero (lens : List Nat) (acc : Array Nat) :
    (lens.foldl (fun c l => if l > 0 then c.modify l (· + 1) else c) acc)[0]? = acc[0]? := by
  induction lens generalizing acc with
  | nil => rfl
  | cons x lens ih =>
    rw [List.foldl_cons, ih]
    split
    · rename_i hx
      simp [Array.getElem?_modify, show x ≠ 0 by omega]
    · rfl

/-- No code has length 0. -/
theorem getD_lengthCounts_zero (M : Nat) : (lengthCounts ls M).getD 0 0 = 0 := by
  rw [lengthCounts, ← Array.foldl_toList, Array.getD_eq_getD_getElem?, getElem?_foldl_count_zero]
  simp

theorem pos_of_getD_pos {s : Nat} (hsize : ls.size = 256) (hs : 0 < ls.getD s 0) : s < 256 := by
  by_contra h
  simp [Array.getD, hsize, h] at hs

/-- A value the table names for a code is a used value, and the code is its canonical code of
its length. -/
theorem eq_of_lookup_canonicalTable (hsize : ls.size = 256) {c l s : Nat}
    (h : (canonicalTable ls).lookup c l = some s) :
    0 < ls.getD s 0 ∧ c = (canonicalCodes ls).getD s 0 ∧ l = ls.getD s 0 := by
  -- lengths 0 and past the longest name nothing
  have hl : 0 < l := by
    refine Nat.pos_of_ne_zero fun hl0 => ?_
    subst hl0
    have h0 : (canonicalTable ls).count.getD 0 0 = 0 := getD_lengthCounts_zero _
    simp [DecodeTable.lookup, h0] at h
  have hlM : l ≤ longestLength ls := by
    by_contra hlM
    simp [DecodeTable.lookup, canonicalTable, show longestLength ls < l by omega] at h
  rw [lookup_canonicalTable hsize hl hlM] at h
  split at h
  case isFalse => cases h
  case isTrue hrange =>
    obtain ⟨hi, hget⟩ := List.getElem?_eq_some_iff.1 h
    have hsW : s ∈ withLength ls l := List.mem_of_getElem? h
    obtain ⟨hs, hls⟩ := mem_withLength.1 hsW
    -- `s` stands at the code's distance from the first code of its length
    have hidx : (withLength ls l).idxOf s = c - 2 * kraftUpTo ls (l - 1) := by
      rw [← hget, (nodup_withLength l).idxOf_getElem]
    refine ⟨hls ▸ hl, ?_, hls.symm⟩
    rw [canonicalCodes_getD hsize hs (hls ▸ hl), canonicalCode, hls, hidx]
    omega

/-- Under Kraft's inequality the table names `s` for exactly one code and length: the canonical
code of `s` and its length. -/
theorem lookup_canonicalTable_iff (hsize : ls.size = 256)
    (hkraft : kraftUpTo ls (longestLength ls) ≤ 2 ^ longestLength ls) {c l s : Nat} :
    (canonicalTable ls).lookup c l = some s ↔
      0 < ls.getD s 0 ∧ c = (canonicalCodes ls).getD s 0 ∧ l = ls.getD s 0 := by
  constructor
  · exact eq_of_lookup_canonicalTable hsize
  · rintro ⟨hpos, rfl, rfl⟩
    exact (reads_canonicalCodes hsize hkraft (pos_of_getD_pos hsize hpos) hpos).lookup_code

/-- Under Kraft's inequality no canonical code is a prefix of another's. -/
theorem codeBits_prefix_free (hsize : ls.size = 256)
    (hkraft : kraftUpTo ls (longestLength ls) ≤ 2 ^ longestLength ls) {s s' : Nat}
    (hs : 0 < ls.getD s 0) (hs' : 0 < ls.getD s' 0) (h : codeBits ls s <+: codeBits ls s') :
    s = s' := by
  have hr := reads_canonicalCodes hsize hkraft (pos_of_getD_pos hsize hs) hs
  have hr' := reads_canonicalCodes hsize hkraft (pos_of_getD_pos hsize hs') hs'
  obtain ⟨hle, hcode⟩ := eq_div_of_bitsOf_prefix hr.code_lt hr'.code_lt h
  rcases Nat.lt_or_eq_of_le hle with hlt | heq
  · -- the code of `s` is a shorter prefix of the code of `s'`, which the table passes over
    have hnone := hr'.lookup_prefix (ls.getD s 0) hs hlt
    rw [← hcode, hr.lookup_code] at hnone
    cases hnone
  · rw [heq, Nat.sub_self, Nat.pow_zero, Nat.div_one] at hcode
    have hsame := hr.lookup_code
    rw [hcode, heq, hr'.lookup_code] at hsame
    exact (Option.some.inj hsame).symm

end

/-! ## The table `build` accepts -/

/-- What a decode table `t` made from the code lengths `ls` guarantees. Every used value's
canonical code fits in its length; no code is a prefix of another; `t` names a value for a code
of a length exactly when it is that value's canonical code of that length; the bit loop reading
the concatenated codes of a nonempty sequence of used values, followed by anything, gives the
sequence; and a container holding those lengths and codes, padded to whole bytes, restores it. -/
structure ReadsCanonical (ls : Array Nat) (t : DecodeTable) : Prop where
  code_lt : ∀ s, 0 < ls.getD s 0 → (canonicalCodes ls).getD s 0 < 2 ^ ls.getD s 0
  prefix_free : ∀ s s', 0 < ls.getD s 0 → 0 < ls.getD s' 0 →
    codeBits ls s <+: codeBits ls s' → s = s'
  lookup_eq_some_iff : ∀ c l s, t.lookup c l = some s ↔
    0 < ls.getD s 0 ∧ c = (canonicalCodes ls).getD s 0 ∧ l = ls.getD s 0
  scan_codes : ∀ (x : List UInt8) (rest : List Bool), x ≠ [] →
    (∀ b ∈ x, 0 < ls.getD b.toNat 0) →
    (x.flatMap (fun b => codeBits ls b.toNat) ++ rest).foldl (BitScan.step t x.length)
      (.reading 0 0 #[]) = .complete x.toArray
  decompress_codes : ∀ (x body : List UInt8) (rest : List Bool), x.length < 2 ^ 64 →
    (∀ b ∈ x, 0 < ls.getD b.toNat 0) →
    body.flatMap byteBits = x.flatMap (fun b => codeBits ls b.toNat) ++ rest →
    decompress (magic ++ u64Bytes x.length ++ ls.toList.map Nat.toUInt8 ++ body) = .ok x

/-- Lengths that `build` accepts fit in the bytes that store them. -/
theorem lt_of_mem_of_not_refused {ls : Array Nat} (hsize : ls.size = 256) (h : ¬Refused ls) :
    ∀ l ∈ ls.toList, l < 256 := by
  simp only [Refused, not_or, not_lt] at h
  intro l hl
  rw [toList_eq_map_getD hsize] at hl
  obtain ⟨s, -, rfl⟩ := List.mem_map.1 hl
  have hle := getD_le_longestLength hsize s
  simp only [maxCodeLength] at h
  omega

theorem readsCanonical_canonicalTable {ls : Array Nat} (hsize : ls.size = 256)
    (h : ¬Refused ls) : ReadsCanonical ls (canonicalTable ls) := by
  have hfit := lt_of_mem_of_not_refused hsize h
  simp only [Refused, not_or, not_lt] at h
  obtain ⟨hpos, hmax, hkraft⟩ := h
  have hreads : ∀ s, 0 < ls.getD s 0 →
      (canonicalTable ls).Reads s ((canonicalCodes ls).getD s 0) (ls.getD s 0) :=
    fun s hs => reads_canonicalCodes hsize hkraft (pos_of_getD_pos hsize hs) hs
  refine ⟨fun s hs => (hreads s hs).code_lt,
    fun s s' hs hs' hp => codeBits_prefix_free hsize hkraft hs hs' hp,
    fun c l s => lookup_canonicalTable_iff hsize hkraft, ?scan, ?container⟩
  case scan =>
    intro x rest hx hused
    have h := BitScan.foldl_codes (fun s => (canonicalCodes ls).getD s 0) (fun s => ls.getD s 0)
      hx (fun b hb => hreads b.toNat (hused b hb)) rest #[]
      (show (#[] : Array UInt8).size + x.length = x.length by simp)
    simpa [codeBits] using h
  case container =>
    intro x body rest hx hused hbody
    rw [decompress_header hx hsize hfit]
    by_cases hnil : x = []
    · subst hnil
      rfl
    rw [if_neg (fun h => hnil (List.eq_nil_of_length_eq_zero h)),
      build_eq hsize (by omega) hmax hkraft]
    exact decodeBody_eq (fun s => (canonicalCodes ls).getD s 0) (fun s => ls.getD s 0) hnil
      (fun b hb => hreads b.toNat (hused b hb)) hbody

/-- Canonical decoding: for every table of code lengths the decode table accepts, the table and
the canonical codes describe one prefix code that reads every sequence of used values back. -/
theorem build_reads_canonical {ls : Array Nat} {t : DecodeTable} (hsize : ls.size = 256)
    (ht : DecodeTable.build ls = .ok t) : ReadsCanonical ls t := by
  obtain ⟨hnot, rfl⟩ := build_ok hsize ht
  exact readsCanonical_canonicalTable hsize hnot

/-- Kraft's sum counted on the list of lengths, one length after another. -/
theorem kraftUpTo_eq_foldl {ls : Array Nat} (hsize : ls.size = 256) (n : Nat) :
    kraftUpTo ls n = (List.range n).foldl (fun k l => 2 * k + ls.toList.count (l + 1)) 0 := by
  induction n with
  | zero => rfl
  | succ n ih =>
    rw [kraftUpTo, ih, List.range_succ, List.foldl_append, List.foldl_cons, List.foldl_nil,
      length_withLength hsize]

/-- An incomplete table: `0` gets a one-bit code and `1` and `2` three-bit codes, so no value
has length 2 and a quarter of the code space stays free. -/
theorem incomplete_lengths_read_canonical :
    (Array.mk (1 :: 3 :: 3 :: List.replicate 253 0)).size = 256 ∧
      DecodeTable.build (Array.mk (1 :: 3 :: 3 :: List.replicate 253 0)) =
        .ok (canonicalTable (Array.mk (1 :: 3 :: 3 :: List.replicate 253 0))) ∧
      ReadsCanonical (Array.mk (1 :: 3 :: 3 :: List.replicate 253 0))
        (canonicalTable (Array.mk (1 :: 3 :: 3 :: List.replicate 253 0))) := by
  have hsize : (Array.mk (1 :: 3 :: 3 :: List.replicate 253 0)).size = 256 := by
    show (1 :: 3 :: 3 :: List.replicate 253 0).length = 256
    simp only [List.length_cons, List.length_replicate]
  -- both checks of `build`, computed on the list of lengths rather than through the array
  have hlongest : longestLength (Array.mk (1 :: 3 :: 3 :: List.replicate 253 0)) = 3 := by
    rw [longestLength, ← Array.foldl_toList]
    decide +kernel
  have hkraft : kraftUpTo (Array.mk (1 :: 3 :: 3 :: List.replicate 253 0)) 3 = 6 := by
    rw [kraftUpTo_eq_foldl hsize]
    decide +kernel
  have hbuild := build_eq hsize (by omega) (by rw [hlongest]; decide)
    (by rw [hlongest, hkraft]; decide)
  exact ⟨hsize, hbuild, build_reads_canonical hsize hbuild⟩

end Tftp.Huffman
