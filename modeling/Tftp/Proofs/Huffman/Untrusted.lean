import Tftp.Proofs.Huffman.RoundTrip
import Mathlib

/-!
# Reading untrusted containers

`decompress` reads bytes that may come from anyone. Whatever they are, it gives back either the
number of bytes the header promises, at most eight for each byte of body, or one of four errors,
and it refuses the code table exactly when the longest stored length is 0 or above 56 or the
lengths over-subscribe the code space (`decompress_untrusted`).

The decoder's indices and machine words rest on two invariants. A table that `build` accepts is
`DecodeTable.Safe`: each per-length array has an entry for every length up to the longest, which
is at most 56, the codes of each length fit in that many bits, and the values of each length lie
within the list of values. A scan over any bits stays `BitScan.Fits`: its pending code is shorter
than the longest length and fits in its own length, so every lookup is made within the tables
with a code of at most 56 bits, and the values out, with the pending bits, never outnumber the
bits read.
-/

namespace Tftp.Huffman

/-! ## The header -/

/-- The byte count a container's header promises. -/
def promisedLength (c : List UInt8) : Nat := beValue ((c.drop 4).take 8)

/-- The code lengths a container's header stores. -/
def storedLengths (c : List UInt8) : Array Nat :=
  (((c.drop 12).take 256).map UInt8.toNat).toArray

theorem size_storedLengths {c : List UInt8} (h : headerLength ≤ c.length) :
    (storedLengths c).size = 256 := by
  simp only [headerLength] at h
  simp [storedLengths]
  omega

theorem decompress_eq (c : List UInt8) :
    decompress c =
      if c.length < headerLength then
        if magic.isPrefixOf c || c.length < magic.length then .error .truncated
        else .error .badMagic
      else if c.take 4 != magic then .error .badMagic
      else if promisedLength c = 0 then .ok []
      else DecodeTable.build (storedLengths c) >>= fun t =>
        decodeBody t (promisedLength c) (c.drop headerLength) := rfl

/-! ## Building the table -/

/-- Code lengths the table refuses: the longest is 0 or above 56, or Kraft's sum is above 1. -/
def Refused (ls : Array Nat) : Prop :=
  longestLength ls = 0 ∨ maxCodeLength < longestLength ls ∨
    2 ^ longestLength ls < kraftUpTo ls (longestLength ls)

section
variable {ls : Array Nat} (hsize : ls.size = 256)
include hsize

theorem build_error_iff {e : CompressionError} :
    DecodeTable.build ls = .error e ↔ e = .invalidCodeTable ∧ Refused ls := by
  have hk : kraftSum (lengthCounts ls (longestLength ls)) (longestLength ls) =
      kraftUpTo ls (longestLength ls) :=
    kraftSum_eq fun l hl => getD_lengthCounts hsize hl
  unfold DecodeTable.build
  simp only [Refused, hk, Nat.pow_eq]
  split
  · simp only [Except.error.injEq]
    constructor
    · rintro rfl
      exact ⟨rfl, by omega⟩
    · rintro ⟨rfl, -⟩
      rfl
  · split
    · simp only [Except.error.injEq]
      constructor
      · rintro rfl
        exact ⟨rfl, by omega⟩
      · rintro ⟨rfl, -⟩
        rfl
    · simp only [reduceCtorEq, false_iff, not_and]
      intro _
      omega

theorem build_ok {t : DecodeTable} (h : DecodeTable.build ls = .ok t) :
    ¬Refused ls ∧ t = canonicalTable ls := by
  have hnot : ¬Refused ls := fun hr => by
    have := (build_error_iff hsize).2 ⟨rfl, hr⟩
    rw [h] at this
    cases this
  refine ⟨hnot, ?_⟩
  simp only [Refused, not_or, not_lt] at hnot
  rw [build_eq hsize (by omega) hnot.2.1 hnot.2.2] at h
  exact (Except.ok.inj h).symm

end

/-! ## Tables that keep the decoder in bounds -/

/-- What keeps a decoder's indices in bounds and its codes in 56 bits: the longest length is
between 1 and 56, each per-length array has an entry for every length up to it, the codes of
each length fit in that many bits, and the values of each length lie within the values. -/
structure DecodeTable.Safe (t : DecodeTable) : Prop where
  maxLen_pos : 0 < t.maxLen
  maxLen_le : t.maxLen ≤ maxCodeLength
  size_count : t.count.size = t.maxLen + 1
  size_firstCode : t.firstCode.size = t.maxLen + 1
  size_offset : t.offset.size = t.maxLen + 1
  codes_fit : ∀ l, 0 < l → l ≤ t.maxLen → t.firstCode.getD l 0 + t.count.getD l 0 ≤ 2 ^ l
  values_fit : ∀ l, 0 < l → l ≤ t.maxLen → t.offset.getD l 0 + t.count.getD l 0 ≤ t.symbols.size

theorem size_lengthCounts (ls : Array Nat) (M : Nat) : (lengthCounts ls M).size = M + 1 := by
  have h : ∀ (l : List Nat) (acc : Array Nat),
      (l.foldl (fun c l => if l > 0 then c.modify l (· + 1) else c) acc).size = acc.size := by
    intro l
    induction l with
    | nil => exact fun _ => rfl
    | cons x l ih =>
      intro acc
      rw [List.foldl_cons, ih]
      split <;> simp
  rw [lengthCounts, ← Array.foldl_toList, h]
  simp

theorem countUpTo_mono (ls : Array Nat) {l M : Nat} (h : l ≤ M) :
    countUpTo ls l ≤ countUpTo ls M := by
  induction M, h using Nat.le_induction with
  | base => exact le_rfl
  | succ M _ ih =>
    rw [countUpTo]
    omega

/-- The table `build` makes of lengths it accepts is safe. -/
theorem safe_canonicalTable {ls : Array Nat} (hsize : ls.size = 256) (h : ¬Refused ls) :
    (canonicalTable ls).Safe := by
  simp only [Refused, not_or, not_lt] at h
  obtain ⟨hpos, hmax, hkraft⟩ := h
  have hcount : ∀ l, 0 < l → (lengthCounts ls (longestLength ls)).getD l 0 =
      (withLength ls l).length := fun l hl => getD_lengthCounts hsize hl
  obtain ⟨hfirst, hoffset, -⟩ := foldl_firstCodeStep hcount (le_refl (longestLength ls))
  -- Kraft's sum with length `l` is twice the shorter ones' plus the codes of length `l`
  have hk : ∀ l, 0 < l → kraftUpTo ls l = 2 * kraftUpTo ls (l - 1) + (withLength ls l).length := by
    intro l hl
    conv_lhs => rw [show l = l - 1 + 1 by omega, kraftUpTo]
    rw [show l - 1 + 1 = l by omega]
  have hc : ∀ l, 0 < l → countUpTo ls l = countUpTo ls (l - 1) + (withLength ls l).length := by
    intro l hl
    conv_lhs => rw [show l = l - 1 + 1 by omega, countUpTo]
    rw [show l - 1 + 1 = l by omega]
  refine ⟨by simp [canonicalTable]; omega, hmax, size_lengthCounts _ _, ?_, ?_, ?_, ?_⟩
  · simpa [canonicalTable, firstCodes] using hfirst
  · simpa [canonicalTable, firstCodes] using hoffset
  · intro l hl hlM
    change l ≤ longestLength ls at hlM
    obtain ⟨hf, -⟩ := firstCodes_getD hcount hl hlM
    simp only [canonicalTable, hf, hcount l hl]
    rw [← hk l hl]
    exact kraftUpTo_le_pow hkraft hlM
  · intro l hl hlM
    change l ≤ longestLength ls at hlM
    obtain ⟨-, ho⟩ := firstCodes_getD hcount hl hlM
    simp only [canonicalTable, ho, hcount l hl, List.size_toArray, canonicalOrder_eq hsize,
      length_flatMap_withLength]
    rw [← hc l hl]
    exact countUpTo_mono ls hlM

/-! ## Scanning any bits -/

namespace BitScan

variable {t : DecodeTable} {expected : Nat}

/-- Where a scan may stand after `n` bits: a pending code shorter than the longest length and
within its own length, with the values out and the pending bits no more than the bits read; or
all `expected` values out, no more than the bits read. -/
def Fits (t : DecodeTable) (expected n : Nat) : BitScan → Prop
  | reading code len out => len < t.maxLen ∧ code < 2 ^ len ∧ out.size + len ≤ n
  | complete out => out.size = expected ∧ out.size ≤ n
  | failed => True

theorem fits_start (hpos : 0 < t.maxLen) : (reading 0 0 #[]).Fits t expected 0 :=
  ⟨hpos, by simp, by simp⟩

/-- The lookup a pending code makes with one more bit is at a length up to the longest, with a
code that fits that length. -/
theorem Fits.lookup_fits {code len n : Nat} {out : Array UInt8}
    (hs : (reading code len out).Fits t expected n) (bit : Bool) :
    len + 1 ≤ t.maxLen ∧ code * 2 + (if bit then 1 else 0) < 2 ^ (len + 1) := by
  obtain ⟨hlen, hcode, -⟩ := hs
  refine ⟨hlen, ?_⟩
  rw [Nat.pow_succ]
  split <;> omega

theorem Fits.step {s : BitScan} {n : Nat} (hpos : 0 < t.maxLen) (hs : s.Fits t expected n)
    (bit : Bool) : (BitScan.step t expected s bit).Fits t expected (n + 1) := by
  cases s with
  | reading code len out =>
    have hfit := hs.lookup_fits bit
    obtain ⟨-, -, hout⟩ := hs
    simp only [BitScan.step]
    split
    · -- a value is out: the scan is complete or starts the next code
      split
      · exact ⟨‹_›, by simp; omega⟩
      · exact ⟨hpos, by simp, by simp; omega⟩
    · split
      · trivial
      · exact ⟨by omega, hfit.2, by omega⟩
  | complete out => exact ⟨hs.1, by have := hs.2; omega⟩
  | failed => trivial

theorem Fits.foldl {s : BitScan} {n : Nat} (hpos : 0 < t.maxLen) (hs : s.Fits t expected n)
    (bits : List Bool) :
    (bits.foldl (BitScan.step t expected) s).Fits t expected (n + bits.length) := by
  induction bits generalizing s n with
  | nil => exact hs
  | cons b bits ih =>
    rw [List.foldl_cons, List.length_cons,
      show n + (bits.length + 1) = n + 1 + bits.length by omega]
    exact ih (hs.step hpos b)

end BitScan

theorem length_flatMap_byteBits (body : List UInt8) :
    (body.flatMap byteBits).length = 8 * body.length := by
  induction body with
  | nil => rfl
  | cons b body ih =>
    rw [List.flatMap_cons, List.length_append, ih, byteBits_eq_bitsOf, length_bitsOf]
    simp only [List.length_cons]
    ring

/-- Reading a body gives exactly the expected number of values, no more than eight for each
byte, or runs out of bits, or meets bits that match no code. -/
theorem decodeBody_spec {t : DecodeTable} (hpos : 0 < t.maxLen) (expected : Nat)
    (body : List UInt8) :
    (∀ v, decodeBody t expected body = .ok v → v.length = expected ∧ v.length ≤ 8 * body.length) ∧
      ∀ e, decodeBody t expected body = .error e → e = .truncated ∨ e = .invalidBitstream := by
  have hstart : (BitScan.reading 0 0 #[]).Fits t expected 0 := BitScan.fits_start hpos
  have hfits := hstart.foldl hpos (body.flatMap byteBits)
  rw [List.foldl_flatMap, Nat.zero_add, length_flatMap_byteBits] at hfits
  unfold decodeBody
  dsimp only
  generalize body.foldl (fun s b => (byteBits b).foldl (BitScan.step t expected) s)
    (.reading 0 0 #[]) = s at hfits ⊢
  cases s with
  | complete out =>
    obtain ⟨hsize, hle⟩ := hfits
    refine ⟨fun v hv => ?_, fun e he => by cases he⟩
    cases hv
    simpa using ⟨hsize, hle⟩
  | reading => exact ⟨fun v hv => (by cases hv), fun e he => .inl (Except.error.inj he).symm⟩
  | failed => exact ⟨fun v hv => (by cases hv), fun e he => .inr (Except.error.inj he).symm⟩

/-! ## Any container -/

/-- A table built from a complete header is safe, and every scan of any bits with it fits. -/
theorem built_table_safe {c : List UInt8} (hlen : headerLength ≤ c.length) {t : DecodeTable}
    (hb : DecodeTable.build (storedLengths c) = .ok t) :
    t.Safe ∧ ∀ bits : List Bool,
      (bits.foldl (BitScan.step t (promisedLength c)) (.reading 0 0 #[])).Fits t
        (promisedLength c) bits.length := by
  obtain ⟨hnot, rfl⟩ := build_ok (size_storedLengths hlen) hb
  have hsafe := safe_canonicalTable (size_storedLengths hlen) hnot
  refine ⟨hsafe, fun bits => ?_⟩
  simpa using (BitScan.fits_start hsafe.maxLen_pos).foldl hsafe.maxLen_pos bits

/-- Whatever bytes it reads, `decompress` gives back the number of bytes the header promises, at
most eight for each byte of body, or one of four errors. It refuses the code table exactly when
a complete header that promises bytes stores lengths the table refuses, and a table it builds
keeps every scan of any bits within its bounds. -/
theorem decompress_untrusted (c : List UInt8) :
    (∀ v, decompress c = .ok v →
      v.length = promisedLength c ∧ v.length ≤ 8 * (c.length - headerLength)) ∧
    (∀ e, decompress c = .error e →
      e = .badMagic ∨ e = .truncated ∨ e = .invalidCodeTable ∨ e = .invalidBitstream) ∧
    (decompress c = .error .invalidCodeTable ↔
      headerLength ≤ c.length ∧ c.take 4 = magic ∧ promisedLength c ≠ 0 ∧
        Refused (storedLengths c)) ∧
    (headerLength ≤ c.length → ∀ t, DecodeTable.build (storedLengths c) = .ok t →
      t.Safe ∧ ∀ bits : List Bool,
        (bits.foldl (BitScan.step t (promisedLength c)) (.reading 0 0 #[])).Fits t
          (promisedLength c) bits.length) := by
  suffices (∀ v, decompress c = .ok v →
      v.length = promisedLength c ∧ v.length ≤ 8 * (c.length - headerLength)) ∧
    (∀ e, decompress c = .error e →
      e = .badMagic ∨ e = .truncated ∨ e = .invalidCodeTable ∨ e = .invalidBitstream) ∧
    (decompress c = .error .invalidCodeTable ↔
      headerLength ≤ c.length ∧ c.take 4 = magic ∧ promisedLength c ≠ 0 ∧
        Refused (storedLengths c)) from
    ⟨this.1, this.2.1, this.2.2, fun hlen _ hb => built_table_safe hlen hb⟩
  rw [decompress_eq]
  by_cases hlen : c.length < headerLength
  · -- a short input is truncated or has a bad magic
    rw [if_pos hlen]
    refine ⟨fun v hv => ?_, fun e he => ?_, ?_⟩
    · split at hv <;> cases hv
    · split at he <;> cases he <;> simp
    · simp only [show ¬headerLength ≤ c.length by omega, false_and, iff_false]
      split <;> simp
  rw [if_neg hlen]
  by_cases hmagic : c.take 4 = magic
  · simp only [hmagic, bne_self_eq_false, Bool.false_eq_true, if_false]
    by_cases hn : promisedLength c = 0
    · -- nothing promised, nothing given
      simp only [hn, if_true]
      refine ⟨fun v hv => ?_, fun e he => (by cases he), by simp⟩
      cases hv
      simp
    · simp only [if_neg hn]
      cases hb : DecodeTable.build (storedLengths c) with
      | error e =>
        obtain ⟨rfl, hr⟩ := (build_error_iff (size_storedLengths (by omega))).1 hb
        refine ⟨fun v hv => (by cases hv), fun e he => ?_, ?_⟩
        · cases he
          simp
        · simp only [Bind.bind, Except.bind, true_iff]
          exact ⟨by omega, trivial, hn, hr⟩
      | ok t =>
        -- the table is built: what remains is reading the body
        have hsafe := (built_table_safe (by omega) hb).1
        obtain ⟨hok, herr⟩ :=
          decodeBody_spec hsafe.maxLen_pos (promisedLength c) (c.drop headerLength)
        have hnot := (build_ok (size_storedLengths (by omega)) hb).1
        simp only [Bind.bind, Except.bind]
        refine ⟨fun v hv => ?_, fun e he => ?_, ⟨fun h => ?_, fun h => absurd h.2.2.2 hnot⟩⟩
        · simpa using hok v hv
        · rcases herr e he with rfl | rfl <;> simp
        · rcases herr _ h with h | h <;> cases h
  · -- a wrong magic
    have hbad : (c.take 4 != magic) = true := by simpa using hmagic
    simp only [hbad, if_true]
    refine ⟨fun v hv => (by cases hv), fun e he => ?_, ?_⟩
    · cases he
      simp
    · simp [hmagic]

end Tftp.Huffman
