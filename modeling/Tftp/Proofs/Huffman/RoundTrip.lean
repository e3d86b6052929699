import Tftp.Proofs.Huffman.Lengths
import Tftp.Proofs.Store.ReadWrite
import Tftp.Huffman.Files
import Mathlib

/-!
# The compression round trip

A container holds the magic bytes, the length of the input as eight big-endian bytes, the 256
code lengths one byte each, and the body: the canonical code of every input byte, packed most
significant bit first. Compressing fails exactly when a Huffman code of the input's byte
frequencies is longer than the container allows (`TooDeep`); otherwise the lengths are valid
(`codeLengths_spec`), so the decode table reads every code back (`reads_canonicalCodes`) and
decompressing restores the input.

On a volume, compressing a file writes its container to the file's compressed twin, and
restoring the twin writes the bytes back under the file's own name, which then reads as before.
-/

namespace Tftp.Huffman

/-! ## The header -/

@[simp] theorem length_u64Bytes (n : Nat) : (u64Bytes n).length = 8 := by
  simp [u64Bytes]

theorem foldl_beValue (acc : Nat) (bs : List UInt8) :
    bs.foldl (fun acc b => acc * 256 + b.toNat) acc = acc * 256 ^ bs.length + beValue bs := by
  induction bs generalizing acc with
  | nil => simp [beValue]
  | cons b bs ih =>
    rw [beValue, List.foldl_cons, List.foldl_cons, ih, ih, List.length_cons, Nat.pow_succ]
    ring

/-- The last `k` big-endian digits of a number in base 256 spell it modulo `256 ^ k`. -/
theorem beValue_digits (n k : Nat) :
    beValue ((List.range k).reverse.map fun i => (n / Nat.pow 2 (8 * i) % 256).toUInt8) =
      n % 256 ^ k := by
  induction k with
  | zero => simp [beValue, Nat.mod_one]
  | succ k ih =>
    have hpow : Nat.pow 2 (8 * k) = 256 ^ k := by
      rw [Nat.pow_eq, Nat.pow_mul]
    have hdigit : (n / Nat.pow 2 (8 * k) % 256).toUInt8.toNat = n / 256 ^ k % 256 := by
      rw [hpow, Nat.toUInt8, UInt8.toNat_ofNat', Nat.mod_mod_of_dvd _ (by decide)]
    -- the leading digit is the `k`-th, ahead of the `k` below it
    rw [List.range_succ, List.reverse_append, List.reverse_singleton, List.singleton_append,
      List.map_cons, beValue, List.foldl_cons, foldl_beValue, ih, List.length_map,
      List.length_reverse, List.length_range, hdigit, Nat.mod_pow_succ]
    ring

/-- Eight big-endian bytes spell back every number below `2 ^ 64`. -/
theorem beValue_u64Bytes {n : Nat} (hn : n < 2 ^ 64) : beValue (u64Bytes n) = n := by
  rw [u64Bytes, beValue_digits, Nat.mod_eq_of_lt (by simpa using hn)]

/-- Code lengths within the container's limit survive being stored one byte each. -/
theorem map_toNat_toUInt8 {ls : Array Nat} (h : ∀ l ∈ ls.toList, l < 256) :
    (ls.toList.map Nat.toUInt8).map UInt8.toNat = ls.toList := by
  rw [List.map_map]
  conv_rhs => rw [← List.map_id ls.toList]
  refine List.map_congr_left fun l hl => ?_
  simp [Nat.toUInt8, UInt8.toNat_ofNat', Nat.mod_eq_of_lt (h l hl)]

/-! ## Compressing -/

/-- The body bits of `x` under code lengths `ls`: the canonical code of each byte in turn. -/
def bodyWriter (ls : Array Nat) (x : List UInt8) : BitWriter :=
  x.foldl (fun w b => w.push ((canonicalCodes ls).getD b.toNat 0) (ls.getD b.toNat 0)) {}

theorem pending_bodyWriter_lt (ls : Array Nat) (x : List UInt8) : (bodyWriter ls x).pending < 8 :=
  BitWriter.pending_foldl_push_lt _ _ x (by decide)

theorem bits_bodyWriter {ls : Array Nat} {x : List UInt8}
    (h : ∀ b ∈ x, (canonicalCodes ls).getD b.toNat 0 < 2 ^ ls.getD b.toNat 0) :
    (bodyWriter ls x).bits =
      x.flatMap fun b => bitsOf ((canonicalCodes ls).getD b.toNat 0) (ls.getD b.toNat 0) := by
  rw [bodyWriter, BitWriter.bits_foldl_push _ _ x {} h, BitWriter.bits_empty, List.nil_append]

theorem compress_of_codeLengths {x : List UInt8} {ls : Array Nat}
    (h : codeLengths (frequencies x) = .ok ls) :
    compress x = .ok (magic ++ u64Bytes x.length ++ ls.toList.map Nat.toUInt8 ++
      (bodyWriter ls x).finish) := by
  simp only [compress, h, Bind.bind, Except.bind, pure, Except.pure, bodyWriter]

/-! ## Restoring -/

/-- The header of a container reads back as written: the magic, the byte count `n` and the 256
code lengths; the body is then decoded with those lengths. -/
theorem decompress_header {n : Nat} (hn : n < 2 ^ 64) {ls : Array Nat} (hsize : ls.size = 256)
    (hle : ∀ l ∈ ls.toList, l < 256) (body : List UInt8) :
    decompress (magic ++ u64Bytes n ++ ls.toList.map Nat.toUInt8 ++ body) =
      if n = 0 then .ok [] else DecodeTable.build ls >>= fun t => decodeBody t n body := by
  have hlen : (ls.toList.map Nat.toUInt8).length = 256 := by simp [hsize]
  have hlong : ¬(magic ++ u64Bytes n ++ ls.toList.map Nat.toUInt8 ++ body).length <
      headerLength := by
    simp [magic, headerLength, hlen]
    omega
  have hmagic : (magic ++ u64Bytes n ++ ls.toList.map Nat.toUInt8 ++ body).take 4 = magic := by
    simp [magic]
  have hexpected :
      beValue (((magic ++ u64Bytes n ++ ls.toList.map Nat.toUInt8 ++ body).drop 4).take 8) = n := by
    simp [magic, beValue_u64Bytes hn]
  have hlengths : ((((magic ++ u64Bytes n ++ ls.toList.map Nat.toUInt8 ++ body).drop 12).take
      256).map UInt8.toNat).toArray = ls := by
    simp only [magic, List.append_assoc, List.cons_append, List.nil_append, List.drop_succ_cons]
    rw [List.drop_left' (by simp), List.take_left' hlen, map_toNat_toUInt8 hle, Array.toArray_toList]
  have hbody : (magic ++ u64Bytes n ++ ls.toList.map Nat.toUInt8 ++ body).drop headerLength =
      body := by
    simp only [magic, headerLength, List.append_assoc, List.cons_append, List.nil_append,
      List.drop_succ_cons]
    rw [← List.append_assoc, List.drop_left' (by simp [hlen])]
  unfold decompress
  rw [if_neg hlong, hmagic, hexpected]
  simp only [bne_self_eq_false, Bool.false_eq_true, if_false]
  rw [hlengths, hbody]

/-- Valid lengths are at most `maxCodeLength`, so each is stored in one byte. -/
theorem ValidLengths.lt_of_mem {freq ls : Array Nat} (hv : ValidLengths freq ls) :
    ∀ l ∈ ls.toList, l < 256 := by
  intro l hl
  rw [toList_eq_map_getD hv.size_eq] at hl
  obtain ⟨s, -, rfl⟩ := List.mem_map.1 hl
  have h1 := getD_le_longestLength hv.size_eq s
  have h2 := hv.longest_le
  simp only [maxCodeLength] at h2
  omega

/-- A container restores its bytes when the stored lengths are valid for them. -/
theorem decompress_container {x : List UInt8} (hx : x.length < 2 ^ 64) {ls : Array Nat}
    (hv : ValidLengths (frequencies x) ls) :
    decompress (magic ++ u64Bytes x.length ++ ls.toList.map Nat.toUInt8 ++
      (bodyWriter ls x).finish) = .ok x := by
  rw [decompress_header hx hv.size_eq hv.lt_of_mem]
  by_cases hnil : x = []
  · subst hnil
    rfl
  rw [if_neg (fun h => hnil (List.eq_nil_of_length_eq_zero h))]
  -- every byte of `x` occurs, so it has a code that the table reads back
  have hused : ∀ b ∈ x, 0 < ls.getD b.toNat 0 := fun b hb =>
    (hv.pos_iff b.toNat b.toNat_lt).2 (frequencies_pos_of_mem hb)
  have hreads : ∀ b ∈ x, (canonicalTable ls).Reads b.toNat
      ((canonicalCodes ls).getD b.toNat 0) (ls.getD b.toNat 0) := fun b hb =>
    reads_canonicalCodes hv.size_eq hv.kraft b.toNat_lt (hused b hb)
  have hpos : 0 < longestLength ls := by
    obtain ⟨b, hb⟩ := List.exists_mem_of_ne_nil x hnil
    exact lt_of_lt_of_le (hused b hb) (getD_le_longestLength hv.size_eq _)
  have hbits : (bodyWriter ls x).finish.flatMap byteBits =
      x.flatMap (fun b => bitsOf ((canonicalCodes ls).getD b.toNat 0) (ls.getD b.toNat 0)) ++
        List.replicate ((8 - (bodyWriter ls x).pending) % 8) false := by
    rw [BitWriter.bits_finish (pending_bodyWriter_lt ls x),
      bits_bodyWriter fun b hb => (hreads b hb).code_lt]
  rw [build_eq hv.size_eq hpos hv.longest_le hv.kraft]
  exact decodeBody_eq (fun s => (canonicalCodes ls).getD s 0) (fun s => ls.getD s 0) hnil hreads
    hbits

/-! ## Round trip -/

theorem compress_roundTrip_bytes (x : List UInt8) (hx : x.length < 2 ^ 64) :
    (TooDeep (frequencies x) → compress x = .error .invalidCodeTable) ∧
      (¬TooDeep (frequencies x) → ∃ c, compress x = .ok c ∧ decompress c = .ok x) := by
  obtain ⟨hdeep, hvalid⟩ := codeLengths_spec (frequencies x)
  refine ⟨fun h => ?_, fun h => ?_⟩
  · simp only [compress, hdeep h, Bind.bind, Except.bind]
  · obtain ⟨ls, hls, hv⟩ := hvalid h
    exact ⟨_, compress_of_codeLengths hls, decompress_container hx hv⟩

/-! ## Files -/

theorem stripCompressedSuffix_compressedName (name : String) :
    stripCompressedSuffix? (compressedName name) = some name := by
  simp [stripCompressedSuffix?, compressedName, List.isSuffixOf_iff_suffix]

theorem compressFile_eq_ok {root name path : String} {v v' : Volume}
    (h : compressFile root v name = (v', .ok path)) :
    ∃ x c, v.readFile name = .ok x ∧ compress x = .ok c ∧
      v.writeFile (compressedName name) c = .ok v' ∧ path = pathOf root (compressedName name) := by
  unfold compressFile at h
  cases hread : v.readFile name with
  | error e => simp [hread, ioResult, Bind.bind, Except.bind] at h
  | ok x =>
    cases hc : compress x with
    | error e => simp [hread, hc, ioResult, Bind.bind, Except.bind] at h
    | ok c =>
      cases hw : v.writeFile (compressedName name) c with
      | error e => simp [hread, hc, hw, ioResult, Bind.bind, Except.bind] at h
      | ok v₁ =>
        simp only [hread, hc, hw, ioResult, Bind.bind, Except.bind, Prod.mk.injEq,
          Except.ok.injEq] at h
        obtain ⟨rfl, rfl⟩ := h
        exact ⟨x, c, rfl, hc, hw, rfl⟩

theorem decompressFile_of_ok {root name target : String} {v v' : Volume} {c x : List UInt8}
    (hname : stripCompressedSuffix? name = some target) (hread : v.readFile name = .ok c)
    (hc : decompress c = .ok x) (hw : v.writeFile target x = .ok v') :
    decompressFile root v name = (v', .ok (pathOf root target)) := by
  simp [decompressFile, hname, hread, hc, hw, ioResult, Bind.bind, Except.bind]

/-- Restoring the compressed twin of a file brings its bytes back under its own name. -/
theorem decompressFile_compressFile {root name path : String} {v v' : Volume} {x : List UInt8}
    (hx : x.length < 2 ^ 64) (hv : v.InodesInRange) (hread : v.readFile name = .ok x)
    (h : compressFile root v name = (v', .ok path)) :
    ∃ v'', decompressFile root v' (compressedName name) = (v'', .ok (pathOf root name)) ∧
      v''.readFile name = .ok x := by
  obtain ⟨x', c, hread', hc, hw, -⟩ := compressFile_eq_ok h
  rw [hread] at hread'
  cases hread'
  -- the container was made, so no code was too deep, and it restores the bytes
  have hdeep : ¬TooDeep (frequencies x) := fun hd => by
    rw [(compress_roundTrip_bytes x hx).1 hd] at hc
    cases hc
  obtain ⟨c', hc', hround⟩ := (compress_roundTrip_bytes x hx).2 hdeep
  rw [hc] at hc'
  cases hc'
  -- the file itself was left a file, so it can be written again
  obtain ⟨v'', hw'⟩ := Volume.writeFile_ok_of_readFile hv hw hread x
  refine ⟨v'', decompressFile_of_ok (stripCompressedSuffix_compressedName name)
    (Volume.readFile_writeFile hv hw) hround hw', ?_⟩
  exact Volume.readFile_writeFile (Volume.inodesInRange_writeFile hv hw) hw'

/-- Compression round trip: compressing bytes fails exactly when a Huffman code of their
frequencies would be longer than the container allows, and otherwise decompressing the container
gives the bytes back; restoring the compressed twin of a file brings back the file's bytes. -/
theorem compress_roundTrip (x : List UInt8) (hx : x.length < 2 ^ 64) :
    (TooDeep (frequencies x) → compress x = .error .invalidCodeTable) ∧
    (¬TooDeep (frequencies x) → ∃ c, compress x = .ok c ∧ decompress c = .ok x) ∧
    ∀ (root name path : String) (v v' : Volume), v.InodesInRange → v.readFile name = .ok x →
      compressFile root v name = (v', .ok path) →
      ∃ v'', decompressFile root v' (compressedName name) = (v'', .ok (pathOf root name)) ∧
        v''.readFile name = .ok x :=
  ⟨(compress_roundTrip_bytes x hx).1, (compress_roundTrip_bytes x hx).2,
    fun _ _ _ _ _ hv hread h => decompressFile_compressFile hx hv hread h⟩

/-- Two distinct bytes get one-bit codes, and the round trip holds of them. -/
theorem compress_roundTrip_two_bytes :
    ([104, 105] : List UInt8).length < 2 ^ 64 ∧
      ((TooDeep (frequencies [104, 105]) → compress [104, 105] = .error .invalidCodeTable) ∧
      (¬TooDeep (frequencies [104, 105]) →
        ∃ c, compress [104, 105] = .ok c ∧ decompress c = .ok [104, 105]) ∧
      ∀ (root name path : String) (v v' : Volume), v.InodesInRange →
        v.readFile name = .ok [104, 105] → compressFile root v name = (v', .ok path) →
        ∃ v'', decompressFile root v' (compressedName name) = (v'', .ok (pathOf root name)) ∧
          v''.readFile name = .ok [104, 105]) :=
  ⟨by decide, compress_roundTrip [104, 105] (by decide)⟩

end Tftp.Huffman
