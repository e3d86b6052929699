import Tftp.Huffman.Container
import Mathlib

/-!
# Bits of the compressed body

The body of a container as a sequence of bits. `bitsOf v n` is the `n` low bits of `v`, most
significant first, and the bits of a byte are `bitsOf b 8`. A `BitWriter` stands for the bits of
its bytes followed by its pending bits (`BitWriter.bits`): pushing a code appends the code's bits
(`BitWriter.bits_push`), and finishing pads them with zeros to whole bytes
(`BitWriter.bits_finish`).

On the reading side, `DecodeTable.Reads t s c l` says that the table reads the `l`-bit code `c` as
the value `s`: no shorter prefix of the code names a value, and the reader does not give up
before the code's last bit. Reading the bits of codes the table reads this way, followed by any
padding, gives their values back (`decodeBody_eq`).
-/

namespace Tftp.Huffman

/-! ## Bits of a number -/

/-- The `n` low bits of `v`, most significant first. -/
def bitsOf (v : Nat) : Nat → List Bool
  | 0 => []
  | n + 1 => v.testBit n :: bitsOf v n

@[simp] theorem length_bitsOf (v n : Nat) : (bitsOf v n).length = n := by
  induction n with
  | zero => rfl
  | succ n ih => simp [bitsOf, ih]

/-- The bits of `v` above its `m` lowest, then those. -/
theorem bitsOf_add (v k m : Nat) : bitsOf v (k + m) = bitsOf (v / 2 ^ m) k ++ bitsOf v m := by
  induction k with
  | zero => simp [bitsOf]
  | succ k ih =>
    rw [Nat.add_right_comm, bitsOf, ih, bitsOf, Nat.testBit_div_two_pow, List.cons_append]

theorem bitsOf_congr {v w : Nat} (n : Nat) (h : ∀ i < n, v.testBit i = w.testBit i) :
    bitsOf v n = bitsOf w n := by
  induction n with
  | zero => rfl
  | succ n ih =>
    rw [bitsOf, bitsOf, h n (by omega), ih fun i hi => h i (by omega)]

theorem bitsOf_mod (v m : Nat) : bitsOf (v % 2 ^ m) m = bitsOf v m :=
  bitsOf_congr m fun i hi => by simp [Nat.testBit_mod_two_pow, hi]

theorem bitsOf_mul_add (a b k m : Nat) (hb : b < 2 ^ m) :
    bitsOf (a * 2 ^ m + b) (k + m) = bitsOf a k ++ bitsOf b m := by
  have hdiv : (a * 2 ^ m + b) / 2 ^ m = a := by
    rw [Nat.mul_comm, Nat.mul_add_div (Nat.two_pow_pos m), Nat.div_eq_of_lt hb, Nat.add_zero]
  have hmod : (a * 2 ^ m + b) % 2 ^ m = b := by
    rw [Nat.mul_comm, Nat.mul_add_mod, Nat.mod_eq_of_lt hb]
  rw [bitsOf_add, hdiv, ← bitsOf_mod (a * 2 ^ m + b), hmod]

theorem bitsOf_zero (n : Nat) : bitsOf 0 n = List.replicate n false := by
  induction n with
  | zero => rfl
  | succ n ih => simp [bitsOf, ih, List.replicate_succ]

/-! ## Bits of bytes -/

theorem byteBits_eq_bitsOf (b : UInt8) : byteBits b = bitsOf b.toNat 8 := rfl

theorem byteBits_toUInt8 (n : Nat) : byteBits n.toUInt8 = bitsOf n 8 := by
  rw [byteBits_eq_bitsOf, ← bitsOf_mod n 8]
  simp

/-- The `8 * q` bits of `v` above its `r` lowest, as `q` bytes. -/
theorem bitsOf_bytes (v q r : Nat) :
    ((List.range q).map fun i => (v / 2 ^ (8 * q + r - 8 * (i + 1)) % 256).toUInt8).flatMap
        byteBits ++ bitsOf v r = bitsOf v (8 * q + r) := by
  induction q with
  | zero => simp
  | succ q ih =>
    have hrest : ((List.range q).map fun i =>
        (v / 2 ^ (8 * (q + 1) + r - 8 * (i + 1 + 1)) % 256).toUInt8) =
        (List.range q).map fun i => (v / 2 ^ (8 * q + r - 8 * (i + 1)) % 256).toUInt8 := by
      apply List.map_congr_left
      intro i _
      rw [show 8 * (q + 1) + r - 8 * (i + 1 + 1) = 8 * q + r - 8 * (i + 1) by omega]
    rw [List.range_succ_eq_map, List.map_cons, List.map_map, Function.comp_def, hrest,
      List.flatMap_cons, List.append_assoc, ih, byteBits_toUInt8,
      show 8 * (q + 1) + r - 8 * (0 + 1) = 8 * q + r by omega,
      show (256 : Nat) = 2 ^ 8 by rfl, bitsOf_mod, ← bitsOf_add]
    congr 1
    omega

/-- The bytes of the bits of `v` above its `n % 8` lowest. -/
theorem bitsOf_bytes_div (v n : Nat) :
    ((List.range (n / 8)).map fun i => (v / 2 ^ (n - 8 * (i + 1)) % 256).toUInt8).flatMap
        byteBits ++ bitsOf v (n % 8) = bitsOf v n := by
  have h := bitsOf_bytes v (n / 8) (n % 8)
  rwa [Nat.div_add_mod] at h

/-! ## Writing bits -/

namespace BitWriter

/-- The bits a writer holds: those of its bytes, then its pending bits. -/
def bits (w : BitWriter) : List Bool := w.bytes.toList.flatMap byteBits ++ bitsOf w.acc w.pending

theorem pending_push_lt (w : BitWriter) (code len : Nat) : (w.push code len).pending < 8 :=
  Nat.mod_lt _ (by decide)

@[simp] theorem bits_empty : ({} : BitWriter).bits = [] := rfl

/-- Pushing a code appends its bits. -/
theorem bits_push (w : BitWriter) {code len : Nat} (hc : code < 2 ^ len) :
    (w.push code len).bits = w.bits ++ bitsOf code len := by
  have hbytes : (w.push code len).bytes.toList = w.bytes.toList ++
      (List.range ((w.pending + len) / 8)).map fun i =>
        ((w.acc * 2 ^ len + code) / 2 ^ (w.pending + len - 8 * (i + 1)) % 256).toUInt8 := by
    simp [push, List.foldl_push_eq_append]
  have hacc : bitsOf (w.push code len).acc (w.push code len).pending =
      bitsOf (w.acc * 2 ^ len + code) ((w.pending + len) % 8) := by
    simp only [push, Nat.pow_eq]
    exact bitsOf_mod _ _
  rw [bits, hbytes, hacc, List.flatMap_append, List.append_assoc, bitsOf_bytes_div,
    bitsOf_mul_add _ _ _ _ hc, bits, List.append_assoc]

/-- Finishing pads the bits with zeros to whole bytes. -/
theorem bits_finish {w : BitWriter} (hw : w.pending < 8) :
    w.finish.flatMap byteBits = w.bits ++ List.replicate ((8 - w.pending) % 8) false := by
  unfold finish bits
  by_cases hp : w.pending > 0
  · have hbyte : bitsOf (w.acc * 2 ^ (8 - w.pending)) 8 =
        bitsOf w.acc w.pending ++ List.replicate (8 - w.pending) false := by
      have h := bitsOf_mul_add w.acc 0 w.pending (8 - w.pending) (Nat.two_pow_pos _)
      rwa [Nat.add_zero, show w.pending + (8 - w.pending) = 8 by omega, bitsOf_zero] at h
    rw [if_pos hp, Array.toList_push, List.flatMap_append, List.flatMap_singleton,
      byteBits_toUInt8, Nat.pow_eq, show (256 : Nat) = 2 ^ 8 by rfl, bitsOf_mod, hbyte,
      List.append_assoc, Nat.mod_eq_of_lt (by omega)]
  · have hp0 : w.pending = 0 := by omega
    simp [hp0, bitsOf]

/-- Pushing the codes of the bytes of `input`, one after another. -/
theorem bits_foldl_push (codes lengths : Array Nat) (input : List UInt8) (w : BitWriter)
    (h : ∀ b ∈ input, codes.getD b.toNat 0 < 2 ^ lengths.getD b.toNat 0) :
    (input.foldl (fun w b => w.push (codes.getD b.toNat 0) (lengths.getD b.toNat 0)) w).bits =
      w.bits ++ input.flatMap fun b => bitsOf (codes.getD b.toNat 0) (lengths.getD b.toNat 0) := by
  induction input generalizing w with
  | nil => simp
  | cons b input ih =>
    rw [List.foldl_cons, ih _ (fun c hc => h c (List.mem_cons_of_mem b hc)),
      bits_push _ (h b List.mem_cons_self), List.flatMap_cons, List.append_assoc]

theorem pending_foldl_push_lt (codes lengths : Array Nat) (input : List UInt8) {w : BitWriter}
    (hw : w.pending < 8) :
    (input.foldl (fun w b => w.push (codes.getD b.toNat 0) (lengths.getD b.toNat 0)) w).pending
      < 8 := by
  induction input generalizing w with
  | nil => exact hw
  | cons b input ih => exact ih (pending_push_lt w _ _)

end BitWriter

/-! ## Reading codes back -/

/-- The table reads the `l`-bit code `c` as the value `s`: the code's full length gives `s`, no
shorter prefix of it names a value, and the table does not give up before its last bit. -/
structure DecodeTable.Reads (t : DecodeTable) (s c l : Nat) : Prop where
  length_pos : 0 < l
  length_le : l ≤ t.maxLen
  code_lt : c < 2 ^ l
  lookup_code : t.lookup c l = some s
  lookup_prefix : ∀ j, 0 < j → j < l → t.lookup (c / 2 ^ (l - j)) j = none

namespace BitScan

variable {t : DecodeTable} {expected : Nat}

theorem foldl_complete (out : Array UInt8) (bits : List Bool) :
    bits.foldl (step t expected) (complete out) = complete out := by
  induction bits with
  | nil => rfl
  | cons b bits ih => exact ih

/-- Taking one more bit: half of `v`, doubled, plus its lowest bit. -/
theorem div_two_mul_two_add_bit (v : Nat) : v / 2 * 2 + (if v.testBit 0 then 1 else 0) = v := by
  rw [Nat.testBit_zero]
  split <;> simp_all <;> omega

/-- Reading the first `j` bits of a code leaves them pending. -/
theorem foldl_prefix {s c l : Nat} (h : t.Reads s c l) {j : Nat} (hj : j < l)
    (out : Array UInt8) :
    (bitsOf (c / 2 ^ (l - j)) j).foldl (step t expected) (reading 0 0 out) =
      reading (c / 2 ^ (l - j)) j out := by
  induction j with
  | zero => simp [bitsOf, Nat.div_eq_of_lt h.code_lt]
  | succ j ih =>
    -- the code read so far, one bit shorter, is half the code read after one more bit
    have hhalf : c / 2 ^ (l - (j + 1)) / 2 ^ 1 = c / 2 ^ (l - j) := by
      rw [Nat.div_div_eq_div_mul, ← Nat.pow_add]
      congr 2
      omega
    rw [bitsOf_add _ j 1, List.foldl_append, hhalf, ih (by omega)]
    simp only [bitsOf, List.foldl_cons, List.foldl_nil, step]
    rw [← hhalf, Nat.pow_one, div_two_mul_two_add_bit,
      h.lookup_prefix (j + 1) (by omega) (by omega), if_neg (by have := h.length_le; omega)]

/-- Reading all bits of a code gives its value. -/
theorem foldl_code {s c l : Nat} (h : t.Reads s c l) (out : Array UInt8) :
    (bitsOf c l).foldl (step t expected) (reading 0 0 out) =
      if (out.push s.toUInt8).size = expected then complete (out.push s.toUInt8)
      else reading 0 0 (out.push s.toUInt8) := by
  have hl : l = l - 1 + 1 := by have := h.length_pos; omega
  have hpre : (bitsOf (c / 2 ^ (l - (l - 1))) (l - 1)).foldl (step t expected) (reading 0 0 out) =
      reading (c / 2 ^ (l - (l - 1))) (l - 1) out := foldl_prefix h (by omega) out
  rw [show l - (l - 1) = 1 by omega, Nat.pow_one] at hpre
  rw [hl, bitsOf_add _ (l - 1) 1, Nat.pow_one, List.foldl_append, hpre]
  simp only [bitsOf, List.foldl_cons, List.foldl_nil, step]
  rw [div_two_mul_two_add_bit, ← hl, h.lookup_code]

/-- Reading the bits of the codes of the bytes of `x`, and then anything, gives `x` back once
`expected` values are out. -/
theorem foldl_codes (code len : Nat → Nat) {x : List UInt8} (hx : x ≠ [])
    (h : ∀ b ∈ x, t.Reads b.toNat (code b.toNat) (len b.toNat)) (rest : List Bool)
    (out : Array UInt8) (hsize : out.size + x.length = expected) :
    (x.flatMap (fun b => bitsOf (code b.toNat) (len b.toNat)) ++ rest).foldl (step t expected)
      (reading 0 0 out) = complete (out ++ x.toArray) := by
  induction x generalizing out with
  | nil => exact absurd rfl hx
  | cons b x ih =>
    rw [List.flatMap_cons, List.append_assoc, List.foldl_append,
      foldl_code (h b List.mem_cons_self), show b.toNat.toUInt8 = b from UInt8.ofNat_toNat]
    by_cases hnil : x = []
    · subst hnil
      rw [if_pos (by simp at hsize ⊢; omega), foldl_complete]
      simp
    · rw [if_neg (by simp at hsize ⊢; have := List.length_pos_of_ne_nil hnil; omega),
        ih hnil (fun c hc => h c (List.mem_cons_of_mem b hc)) _ (by simp at hsize ⊢; omega)]
      simp

end BitScan

/-- The body of a container reads back as `x` when its bits are the codes of the bytes of `x`,
each read back by the table, followed by anything. -/
theorem decodeBody_eq {t : DecodeTable} (code len : Nat → Nat) {x : List UInt8} (hx : x ≠ [])
    (h : ∀ b ∈ x, t.Reads b.toNat (code b.toNat) (len b.toNat)) {body : List UInt8}
    {rest : List Bool}
    (hbody : body.flatMap byteBits = x.flatMap (fun b => bitsOf (code b.toNat) (len b.toNat)) ++ rest) :
    decodeBody t x.length body = .ok x := by
  have hscan := BitScan.foldl_codes code len hx h rest #[]
    (show (#[] : Array UInt8).size + x.length = x.length by simp)
  rw [← hbody, List.foldl_flatMap] at hscan
  simp only [decodeBody, hscan]
  simp

end Tftp.Huffman
