import Tftp.Proofs.Encoding
import Mathlib

/-!
# Reading UTF-8 back

What the lossy reading `Utf8.decodeLossy` makes of the bytes of a string, whole or cut short.
The bytes of a string read back as the string (`decodeLossy_encode`); the bytes of a string
followed by the first bytes of one more character read back as the string and one U+FFFD
(`decodeLossyChars_cut`), since a proper prefix of a character's bytes is a maximal ill-formed
subpart. Cutting the bytes of a string anywhere leaves the bytes of whole characters and at most
such a partial character (`take_flatMap_encodeChar`).

Both rest on `scan` reading the bytes of each of the four lengths of UTF-8 sequence as
`encodeChar` writes them: the lead byte falls in the range `scan` checks first, and each following
byte in the range it allows there, the surrogates aside.
-/

namespace Tftp.Utf8

theorem toNat_toUInt8_of_lt {n : Nat} (h : n < 256) : n.toUInt8.toNat = n := by
  simp only [Nat.toUInt8, UInt8.toNat_ofNat']
  omega

/-- A character is a Unicode scalar value: below the surrogates, or above them and below
U+110000. -/
theorem char_toNat_scalar (c : Char) :
    c.toNat < 0xD800 ∨ (0xDFFF < c.toNat ∧ c.toNat < 0x110000) := by
  have := c.valid
  simp only [UInt32.isValidChar, Nat.isValidChar] at this
  simp only [Char.toNat]
  omega

theorem isContinuation_toUInt8 (k : Nat) : isContinuation (0x80 + k % 64).toUInt8 = true := by
  simp only [isContinuation, toNat_toUInt8_of_lt (show 0x80 + k % 64 < 256 by omega),
    Bool.and_eq_true, decide_eq_true_eq]
  omega

/-- The second byte of a three-byte sequence is in the range `scan` allows after its lead: above
the overlong forms after `E0`, below the surrogates after `ED`. -/
theorem secondByte_three {n : Nat} (hlo : 0x800 ≤ n) (hhi : n < 0x10000)
    (hs : n < 0xD800 ∨ 0xDFFF < n) :
    (if 0xE0 + n / 4096 = 0xE0 then 0xA0 else 0x80) ≤ 0x80 + n / 64 % 64 ∧
      0x80 + n / 64 % 64 ≤ if 0xE0 + n / 4096 = 0xED then 0x9F else 0xBF := by
  constructor <;> split_ifs <;> omega

/-- The second byte of a four-byte sequence is in the range `scan` allows after its lead: above
the overlong forms after `F0`, below U+110000 after `F4`. -/
theorem secondByte_four {n : Nat} (hlo : 0x10000 ≤ n) (hhi : n < 0x110000) :
    (if 0xF0 + n / 262144 = 0xF0 then 0x90 else 0x80) ≤ 0x80 + n / 4096 % 64 ∧
      0x80 + n / 4096 % 64 ≤ if 0xF0 + n / 262144 = 0xF4 then 0x8F else 0xBF := by
  constructor <;> split_ifs <;> omega

/-- `scan` reads a character's bytes back as the character, whatever follows them. -/
theorem scan_encodeChar {c : Char} {b : UInt8} {bs : List UInt8} (h : encodeChar c = b :: bs)
    (rest : List UInt8) : scan b (bs ++ rest) = (some c, bs.length) := by
  have hc := char_toNat_scalar c
  simp only [encodeChar] at h
  split_ifs at h with h1 h2 h3
  · -- one byte
    simp only [List.cons.injEq] at h
    obtain ⟨rfl, rfl⟩ := h
    simp only [scan, toNat_toUInt8_of_lt (show c.toNat < 256 by omega), if_pos h1]
    simp
  · -- two bytes: a lead in `C2..DF`
    simp only [List.cons.injEq] at h
    obtain ⟨rfl, rfl⟩ := h
    have e0 := toNat_toUInt8_of_lt (show 0xC0 + c.toNat / 64 < 256 by omega)
    have e1 := toNat_toUInt8_of_lt (show 0x80 + c.toNat % 64 < 256 by omega)
    simp only [scan, e0, e1, isContinuation_toUInt8, List.cons_append, List.nil_append]
    rw [if_neg (by omega), if_pos (by omega)]
    simp only [if_true, List.length_singleton]
    rw [show (0xC0 + c.toNat / 64) % 32 * 64 + (0x80 + c.toNat % 64) % 64 = c.toNat by omega,
      Char.ofNat_toNat]
  · -- three bytes: the second byte avoids the overlong `E0` forms and the surrogates after `ED`
    simp only [List.cons.injEq] at h
    obtain ⟨rfl, rfl⟩ := h
    have e0 := toNat_toUInt8_of_lt (show 0xE0 + c.toNat / 4096 < 256 by omega)
    have e1 := toNat_toUInt8_of_lt (show 0x80 + c.toNat / 64 % 64 < 256 by omega)
    have e2 := toNat_toUInt8_of_lt (show 0x80 + c.toNat % 64 < 256 by omega)
    simp only [scan, e0, e1, e2, isContinuation_toUInt8, List.cons_append, List.nil_append]
    rw [if_neg (by omega), if_neg (by omega), if_pos (by omega)]
    have hb1 := secondByte_three (n := c.toNat) (by omega) h3 (by omega)
    simp only [if_pos hb1, if_true, List.length_cons, List.length_nil]
    rw [show (0xE0 + c.toNat / 4096) % 16 * 4096 + (0x80 + c.toNat / 64 % 64) % 64 * 64 +
      (0x80 + c.toNat % 64) % 64 = c.toNat by omega, Char.ofNat_toNat]
  · -- four bytes: the second byte avoids the overlong `F0` forms and keeps `F4` below U+110000
    simp only [List.cons.injEq] at h
    obtain ⟨rfl, rfl⟩ := h
    have e0 := toNat_toUInt8_of_lt (show 0xF0 + c.toNat / 262144 < 256 by omega)
    have e1 := toNat_toUInt8_of_lt (show 0x80 + c.toNat / 4096 % 64 < 256 by omega)
    simp only [scan, e0, e1, isContinuation_toUInt8, List.cons_append, List.nil_append]
    rw [if_neg (by omega), if_neg (by omega), if_neg (by omega), if_pos (by omega)]
    have hb1 := secondByte_four (n := c.toNat) (by omega) (by omega)
    simp only [if_pos hb1, if_true, List.length_cons, List.length_nil]
    have e2 := toNat_toUInt8_of_lt (show 0x80 + c.toNat / 64 % 64 < 256 by omega)
    have e3 := toNat_toUInt8_of_lt (show 0x80 + c.toNat % 64 < 256 by omega)
    rw [e2, e3, show (0xF0 + c.toNat / 262144) % 8 * 262144 + (0x80 + c.toNat / 4096 % 64) % 64 *
      4096 + (0x80 + c.toNat / 64 % 64) % 64 * 64 + (0x80 + c.toNat % 64) % 64 = c.toNat by omega,
      Char.ofNat_toNat]

/-- `scan` finds a proper prefix of a character's bytes ill-formed, all of it one maximal
subpart. -/
theorem scan_take_encodeChar {c : Char} {b : UInt8} {bs : List UInt8} (h : encodeChar c = b :: bs)
    {j : Nat} (hj : j < bs.length) : scan b (bs.take j) = (none, j) := by
  have hc := char_toNat_scalar c
  simp only [encodeChar] at h
  split_ifs at h with h1 h2 h3
  · simp only [List.cons.injEq] at h
    obtain ⟨rfl, rfl⟩ := h
    simp at hj
  · simp only [List.cons.injEq] at h
    obtain ⟨rfl, rfl⟩ := h
    have e0 := toNat_toUInt8_of_lt (show 0xC0 + c.toNat / 64 < 256 by omega)
    simp only [List.length_singleton, Nat.lt_one_iff] at hj
    subst hj
    simp only [scan, e0, List.take_zero]
    rw [if_neg (by omega), if_pos (by omega)]
  · simp only [List.cons.injEq] at h
    obtain ⟨rfl, rfl⟩ := h
    have e0 := toNat_toUInt8_of_lt (show 0xE0 + c.toNat / 4096 < 256 by omega)
    have e1 := toNat_toUInt8_of_lt (show 0x80 + c.toNat / 64 % 64 < 256 by omega)
    simp only [List.length_cons, List.length_nil] at hj
    simp only [scan, e0]
    rw [if_neg (by omega), if_neg (by omega), if_pos (by omega)]
    have hb1 := secondByte_three (n := c.toNat) (by omega) h3 (by omega)
    interval_cases j
    · rfl
    · simp only [List.take_succ_cons, List.take_zero, e1, if_pos hb1]
  · simp only [List.cons.injEq] at h
    obtain ⟨rfl, rfl⟩ := h
    have e0 := toNat_toUInt8_of_lt (show 0xF0 + c.toNat / 262144 < 256 by omega)
    have e1 := toNat_toUInt8_of_lt (show 0x80 + c.toNat / 4096 % 64 < 256 by omega)
    simp only [List.length_cons, List.length_nil] at hj
    simp only [scan, e0]
    rw [if_neg (by omega), if_neg (by omega), if_neg (by omega), if_pos (by omega)]
    have hb1 := secondByte_four (n := c.toNat) (by omega) (by omega)
    interval_cases j
    · rfl
    · simp only [List.take_succ_cons, List.take_zero, e1, if_pos hb1]
    · simp only [List.take_succ_cons, List.take_zero, e1, if_pos hb1, isContinuation_toUInt8,
        if_true]

theorem decodeLossyChars_cons (b : UInt8) (rest : List UInt8) :
    decodeLossyChars (b :: rest) =
      (scan b rest).1.getD replacement :: decodeLossyChars (rest.drop (scan b rest).2) := by
  rw [decodeLossyChars]

theorem encodeChar_ne_nil' (c : Char) : ∃ b bs, encodeChar c = b :: bs := by
  cases h : encodeChar c with
  | nil => exact absurd h (encodeChar_ne_nil c)
  | cons b bs => exact ⟨b, bs, rfl⟩

/-- The bytes of whole characters read back as those characters, whatever follows them. -/
theorem decodeLossyChars_flatMap_append (l : List Char) (rest : List UInt8) :
    decodeLossyChars (l.flatMap encodeChar ++ rest) = l ++ decodeLossyChars rest := by
  induction l with
  | nil => rfl
  | cons c l ih =>
    obtain ⟨b, bs, h⟩ := encodeChar_ne_nil' c
    rw [List.flatMap_cons, h, List.cons_append, List.cons_append, List.append_assoc,
      decodeLossyChars_cons, scan_encodeChar h, List.drop_left, ih]
    rfl

theorem decodeLossy_encode (s : String) : decodeLossy (encode s) = s := by
  have h := decodeLossyChars_flatMap_append s.toList []
  rw [List.append_nil, show decodeLossyChars [] = [] by rw [decodeLossyChars], List.append_nil] at h
  rw [decodeLossy, encode, h, String.ofList_toList]

/-- The first bytes of a character, short of all of them, read back as one U+FFFD. -/
theorem decodeLossyChars_take_encodeChar (c : Char) {j : Nat} (h0 : 0 < j)
    (hj : j < (encodeChar c).length) :
    decodeLossyChars ((encodeChar c).take j) = [replacement] := by
  obtain ⟨b, bs, h⟩ := encodeChar_ne_nil' c
  obtain ⟨k, rfl⟩ : ∃ k, j = k + 1 := ⟨j - 1, by omega⟩
  rw [h] at hj ⊢
  simp only [List.length_cons, Nat.add_lt_add_iff_right] at hj
  rw [List.take_succ_cons, decodeLossyChars_cons, scan_take_encodeChar h hj]
  simp [List.drop_eq_nil_of_le, decodeLossyChars]

/-- The bytes of whole characters, then the first bytes of one more, read back as those
characters and one U+FFFD. -/
theorem decodeLossyChars_cut (l : List Char) (c : Char) {j : Nat} (h0 : 0 < j)
    (hj : j < (encodeChar c).length) :
    decodeLossyChars (l.flatMap encodeChar ++ (encodeChar c).take j) = l ++ [replacement] := by
  rw [decodeLossyChars_flatMap_append, decodeLossyChars_take_encodeChar c h0 hj]

/-- Cutting the bytes of some characters after `k` bytes leaves the bytes of the characters of a
prefix, then either nothing or a proper prefix of the next character's bytes; in that case exactly
`k` bytes remain. -/
theorem take_flatMap_encodeChar (cs : List Char) (k : Nat) :
    ∃ pre part, (cs.flatMap encodeChar).take k = pre.flatMap encodeChar ++ part ∧ pre <+: cs ∧
      (part = [] ∨ ∃ c j, pre ++ [c] <+: cs ∧ 0 < j ∧ j < (encodeChar c).length ∧
        part = (encodeChar c).take j ∧ (pre.flatMap encodeChar).length + j = k) := by
  induction cs generalizing k with
  | nil => exact ⟨[], [], by simp, List.nil_prefix, .inl rfl⟩
  | cons c cs ih =>
    rw [List.flatMap_cons, List.take_append]
    by_cases hk : k < (encodeChar c).length
    · -- the cut falls inside `c`, or before it
      rw [Nat.sub_eq_zero_of_le hk.le, List.take_zero, List.append_nil]
      rcases Nat.eq_zero_or_pos k with rfl | hpos
      · exact ⟨[], [], by simp, List.nil_prefix, .inl rfl⟩
      · exact ⟨[], (encodeChar c).take k, by simp, List.nil_prefix,
          .inr ⟨c, k, by simp, hpos, hk, rfl, by simp⟩⟩
    · -- all of `c` stays, and the cut falls in the characters after it
      obtain ⟨pre, part, htake, hpre, hpart⟩ := ih (k - (encodeChar c).length)
      refine ⟨c :: pre, part, ?_, List.cons_prefix_cons.2 ⟨rfl, hpre⟩, ?_⟩
      · rw [List.take_of_length_le (by omega), htake, List.flatMap_cons, List.append_assoc]
      · rcases hpart with rfl | ⟨c', j, hc', hj0, hj, rfl, hlen⟩
        · exact .inl rfl
        · refine .inr ⟨c', j, List.cons_prefix_cons.2 ⟨rfl, hc'⟩, hj0, hj, rfl, ?_⟩
          rw [List.flatMap_cons, List.length_append]
          omega

/-- Bytes of characters up to the first NUL byte are the bytes of the characters up to the first
NUL character: no byte of another character is zero. -/
theorem takeWhile_flatMap_encodeChar (l : List Char) :
    (l.flatMap encodeChar).takeWhile (· != 0) = (l.takeWhile (· != '\x00')).flatMap encodeChar := by
  induction l with
  | nil => rfl
  | cons c l ih =>
    by_cases hc : c = '\x00'
    · subst hc
      rfl
    · have hne : ∀ b ∈ encodeChar c, (b != 0) = true := by
        intro b hb
        rcases toNat_of_mem_encodeChar hb with ⟨_, h⟩ | h
        · refine bne_iff_ne.2 fun hb0 => hc (Char.toNat_inj.1 ?_)
          rw [← h, hb0]
          rfl
        · refine bne_iff_ne.2 fun hb0 => ?_
          rw [hb0] at h
          simp at h
      rw [List.flatMap_cons, List.takeWhile_append_of_pos hne, ih,
        List.takeWhile_cons, if_pos (bne_iff_ne.2 hc), List.flatMap_cons]

end Tftp.Utf8
