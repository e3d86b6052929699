/-!
# UTF-8

Characters as UTF-8 bytes, and the lossy reading of arbitrary bytes: every maximal ill-formed
subsequence becomes one U+FFFD, as Unicode's "substitution of maximal subparts" prescribes. A
subpart is maximal when it is the longest prefix of some well-formed sequence, so a lead byte
followed by a byte outside its allowed range is replaced on its own, and the next byte starts
afresh.
-/

namespace Tftp.Utf8

/-- A byte of the form `10xxxxxx`. -/
def isContinuation (b : UInt8) : Bool := 0x80 ≤ b.toNat && b.toNat ≤ 0xBF

/-- The UTF-8 bytes of one character. -/
def encodeChar (c : Char) : List UInt8 :=
  let n := c.toNat
  if n < 0x80 then [n.toUInt8]
  else if n < 0x800 then [(0xC0 + n / 64).toUInt8, (0x80 + n % 64).toUInt8]
  else if n < 0x10000 then
    [(0xE0 + n / 4096).toUInt8, (0x80 + n / 64 % 64).toUInt8, (0x80 + n % 64).toUInt8]
  else
    [(0xF0 + n / 262144).toUInt8, (0x80 + n / 4096 % 64).toUInt8,
      (0x80 + n / 64 % 64).toUInt8, (0x80 + n % 64).toUInt8]

/-- The UTF-8 bytes of a string. -/
def encode (s : String) : List UInt8 := s.toList.flatMap encodeChar

/-- Number of UTF-8 bytes of a string. -/
def byteLength (s : String) : Nat := (encode s).length

/-- The replacement character U+FFFD. -/
def replacement : Char := '�'

/-- Reads one sequence that starts with `lead`: the character it spells and how many of the
following bytes it takes, or `none` and the number of following bytes that still belong to the
maximal ill-formed subpart. -/
def scan (lead : UInt8) (rest : List UInt8) : Option Char × Nat :=
  let l := lead.toNat
  let cont (b : UInt8) := b.toNat % 64
  if l < 0x80 then (some (Char.ofNat l), 0)
  else if 0xC2 ≤ l ∧ l ≤ 0xDF then
    match rest with
    | b1 :: _ =>
      if isContinuation b1 then (some (Char.ofNat ((l % 32) * 64 + cont b1)), 1) else (none, 0)
    | [] => (none, 0)
  else if 0xE0 ≤ l ∧ l ≤ 0xEF then
    let lo := if l = 0xE0 then 0xA0 else 0x80
    let hi := if l = 0xED then 0x9F else 0xBF
    match rest with
    | b1 :: more =>
      if lo ≤ b1.toNat ∧ b1.toNat ≤ hi then
        match more with
        | b2 :: _ =>
          if isContinuation b2 then
            (some (Char.ofNat ((l % 16) * 4096 + cont b1 * 64 + cont b2)), 2)
          else (none, 1)
        | [] => (none, 1)
      else (none, 0)
    | [] => (none, 0)
  else if 0xF0 ≤ l ∧ l ≤ 0xF4 then
    let lo := if l = 0xF0 then 0x90 else 0x80
    let hi := if l = 0xF4 then 0x8F else 0xBF
    match rest with
    | b1 :: more =>
      if lo ≤ b1.toNat ∧ b1.toNat ≤ hi then
        match more with
        | b2 :: more' =>
          if isContinuation b2 then
            match more' with
            | b3 :: _ =>
              if isContinuation b3 then
                (some (Char.ofNat ((l % 8) * 262144 + cont b1 * 4096 + cont b2 * 64 + cont b3)), 3)
              else (none, 2)
            | [] => (none, 2)
          else (none, 1)
        | [] => (none, 1)
      else (none, 0)
    | [] => (none, 0)
  else (none, 0)

/-- Lossy reading of bytes as characters: each maximal ill-formed subpart becomes U+FFFD. -/
def decodeLossyChars (bytes : List UInt8) : List Char :=
  match bytes with
  | [] => []
  | b :: rest =>
    let (c, n) := scan b rest
    c.getD replacement :: decodeLossyChars (rest.drop n)
termination_by bytes.length
decreasing_by
  simp only [List.length_drop, List.length_cons]
  omega

/-- Lossy reading of bytes as a string. -/
def decodeLossy (bytes : List UInt8) : String := String.ofList (decodeLossyChars bytes)

/-- Bytes that are all below 0x80. -/
def isAscii (bytes : List UInt8) : Bool := bytes.all (·.toNat < 0x80)

/-- The string that ASCII bytes spell, one character per byte. -/
def ofAscii (bytes : List UInt8) : String := String.ofList (bytes.map fun b => Char.ofNat b.toNat)

end Tftp.Utf8
