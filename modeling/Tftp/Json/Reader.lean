import Tftp.Json.Error
import Tftp.Text.Utf8

/-!
# Reading JSON text

A cursor over the bytes of JSON text and the readers of its lexical parts: white space, the
literals `null`, `true` and `false`, strings with their escapes, numbers, and whole values that
are skipped. Every failure carries the place where reading stopped. Some faults are reported at
the byte just read and some at the byte after the one looked at; each reader says which.

Numbers keep their kind: a non-negative integer that fits in 64 bits, a negative one that fits in
64 signed bits, or else a double. A double is computed as the significand as a double, times or
divided by the power of ten, so long significands are rounded twice.

Every loop consumes at least one byte per round, so the length of the text bounds it; the fuel
arguments below are that bound.
-/

namespace Tftp.Json

/-- The text and how far it has been read. -/
structure Cursor where
  input : Array UInt8
  index : Nat

/-- Reading that may fail with a placed error. -/
abbrev ReadM := StateT Cursor (Except Error)

/-- Line and column of a byte offset: lines from 1, columns in bytes from the line start. -/
def positionOf (input : Array UInt8) (i : Nat) : Nat × Nat :=
  let before := input.toList.take i
  let lineStart := match (before.reverse.findIdx? (· == 10)) with
    | some j => i - j
    | none => 0
  let lines := (before.take lineStart).count 10
  (lines + 1, i - lineStart)

/-- A fault placed at the current offset. -/
def fail {α : Type} (f : Fault) : ReadM α := fun c =>
  let (l, col) := positionOf c.input c.index
  .error ⟨.grammar f, l, col⟩

/-- A fault placed one byte after the current offset (at most at the end). -/
def failPeek {α : Type} (f : Fault) : ReadM α := fun c =>
  let (l, col) := positionOf c.input (min c.input.size (c.index + 1))
  .error ⟨.grammar f, l, col⟩

/-- A data error placed at the current offset. -/
def failData {α : Type} (text : String) : ReadM α := fun c =>
  let (l, col) := positionOf c.input c.index
  .error ⟨.data text, l, col⟩

/-- The next byte, not consumed. -/
def peek : ReadM (Option UInt8) := fun c => .ok (c.input[c.index]?, c)

/-- The next byte, or 0 at the end. -/
def peekOrNull : ReadM UInt8 := do return (← peek).getD 0

/-- Consumes one byte. -/
def bump : ReadM Unit := fun c => .ok ((), { c with index := c.index + 1 })

/-- The next byte, consumed. -/
def next : ReadM (Option UInt8) := fun c =>
  match c.input[c.index]? with
  | some b => .ok (some b, { c with index := c.index + 1 })
  | none => .ok (none, c)

/-- Bytes left to read. -/
def remaining : ReadM Nat := fun c => .ok (c.input.size - c.index, c)

/-- Whether a byte is JSON white space. -/
def isBlank (b : UInt8) : Bool := b == 32 || b == 10 || b == 9 || b == 13

/-- Skips white space; the next byte, not consumed. -/
def skipBlank : ReadM (Option UInt8) := do
  let rec go : Nat → ReadM (Option UInt8)
    | 0 => peek
    | fuel + 1 => do
      match ← peek with
      | some b => if isBlank b then do bump; go fuel else return some b
      | none => return none
  go ((← remaining) + 1)

/-- Reads the rest of a literal whose first byte was consumed. -/
def expectIdent (rest : List UInt8) : ReadM Unit :=
  rest.forM fun expected => do
    match ← next with
    | none => fail .eofWhileParsingValue
    | some b => if b != expected then fail .expectedSomeIdent else pure ()

/-- The bytes of `ull`, `rue` and `alse`. -/
def identNull : List UInt8 := [117, 108, 108]
def identTrue : List UInt8 := [114, 117, 101]
def identFalse : List UInt8 := [97, 108, 115, 101]

/-! ## Strings -/

/-- The value of a hexadecimal digit. -/
def hexValue (b : UInt8) : Option Nat :=
  let n := b.toNat
  if 48 ≤ n ∧ n ≤ 57 then some (n - 48)
  else if 97 ≤ n ∧ n ≤ 102 then some (n - 87)
  else if 65 ≤ n ∧ n ≤ 70 then some (n - 55)
  else none

/-- Reads the four hex digits of a `\u` escape. -/
def hexEscape : ReadM Nat := fun c =>
  if c.index + 4 ≤ c.input.size then
    let c' := { c with index := c.index + 4 }
    let ds := (List.range 4).map fun k => hexValue (c.input.getD (c.index + k) 0)
    match ds with
    | [some a, some b, some d, some e] => .ok (((a * 16 + b) * 16 + d) * 16 + e, c')
    | _ => (fail .invalidEscape : ReadM Nat) c'
  else (fail .eofWhileParsingString : ReadM Nat) { c with index := c.input.size }

/-- The next byte of an escape, which the string needs. -/
def nextInString : ReadM UInt8 := do
  match ← next with
  | some b => return b
  | none => fail .eofWhileParsingString

/-- The next byte of an escape, not consumed. -/
def peekInString : ReadM UInt8 := do
  match ← peek with
  | some b => return b
  | none => fail .eofWhileParsingString

/-- Reads a `\u` escape (the `u` consumed), joining a surrogate pair: its UTF-8 bytes. -/
def unicodeEscape : ReadM (List UInt8) := do
  let n ← hexEscape
  if 0xDC00 ≤ n ∧ n ≤ 0xDFFF then fail .loneLeadingSurrogateInHexEscape
  else if n < 0xD800 ∨ n > 0xDBFF then return Utf8.encodeChar (Char.ofNat n)
  else
    if (← peekInString) != 92 then do bump; fail .unexpectedEndOfHexEscape
    bump
    if (← peekInString) != 117 then do bump; fail .unexpectedEndOfHexEscape
    bump
    let n2 ← hexEscape
    if n2 < 0xDC00 ∨ n2 > 0xDFFF then fail .loneLeadingSurrogateInHexEscape
    return Utf8.encodeChar (Char.ofNat (((n - 0xD800) * 1024 + (n2 - 0xDC00)) + 0x10000))

/-- Reads an escape after its backslash: its UTF-8 bytes. -/
def escape : ReadM (List UInt8) := do
  match ← nextInString with
  | 34 => return [34]
  | 92 => return [92]
  | 47 => return [47]
  | 98 => return [8]
  | 102 => return [12]
  | 110 => return [10]
  | 114 => return [13]
  | 116 => return [9]
  | 117 => unicodeEscape
  | _ => fail .invalidEscape

/-- Reads a string after its opening quote: its UTF-8 bytes. -/
def stringBytes : ReadM (List UInt8) := do
  let rec go : Nat → Array UInt8 → ReadM (List UInt8)
    | 0, _ => fail .eofWhileParsingString
    | fuel + 1, acc => do
      match ← peek with
      | none => fail .eofWhileParsingString
      | some 34 => do bump; return acc.toList
      | some 92 => do
        bump
        let bs ← escape
        go fuel (acc ++ bs.toArray)
      | some b =>
        bump
        if b < 32 then fail .controlCharacterWhileParsingString
        else go fuel (acc.push b)
  go ((← remaining) + 1) #[]

/-- Reads a string after its opening quote. -/
def string : ReadM String := do
  return Utf8.decodeLossy (← stringBytes)

/-- Skips an escape after its backslash. -/
def skipEscape : ReadM Unit := do
  match ← nextInString with
  | 34 | 92 | 47 | 98 | 102 | 110 | 114 | 116 => pure ()
  | 117 => do let _ ← hexEscape
  | _ => fail .invalidEscape

/-- Skips a string after its opening quote. -/
def skipString : ReadM Unit := do
  let rec go : Nat → ReadM Unit
    | 0 => fail .eofWhileParsingString
    | fuel + 1 => do
      match ← peek with
      | none => fail .eofWhileParsingString
      | some 34 => bump
      | some 92 => do bump; skipEscape; go fuel
      | some b => if b < 32 then fail .controlCharacterWhileParsingString else do bump; go fuel
  go ((← remaining) + 1)

/-! ## Numbers -/

/-- A number as read. -/
inductive Number where
  /-- A non-negative integer below `2^64`. -/
  | unsigned (n : Nat)
  /-- A negative integer of at least `-2^63`. -/
  | negative (n : Int)
  | float (x : Float)

/-- The largest 64-bit unsigned number. -/
def u64Max : Nat := Nat.pow 2 64 - 1

/-- The largest 32-bit signed number. -/
def i32Max : Int := Int.pow 2 31 - 1

/-- Whether `a * 10 + d` exceeds `bound`. -/
def exceeds (a d bound : Nat) : Bool := a ≥ bound / 10 && (a > bound / 10 || d > bound % 10)

/-- `10^k` as a double, for `k ≤ 308`. -/
def powerOfTen (k : Nat) : Float := Float.ofScientific 1 false k

/-- Clamps to the 32-bit signed range. -/
def saturate (e : Int) : Int := max (-(Int.pow 2 31)) (min i32Max e)

/-- The double `significand * 10^exponent`, by one multiplication or division when the power is
at most 308 and by steps of `10^308` below that. -/
def fromParts (positive : Bool) (significand : Nat) (exponent : Int) : ReadM Float := do
  let rec go : Nat → Float → Int → ReadM Float
    | 0, f, _ => return f
    | fuel + 1, f, e =>
      if e.natAbs ≤ 308 then
        if e ≥ 0 then
          let f := f * powerOfTen e.toNat
          if f.isInf then fail .numberOutOfRange else return f
        else return f / powerOfTen e.natAbs
      else if f == 0 then return f
      else if e ≥ 0 then fail .numberOutOfRange
      else go fuel (f / powerOfTen 308) (e + 308)
  let f ← go (exponent.natAbs / 308 + 2) significand.toUInt64.toFloat exponent
  return if positive then f else -f

/-- Reads the digits of an exponent (after `e` and its sign). -/
def exponentDigits (positive : Bool) (significand : Nat) (start : Int) : ReadM Float := do
  let positiveExp ← do
    match ← peekOrNull with
    | 43 => do bump; pure true
    | 45 => do bump; pure false
    | _ => pure true
  let first ← match ← next with
    | none => fail .eofWhileParsingValue
    | some b =>
      if 48 ≤ b.toNat ∧ b.toNat ≤ 57 then pure (b.toNat - 48) else fail .invalidNumber
  let rec go : Nat → Nat → ReadM (Option Nat)
    | 0, e => return some e
    | fuel + 1, e => do
      let b ← peekOrNull
      if 48 ≤ b.toNat ∧ b.toNat ≤ 57 then
        bump
        let d := b.toNat - 48
        if exceeds e d i32Max.toNat then return none else go fuel (e * 10 + d)
      else return some e
  match ← go ((← remaining) + 1) first with
  | some e =>
    let final := saturate (if positiveExp then start + e else start - e)
    fromParts positive significand final
  | none =>
    -- the exponent overflows: zero, or out of range upward
    if significand ≠ 0 ∧ positiveExp then fail .numberOutOfRange
    else
      let rec skip : Nat → ReadM Unit
        | 0 => pure ()
        | fuel + 1 => do
          let b ← peekOrNull
          if 48 ≤ b.toNat ∧ b.toNat ≤ 57 then do bump; skip fuel else pure ()
      skip ((← remaining) + 1)
      return if positive then 0.0 else -0.0

/-- Reads an exponent: the `e` is next. -/
def exponentPart (positive : Bool) (significand : Nat) (start : Int) : ReadM Float := do
  bump
  exponentDigits positive significand start

/-- Skips further digits once the significand is full, then reads an exponent if one follows. -/
def decimalOverflow (positive : Bool) (significand : Nat) (exponent : Int) : ReadM Float := do
  let rec skip : Nat → ReadM Unit
    | 0 => pure ()
    | fuel + 1 => do
      let b ← peekOrNull
      if 48 ≤ b.toNat ∧ b.toNat ≤ 57 then do bump; skip fuel else pure ()
  skip ((← remaining) + 1)
  match ← peekOrNull with
  | 101 | 69 => exponentPart positive significand exponent
  | _ => fromParts positive significand exponent

/-- Reads a fraction: the `.` is next. -/
def decimalPart (positive : Bool) (significand : Nat) (before : Int) : ReadM Float := do
  bump
  let rec go : Nat → Nat → Int → ReadM (Nat × Int × Bool)
    | 0, s, e => return (s, e, false)
    | fuel + 1, s, e => do
      let b ← peekOrNull
      if 48 ≤ b.toNat ∧ b.toNat ≤ 57 then
        let d := b.toNat - 48
        if exceeds s d u64Max then return (s, e, true)
        else do bump; go fuel (s * 10 + d) (e - 1)
      else return (s, e, false)
  let (s, after, overflowed) ← go ((← remaining) + 1) significand 0
  if overflowed then decimalOverflow positive s (before + after)
  else
    if after = 0 then
      match ← peek with
      | some _ => failPeek .invalidNumber
      | none => failPeek .eofWhileParsingValue
    match ← peekOrNull with
    | 101 | 69 => exponentPart positive s (before + after)
    | _ => fromParts positive s (before + after)

/-- Reads what follows the integer digits of a number. -/
def numberTail (positive : Bool) (significand : Nat) : ReadM Number := do
  match ← peekOrNull with
  | 46 => return .float (← decimalPart positive significand 0)
  | 101 | 69 => return .float (← exponentPart positive significand 0)
  | _ =>
    if positive then return .unsigned significand
    else if significand = 0 ∨ significand > Nat.pow 2 63 then
      return .float (-(significand.toUInt64.toFloat))
    else return .negative (-(significand : Int))

/-- Reads the digits past a full 64-bit significand; each raises the exponent. -/
def longInteger (positive : Bool) (significand : Nat) : ReadM Float := do
  let rec go : Nat → Int → ReadM Float
    | 0, e => fromParts positive significand e
    | fuel + 1, e => do
      match ← peekOrNull with
      | 48 | 49 | 50 | 51 | 52 | 53 | 54 | 55 | 56 | 57 => do bump; go fuel (e + 1)
      | 46 => decimalPart positive significand e
      | 101 | 69 => exponentPart positive significand e
      | _ => fromParts positive significand e
  go ((← remaining) + 1) 0

/-- Reads a number after its sign. -/
def integer (positive : Bool) : ReadM Number := do
  match ← next with
  | none => fail .eofWhileParsingValue
  | some 48 =>
    let b ← peekOrNull
    if 48 ≤ b.toNat ∧ b.toNat ≤ 57 then failPeek .invalidNumber
    else numberTail positive 0
  | some c =>
    if 49 ≤ c.toNat ∧ c.toNat ≤ 57 then
      let rec go : Nat → Nat → ReadM Number
        | 0, s => numberTail positive s
        | fuel + 1, s => do
          let b ← peekOrNull
          if 48 ≤ b.toNat ∧ b.toNat ≤ 57 then
            let d := b.toNat - 48
            if exceeds s d u64Max then return .float (← longInteger positive s)
            else do bump; go fuel (s * 10 + d)
          else numberTail positive s
      go ((← remaining) + 1) (c.toNat - 48)
    else fail .invalidNumber

/-! ## Skipping values -/

/-- Skips the digits and fraction of a number after its sign. -/
def skipNumber : ReadM Unit := do
  let digit (b : UInt8) : Bool := 48 ≤ b.toNat && b.toNat ≤ 57
  let rec digits : Nat → ReadM Bool
    | 0 => return false
    | fuel + 1 => do
      if digit (← peekOrNull) then do bump; let _ ← digits fuel; return true else return false
  let exponent : ReadM Unit := do
    bump
    match ← peekOrNull with
    | 43 | 45 => bump
    | _ => pure ()
    match ← next with
    | some b => if digit b then pure () else fail .invalidNumber
    | none => fail .invalidNumber
    let _ ← digits ((← remaining) + 1)
  match ← next with
  | some 48 => if digit (← peekOrNull) then failPeek .invalidNumber
  | some b =>
    if 49 ≤ b.toNat ∧ b.toNat ≤ 57 then
      let _ ← digits ((← remaining) + 1)
    else fail .invalidNumber
  | none => fail .invalidNumber
  match ← peekOrNull with
  | 46 =>
    bump
    if !(← digits ((← remaining) + 1)) then failPeek .invalidNumber
    match ← peekOrNull with
    | 101 | 69 => exponent
    | _ => pure ()
  | 101 | 69 => exponent
  | _ => pure ()

/-- Skips one whole value, however deeply nested, keeping the open brackets on a stack. -/
def skipValue : ReadM Unit := do
  -- one round per byte at least; `frames` holds the open brackets outside `enclosing`
  let rec go : Nat → List UInt8 → Option UInt8 → ReadM Unit
    | 0, _, _ => fail .eofWhileParsingValue
    | fuel + 1, frames, enclosing => do
      let frame ← match ← skipBlank with
        | none => failPeek .eofWhileParsingValue
        | some 110 => do bump; expectIdent identNull; pure none
        | some 116 => do bump; expectIdent identTrue; pure none
        | some 102 => do bump; expectIdent identFalse; pure none
        | some 45 => do bump; skipNumber; pure none
        | some b =>
          if 48 ≤ b.toNat ∧ b.toNat ≤ 57 then do skipNumber; pure none
          else if b == 34 then do bump; skipString; pure none
          else if b == 91 ∨ b == 123 then do bump; pure (some b)
          else failPeek .expectedSomeValue
      let frames := match frame with
        | some _ => enclosing.toList ++ frames
        | none => frames
      -- the bracket whose content continues, and whether a comma may come first
      let start : Option (Bool × UInt8 × List UInt8) := match frame, enclosing with
        | some f, _ => some (false, f, frames)
        | none, some f => some (true, f, frames)
        | none, none => match frames with
          | f :: rest => some (true, f, rest)
          | [] => none
      match start with
      | none => pure ()
      | some (acceptComma, f, frames) =>
        -- close brackets until a comma or a new element
        let rec close :
            Nat → Bool → UInt8 → List UInt8 → ReadM (Option (UInt8 × List UInt8))
          | 0, _, _, _ => fail .eofWhileParsingValue
          | k + 1, acceptComma, f, frames => do
            match ← skipBlank with
            | some 44 =>
              if acceptComma then do bump; return some (f, frames)
              else return some (f, frames)
            | some 93 =>
              if f == 91 then do
                bump
                match frames with
                | g :: rest => close k true g rest
                | [] => return none
              else if acceptComma then failPeek .expectedObjectCommaOrEnd
              else return some (f, frames)
            | some 125 =>
              if f == 123 then do
                bump
                match frames with
                | g :: rest => close k true g rest
                | [] => return none
              else if acceptComma then failPeek .expectedListCommaOrEnd
              else return some (f, frames)
            | some _ =>
              if acceptComma then
                failPeek (if f == 91 then .expectedListCommaOrEnd else .expectedObjectCommaOrEnd)
              else return some (f, frames)
            | none =>
              failPeek (if f == 91 then .eofWhileParsingList else .eofWhileParsingObject)
        match ← close ((← remaining) + 1) acceptComma f frames with
        | none => pure ()
        | some (f, frames) =>
          if f == 123 then
            match ← skipBlank with
            | some 34 => bump
            | some _ => failPeek .keyMustBeAString
            | none => failPeek .eofWhileParsingObject
            skipString
            match ← skipBlank with
            | some 58 => bump
            | some _ => failPeek .expectedColon
            | none => failPeek .eofWhileParsingObject
          go fuel frames (some f)
  go ((← remaining) + 1) [] none

end Tftp.Json
