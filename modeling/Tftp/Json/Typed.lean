import Tftp.Json.Reader
import Tftp.Decimal.Shortest
import Tftp.Text.Escaped

/-!
# Typed reading

Reading JSON text into a value of a known shape: unsigned integers with a range, booleans, strings
converted by a function, and records whose fields are read by name from an object or by
position from an array. Missing fields keep their defaults, unknown fields are skipped, and a
field given twice is an error.

A value of the wrong kind is reported as `invalid type: <what was found>, expected <what was
wanted>` and a number out of range as `invalid value: ...`, placed just after the value.
-/

namespace Tftp.Json

/-- What was found where another kind of value was wanted. -/
inductive Unexpected where
  | bool (b : Bool)
  | unsigned (n : Nat)
  | signed (n : Int)
  | float (x : Float)
  | str (s : String)
  | null
  | seq
  | map

/-- How a found value is named in messages. -/
def Unexpected.describe : Unexpected → String
  | bool b => "boolean `" ++ toString b ++ "`"
  | unsigned n => "integer `" ++ toString n ++ "`"
  | signed n => "integer `" ++ toString n ++ "`"
  | float x => "floating point `" ++ Decimal.floatText x ++ "`"
  | str s => "string " ++ Text.quoted s
  | null => "null"
  | seq => "sequence"
  | map => "map"

/-- The text of a value of the wrong kind. -/
def invalidTypeText (u : Unexpected) (expected : String) : String :=
  "invalid type: " ++ u.describe ++ ", expected " ++ expected

/-- The text of a value out of range. -/
def invalidValueText (u : Unexpected) (expected : String) : String :=
  "invalid value: " ++ u.describe ++ ", expected " ++ expected

/-- What a number is, as found. -/
def Number.unexpected : Number → Unexpected
  | .unsigned n => .unsigned n
  | .negative n => .signed n
  | .float x => .float x

/-- Whether a byte is an ASCII digit. -/
def isDigit (b : UInt8) : Bool := 48 ≤ b.toNat && b.toNat ≤ 57

/-- Reads the value at hand to report it as being of the wrong kind. -/
def invalidType {α : Type} (expected : String) : ReadM α := do
  let found ← match ← peekOrNull with
    | 110 => do bump; expectIdent identNull; pure Unexpected.null
    | 116 => do bump; expectIdent identTrue; pure (Unexpected.bool true)
    | 102 => do bump; expectIdent identFalse; pure (Unexpected.bool false)
    | 45 => do bump; pure (← integer false).unexpected
    | 34 => do bump; pure (Unexpected.str (← string))
    | 91 => pure Unexpected.seq
    | 123 => pure Unexpected.map
    | b => if isDigit b then do pure (← integer true).unexpected else failPeek .expectedSomeValue
  failData (invalidTypeText found expected)

/-- Skips white space; fails at the end of the text. -/
def valueStart : ReadM UInt8 := do
  match ← skipBlank with
  | some b => return b
  | none => failPeek .eofWhileParsingValue

/-- Reads an unsigned integer of at most `max`; `expected` names the type in messages. -/
def readUnsigned (max : Nat) (expected : String) : ReadM Nat := do
  let b ← valueStart
  let n ← if b == 45 then do bump; integer false
    else if isDigit b then integer true
    else invalidType expected
  match n with
  | .unsigned v =>
    if v ≤ max then return v else failData (invalidValueText (.unsigned v) expected)
  | .negative v => failData (invalidValueText (.signed v) expected)
  | .float x => failData (invalidTypeText (.float x) expected)

/-- Reads a boolean. -/
def readBool : ReadM Bool := do
  match ← valueStart with
  | 116 => do bump; expectIdent identTrue; return true
  | 102 => do bump; expectIdent identFalse; return false
  | _ => invalidType "a boolean"

/-- Reads a string and converts it; a failed conversion is a data error with its text. -/
def readText {α : Type} (expected : String) (convert : String → Except String α) :
    ReadM α := do
  match ← valueStart with
  | 34 =>
    bump
    let s ← string
    match convert s with
    | .ok a => return a
    | .error msg => failData msg
  | _ => invalidType expected

/-- A record read field by field. -/
structure Shape (α : Type) where
  /-- The record's name in messages, as in `struct Settings`. -/
  name : String
  /-- The field names in order. -/
  fields : List String
  /-- Reads the value of field `i` into the record. -/
  field : Nat → α → ReadM α

/-- Whether another element follows in an array; `first` before the first one. -/
def nextElement (first : Bool) : ReadM Bool := do
  let b ← match ← skipBlank with
    | some 93 => return false
    | some 44 =>
      if first then pure (some 44) else do bump; skipBlank
    | some b => if first then pure (some b) else failPeek .expectedListCommaOrEnd
    | none => failPeek .eofWhileParsingList
  match b with
  | some 93 => failPeek .trailingComma
  | some _ => return true
  | none => failPeek .eofWhileParsingValue

/-- The key of the next member of an object, if another follows; `first` before the first one. -/
def nextKey (first : Bool) : ReadM (Option String) := do
  let b ← match ← skipBlank with
    | some 125 => return none
    | some 44 => if first then pure (some 44) else do bump; skipBlank
    | some b => if first then pure (some b) else failPeek .expectedObjectCommaOrEnd
    | none => failPeek .eofWhileParsingObject
  match b with
  | some 34 => do bump; return some (← string)
  | some 125 => failPeek .trailingComma
  | some _ => failPeek .keyMustBeAString
  | none => failPeek .eofWhileParsingValue

/-- Reads the colon between a key and its value. -/
def memberColon : ReadM Unit := do
  match ← skipBlank with
  | some 58 => bump
  | some _ => failPeek .expectedColon
  | none => failPeek .eofWhileParsingObject

/-- The end of an array, once all wanted elements are read. -/
def arrayEnd : ReadM Unit := do
  match ← skipBlank with
  | some 93 => bump
  | some 44 =>
    bump
    match ← skipBlank with
    | some 93 => failPeek .trailingComma
    | _ => failPeek .trailingCharacters
  | some _ => failPeek .trailingCharacters
  | none => failPeek .eofWhileParsingList

/-- The end of an object. -/
def objectEnd : ReadM Unit := do
  match ← skipBlank with
  | some 125 => bump
  | some 44 => failPeek .trailingComma
  | some _ => failPeek .trailingCharacters
  | none => failPeek .eofWhileParsingObject

/-- A field given twice: the record's reading stops at the key, looks past white space and a
closing brace, and reports the field there. -/
def duplicateField {α : Type} (name : String) : ReadM α := do
  match ← skipBlank with
  | some 125 => bump
  | _ => pure ()
  failData ("duplicate field `" ++ name ++ "`")

/-- Reads a record from an array, one element per field in order. -/
def readFieldsByPosition {α : Type} (shape : Shape α) (init : α) : ReadM α := do
  let rec go : List Nat → Bool → α → ReadM α
    | [], _, acc => return acc
    | i :: rest, first, acc => do
      if ← nextElement first then go rest false (← shape.field i acc)
      else return acc
  go (List.range shape.fields.length) true init

/-- Reads a record from an object, members in any order. -/
def readFieldsByName {α : Type} (shape : Shape α) (init : α) : ReadM α := do
  let rec go : Nat → Bool → List Nat → α → ReadM α
    | 0, _, _, acc => return acc
    | fuel + 1, first, seen, acc => do
      match ← nextKey first with
      | none => return acc
      | some key =>
        match shape.fields.idxOf? key with
        | some i =>
          if seen.contains i then duplicateField key
          else
            memberColon
            go fuel false (i :: seen) (← shape.field i acc)
        | none =>
          memberColon
          skipValue
          go fuel false seen acc
  go ((← remaining) + 1) true [] init

/-- Reads a record, from an object or an array, starting from `init`. -/
def readRecord {α : Type} (shape : Shape α) (init : α) : ReadM α := do
  match ← valueStart with
  | 91 =>
    bump
    let r ← readFieldsByPosition shape init
    arrayEnd
    return r
  | 123 =>
    bump
    let r ← readFieldsByName shape init
    objectEnd
    return r
  | _ => invalidType ("struct " ++ shape.name)

/-- Reads a whole text as one record: nothing but white space may follow it. -/
def readDocument {α : Type} (shape : Shape α) (init : α) (text : String) : Except Error α :=
  let body : ReadM α := do
    let r ← readRecord shape init
    match ← skipBlank with
    | some _ => failPeek .trailingCharacters
    | none => return r
  (body.run ⟨(Utf8.encode text).toArray, 0⟩).map (·.1)

end Tftp.Json
