/-!
# JSON reading errors

Why JSON text could not be read into settings, with the line and column where reading stopped.
Lines count from 1; a column is the number of bytes since the start of its line. Grammar faults
are grammar errors, running out of text is an end-of-input error, and a well-formed value of the
wrong type or range is a data error.
-/

namespace Tftp.Json

/-- A fault in the text itself. -/
inductive Fault where
  | eofWhileParsingList
  | eofWhileParsingObject
  | eofWhileParsingString
  | eofWhileParsingValue
  | expectedColon
  | expectedListCommaOrEnd
  | expectedObjectCommaOrEnd
  | expectedSomeIdent
  | expectedSomeValue
  | invalidEscape
  | invalidNumber
  | numberOutOfRange
  | controlCharacterWhileParsingString
  | keyMustBeAString
  | loneLeadingSurrogateInHexEscape
  | trailingComma
  | trailingCharacters
  | unexpectedEndOfHexEscape
  | recursionLimitExceeded
  deriving DecidableEq, Repr

/-- The text of each fault. -/
def Fault.text : Fault → String
  | eofWhileParsingList => "EOF while parsing a list"
  | eofWhileParsingObject => "EOF while parsing an object"
  | eofWhileParsingString => "EOF while parsing a string"
  | eofWhileParsingValue => "EOF while parsing a value"
  | expectedColon => "expected `:`"
  | expectedListCommaOrEnd => "expected `,` or `]`"
  | expectedObjectCommaOrEnd => "expected `,` or `\x7d`"
  | expectedSomeIdent => "expected ident"
  | expectedSomeValue => "expected value"
  | invalidEscape => "invalid escape"
  | invalidNumber => "invalid number"
  | numberOutOfRange => "number out of range"
  | controlCharacterWhileParsingString =>
    "control character (\\u0000-\\u001F) found while parsing a string"
  | keyMustBeAString => "key must be a string"
  | loneLeadingSurrogateInHexEscape => "lone leading surrogate in hex escape"
  | trailingComma => "trailing comma"
  | trailingCharacters => "trailing characters"
  | unexpectedEndOfHexEscape => "unexpected end of hex escape"
  | recursionLimitExceeded => "recursion limit exceeded"

/-- Faults that mean the text ended too early. -/
def Fault.isEof : Fault → Bool
  | eofWhileParsingList | eofWhileParsingObject | eofWhileParsingString
  | eofWhileParsingValue => true
  | _ => false

/-- What went wrong. -/
inductive Reason where
  | grammar (f : Fault)
  | data (text : String)
  deriving DecidableEq, Repr

/-- The three classes of failure. -/
inductive Category where
  | grammar
  | data
  | eof
  deriving DecidableEq, Repr

/-- A failure and where it happened. -/
structure Error where
  reason : Reason
  line : Nat
  column : Nat
  deriving DecidableEq, Repr

namespace Error

/-- The class of a failure. -/
def category (e : Error) : Category :=
  match e.reason with
  | .grammar f => if f.isEof then .eof else .grammar
  | .data _ => .data

/-- The text of a failure with its place, as in `trailing comma at line 1 column 12`. -/
def message (e : Error) : String :=
  let what := match e.reason with
    | .grammar f => f.text
    | .data t => t
  what ++ " at line " ++ toString e.line ++ " column " ++ toString e.column

end Error

end Tftp.Json
