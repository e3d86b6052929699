import Tftp.Text.Visible

/-!
# Escaped string literals

A string written as a double-quoted literal in which every character that would not show as
itself is escaped: `\0`, `\t`, `\r`, `\n`, `\\` and `\"` by a backslash, and characters that do not
print, or that combine with the character before them, as `\u{hex}` with lowercase digits.

Which characters print and which combine is read off the tables of `Tftp.Text.Visible`.
-/

namespace Tftp.Text

/-- Lowercase hexadecimal digits of a number, without leading zeros. -/
def hexDigits (n : Nat) : String :=
  String.ofList (Nat.toDigits 16 n)

/-- The escaped form of one character. -/
def escapeChar (c : Char) : String :=
  match c with
  | '\x00' => "\\0"
  | '\t' => "\\t"
  | '\r' => "\\r"
  | '\n' => "\\n"
  | '\\' => "\\\\"
  | '"' => "\\\""
  | c =>
    if isCombining c || !isPrintable c then
      "\\u\x7b" ++ hexDigits c.toNat ++ "\x7d"
    else c.toString

/-- A string as a double-quoted literal. -/
def quoted (s : String) : String := "\"" ++ String.join (s.toList.map escapeChar) ++ "\""

end Tftp.Text
