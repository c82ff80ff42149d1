import Calendrics.Text.Glyph

/-!
# Quoted text

A text is quoted between double quotes so that a reader sees exactly what it holds: the quote and
the backslash are marked by a backslash, four control characters have a short escape, and every
other hidden character is written by its code point as `\u{…}` in lower-case hexadecimal. All
other characters, single quotes and letters of any script among them, stand as they are.
-/

namespace Calendrics.Text

/-- A number in lower-case hexadecimal, without leading zeros. -/
def hexadecimal (n : Nat) : List Char :=
  Nat.toDigits 16 n

/-- How one character is written inside quotes. -/
def escape (c : Char) : List Char :=
  if c = '\x00' then ['\\', '0']
  else if c = '\t' then ['\\', 't']
  else if c = '\n' then ['\\', 'n']
  else if c = '\r' then ['\\', 'r']
  else if c = '"' || c = '\\' then ['\\', c]
  else if isHidden c then ['\\', 'u', '\x7b'] ++ hexadecimal c.toNat ++ ['\x7d']
  else [c]

/-- The text between double quotes, every character escaped. -/
def quote (s : String) : String :=
  String.ofList ('"' :: s.toList.flatMap escape ++ ['"'])

end Calendrics.Text
