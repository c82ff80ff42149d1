import Calendrics.Text.CodePoints

/-!
# Blanks around a text

Names are read leniently: white space around them is dropped and ASCII capitals count as small
letters. White space is the Unicode property `White_Space`, which holds more than the ASCII
blanks (the no-break space, the ideographic space, the line separator) and less than one may
expect (neither the zero-width space nor the byte order mark).
-/

namespace Calendrics.Text

/-- The code points of the Unicode property `White_Space`, as inclusive ranges. -/
def blankRanges : List (Nat × Nat) :=
  [(0x9, 0xD), (0x20, 0x20), (0x85, 0x85), (0xA0, 0xA0), (0x1680, 0x1680), (0x2000, 0x200A),
    (0x2028, 0x2029), (0x202F, 0x202F), (0x205F, 0x205F), (0x3000, 0x3000)]

/-- Whether a character is white space. -/
def isBlank (c : Char) : Bool :=
  inRanges blankRanges c.toNat

/-- The characters between the blanks at the two ends. -/
def trimChars (cs : List Char) : List Char :=
  ((cs.dropWhile isBlank).reverse.dropWhile isBlank).reverse

/-- The text without the blanks at its two ends. -/
def trim (s : String) : String :=
  String.ofList (trimChars s.toList)

/-- The text with ASCII capitals made small; every other character stays. -/
def foldCase (s : String) : String :=
  String.ofList (s.toList.map Char.toLower)

/-- The text with every underscore made a hyphen. -/
def hyphenate (s : String) : String :=
  String.ofList (s.toList.map fun c => if c = '_' then '-' else c)

end Calendrics.Text
