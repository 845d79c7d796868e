import Dialogue.Text.CodePoints

/-!
# Blank characters

White space, and the trimming of text at both ends.
-/

namespace Dialogue.Text

/-- The characters with property White_Space. -/
def blankRanges : CodePoints :=
  [(0x9, 0xd), (0x20, 0x20), (0x85, 0x85), (0xa0, 0xa0), (0x1680, 0x1680), (0x2000, 0x200a),
   (0x2028, 0x2029), (0x202f, 0x202f), (0x205f, 0x205f), (0x3000, 0x3000)]

/-- Whether a character is white space. -/
def isBlank (c : Char) : Bool := blankRanges.has c

/-- The characters without the blank ones at both ends. -/
def trimChars (cs : List Char) : List Char :=
  ((cs.dropWhile isBlank).reverse.dropWhile isBlank).reverse

/-- The text without the blank characters at both ends. -/
def trim (s : String) : String := String.ofList (trimChars s.toList)

/-- The value, unless it is blank throughout. A value that is kept keeps its blanks. -/
def nonBlank (s : Option String) : Option String := s.filter fun s => trim s ≠ ""

end Dialogue.Text
