import DataRoute.Text.CharClass

/-! # Blank characters

The Unicode property `White_Space`, and texts without the blanks around them. `trim` is applied
to every number that is written as text; `isBlankText` is the test for a name that says nothing. -/

namespace DataRoute.Text

/-- The property `White_Space`. -/
def blank : CharClass := [
  (0x9, 0xD), (0x20, 0x20), (0x85, 0x85), (0xA0, 0xA0), (0x1680, 0x1680), (0x2000, 0x200A),
  (0x2028, 0x2029), (0x202F, 0x202F), (0x205F, 0x205F), (0x3000, 0x3000)]

/-- Whether a character is blank. -/
def isBlank (c : Char) : Bool := blank.contains c

/-- The characters between the first and the last that is not blank. -/
def trimChars (cs : List Char) : List Char :=
  ((cs.dropWhile isBlank).reverse.dropWhile isBlank).reverse

/-- A text without the blanks around it. -/
def trim (text : String) : String := String.ofList (trimChars text.toList)

/-- Whether a text holds blanks only. -/
def isBlankText (text : String) : Bool := text.toList.all isBlank

end DataRoute.Text
