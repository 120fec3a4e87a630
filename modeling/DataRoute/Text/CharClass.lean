/-! # Character classes

A class of characters is a list of inclusive ranges of code points. The tables of
`Text/Blank.lean` and `Text/Invisible.lean` are of this form; `CharClass.contains` reads them. -/

namespace DataRoute.Text

/-- Inclusive ranges of code points. -/
abbrev CharClass := List (Nat × Nat)

/-- Whether a range of the class holds the character. -/
def CharClass.contains (ranges : CharClass) (c : Char) : Bool :=
  ranges.any fun (low, high) => low ≤ c.toNat && c.toNat ≤ high

end DataRoute.Text
