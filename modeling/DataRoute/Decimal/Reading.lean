import DataRoute.Text.Blank

/-! # Numbers written as text

Two readers. `readFloat` takes a decimal numeral with an optional sign, fraction and exponent, or
a name for an infinity or for no number, and gives the nearest binary number. `readCount` takes
decimal digits with an optional plus sign and gives a count below `2 ^ 64`. Neither skips blanks;
where blanks are allowed the caller trims the text first. -/

namespace DataRoute.Decimal

/-! ### Digits -/

/-- The number that a list of decimal digits appended to `start` stands for. -/
def appendDigits (start : Nat) (digits : List Char) : Nat :=
  digits.foldl (fun n c => 10 * n + (c.toNat - '0'.toNat)) start

/-- The number a list of decimal digits stands for. -/
def digitsValue (digits : List Char) : Nat := appendDigits 0 digits

/-- The number of decimal digits of `n`; `0` has one. -/
def digitCount (n : Nat) : Nat := (Nat.toDigits 10 n).length

/-- A sign, if there is one, and what follows it. -/
def splitSign : List Char → Bool × List Char
  | '-' :: rest => (true, rest)
  | '+' :: rest => (false, rest)
  | rest => (false, rest)

/-! ### Binary numbers -/

/-- Positive infinity. -/
def infinity : Float := Float.ofBits 0x7FF0000000000000

/-- The value that is no number. -/
def notANumber : Float := Float.ofBits 0x7FF8000000000000

/-- The binary number nearest to `digits * 10 ^ exponent`. Exponents far outside the range of
binary numbers are settled without building the power. -/
def nearest (digits : Nat) (exponent : Int) : Float :=
  if digits = 0 then 0.0
  else
    let magnitude := exponent + digitCount digits
    if 310 < magnitude then infinity
    else if magnitude < -400 then 0.0
    else if exponent < 0 then Float.ofScientific digits true exponent.natAbs
    else Float.ofScientific digits false exponent.natAbs

/-- Why a text is not a binary number. -/
inductive FloatFault where
  | empty
  | malformed
deriving DecidableEq, Repr

def FloatFault.message : FloatFault → String
  | .empty => "cannot parse float from empty string"
  | .malformed => "invalid float literal"

/-- An exponent after its letter: an optional sign and at least one digit. -/
def readExponent (cs : List Char) : Option Int :=
  let (negative, digits) := splitSign cs
  if digits.isEmpty || !digits.all Char.isDigit then none
  else if negative then some (-(digitsValue digits : Int))
  else some (digitsValue digits)

/-- An unsigned numeral: digits with a point among them or beside them, at least one digit in
all, and then an exponent or nothing. -/
def readNumeral (cs : List Char) : Option Float :=
  let whole := cs.takeWhile Char.isDigit
  let afterWhole := cs.dropWhile Char.isDigit
  let (fraction, tail) := match afterWhole with
    | '.' :: rest => (rest.takeWhile Char.isDigit, rest.dropWhile Char.isDigit)
    | rest => ([], rest)
  let digits := digitsValue (whole ++ fraction)
  if whole.isEmpty && fraction.isEmpty then none
  else match tail with
    | [] => some (nearest digits (-(fraction.length : Int)))
    | c :: rest =>
      if c = 'e' ∨ c = 'E' then
        (readExponent rest).map fun e => nearest digits (e - fraction.length)
      else none

/-- An unsigned number by name or numeral; names are read in any case of letters. -/
def readUnsigned (cs : List Char) : Option Float :=
  let name := cs.map Char.toLower
  if name = "inf".toList ∨ name = "infinity".toList then some infinity
  else if name = "nan".toList then some notANumber
  else readNumeral cs

/-- A binary number written as text. -/
def readFloat (text : String) : Except FloatFault Float :=
  if text.isEmpty then .error .empty
  else
    let (negative, rest) := splitSign text.toList
    match readUnsigned rest with
    | some x => .ok (if negative then -x else x)
    | none => .error .malformed

/-! ### Counts -/

/-- Why a text is not a count. -/
inductive CountFault where
  | empty
  | invalidDigit
  | tooLarge
deriving DecidableEq, Repr

def CountFault.message : CountFault → String
  | .empty => "cannot parse integer from empty string"
  | .invalidDigit => "invalid digit found in string"
  | .tooLarge => "number too large to fit in target type"

/-- The first number that is too large for a count. -/
def countLimit : Nat := Nat.pow 2 64

/-- A number that is small enough to count with. -/
abbrev Count := Fin countLimit

/-- The count of nothing. -/
def Count.zero : Count := ⟨0, Nat.two_pow_pos 64⟩

/-- Reads digits from the left and stops at the first that is no digit or leads too far. -/
def readDigits (n : Count) : List Char → Except CountFault Count
  | [] => .ok n
  | c :: rest =>
    if c.isDigit then
      let next := appendDigits n.val [c]
      if h : next < countLimit then readDigits ⟨next, h⟩ rest else .error .tooLarge
    else .error .invalidDigit

/-- A count written as text. -/
def readCount (text : String) : Except CountFault Count :=
  match text.toList with
  | [] => .error .empty
  | ['+'] => .error .invalidDigit
  | '+' :: digits => readDigits .zero digits
  | digits => readDigits .zero digits

end DataRoute.Decimal
