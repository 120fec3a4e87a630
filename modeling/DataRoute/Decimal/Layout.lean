import DataRoute.Decimal.Shortest

/-! # Layouts of decimal numbers

How the shortest digits of a binary number are written: in places with a point from `0.00001` up to
below `10 ^ 16`, and with a signed exponent outside. JSON texts and messages use the same form. -/

namespace DataRoute.Decimal

/-- Whether a number is written in places, by the exponent of its leading digit. -/
def isWrittenOut (leading : Int) : Bool := -5 ≤ leading && leading < 16

/-- A run of zeros. -/
def zeros (n : Nat) : List Char := List.replicate n '0'

/-- Digits in places, with a point and at least one digit on either side of it. -/
def inPlaces (digits : List Char) (exponent : Int) : List Char :=
  let point : Int := digits.length + exponent
  if 0 ≤ exponent then digits ++ zeros exponent.natAbs ++ ['.', '0']
  else if 0 < point then digits.take point.natAbs ++ '.' :: digits.drop point.natAbs
  else '0' :: '.' :: zeros point.natAbs ++ digits

/-- Digits with an exponent; a single digit has no point. -/
def withExponent (digits : List Char) (leading : Int) : List Char :=
  let sign := if leading < 0 then '-' else '+'
  let tail := 'e' :: sign :: Nat.toDigits 10 leading.natAbs
  match digits with
  | [] => tail
  | [d] => d :: tail
  | d :: rest => d :: '.' :: rest ++ tail

/-- A decimal number, in places or with an exponent. -/
def numeralChars (d : Numeral) : List Char :=
  let digits := Nat.toDigits 10 d.digits
  let leading : Int := digits.length + d.exponent - 1
  if isWrittenOut leading then inPlaces digits d.exponent else withExponent digits leading

/-- The text of a finite number; a negative zero keeps its sign. -/
def floatText (x : Float) : String :=
  let sign := if x.toBits.toNat / Nat.pow 2 63 = 1 then ['-'] else []
  let body := if x == 0.0 then ['0', '.', '0'] else numeralChars (shortest x)
  String.ofList (sign ++ body)

end DataRoute.Decimal
