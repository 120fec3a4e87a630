import DataRoute.Json.Value

/-! # Numbers in JSON texts

A numeral is an integer as long as it has neither point nor exponent, fits in 64 bits, and is
not a zero with a minus sign. Every other numeral is a binary number. Its value is computed in
binary arithmetic and not by exact rounding: the digits form a significand below `2 ^ 64`, digits
that would lead beyond are dropped, and the significand is multiplied or divided once by a power
of ten. A result beyond the finite numbers is refused. -/

namespace DataRoute.Json

/-- Appends digits to a significand as long as it stays below `2 ^ 64`; gives the significand
and the number of digits left over. -/
def absorbDigits (significand : Nat) : List Char → Nat × Nat
  | [] => (significand, 0)
  | c :: rest =>
    let next := Decimal.appendDigits significand [c]
    if next < Decimal.countLimit then absorbDigits next rest
    else (significand, rest.length + 1)

/-- `significand * 10 ^ exponent` in binary arithmetic; `none` beyond the finite numbers. -/
def scaled (significand : Nat) (exponent : Int) : Option Float :=
  let x := Decimal.nearest significand 0
  if significand = 0 then some 0.0
  else if 308 < exponent then none
  else if 0 ≤ exponent then
    let y := x * Decimal.nearest 1 exponent
    if y.isFinite then some y else none
  else if -308 ≤ exponent then some (x / Decimal.nearest 1 (-exponent))
  else if -616 ≤ exponent then
    some (x / Decimal.nearest 1 308 / Decimal.nearest 1 (-exponent - 308))
  else some 0.0

/-- The parts of a numeral without its sign; the digits of the whole part are never empty. -/
structure NumeralParts where
  whole : List Char
  fraction : Option (List Char)
  exponent : Option Int

/-- Splits a numeral: no leading zero before another digit, at least one digit after a point, at
least one in an exponent. -/
def NumeralParts.read (cs : List Char) : Option NumeralParts :=
  let whole := cs.takeWhile Char.isDigit
  let afterWhole := cs.dropWhile Char.isDigit
  let (fraction, tail) := match afterWhole with
    | '.' :: rest => (some (rest.takeWhile Char.isDigit), rest.dropWhile Char.isDigit)
    | rest => (none, rest)
  if whole.isEmpty || (whole.head? = some '0' && 1 < whole.length) || fraction = some [] then none
  else match tail with
    | [] => some ⟨whole, fraction, none⟩
    | c :: rest =>
      if c = 'e' ∨ c = 'E' then
        (Decimal.readExponent rest).map fun e => ⟨whole, fraction, some e⟩
      else none

/-- A numeral that is a binary number, without its sign. -/
def NumeralParts.magnitude (p : NumeralParts) : Option Float :=
  let (wholeDigits, dropped) := absorbDigits 0 p.whole
  let fraction := p.fraction.getD []
  let (digits, leftOver) := absorbDigits wholeDigits fraction
  let taken := fraction.length - leftOver
  scaled digits (p.exponent.getD 0 + dropped - taken)

/-- A numeral with or without a minus sign. -/
def readNumber (cs : List Char) : Option Json := do
  let (negative, rest) := match cs with
    | '-' :: rest => (true, rest)
    | rest => (false, rest)
  let p ← NumeralParts.read rest
  let n := Decimal.digitsValue p.whole
  let plain := p.fraction.isNone && p.exponent.isNone
  if plain && !negative && n < Decimal.countLimit then some (int n)
  else if plain && negative && 0 < n && n ≤ Nat.pow 2 63 then some (int (-n))
  else
    let x ← p.magnitude
    some (float (if negative then -x else x))

end DataRoute.Json
