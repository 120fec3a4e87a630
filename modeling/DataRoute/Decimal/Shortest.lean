import DataRoute.Decimal.Reading

/-! # The fewest digits that read back

A finite binary number is `mantissa * 2 ^ exponent`; the reals that round to it form an interval
around it. `shortest` gives the decimal number with the fewest digits in that interval and, of
those, the nearest to the number itself. All arithmetic is exact, on natural numbers: a decimal
is compared with an end of the interval by cross-multiplying. -/

namespace DataRoute.Decimal

/-- A decimal number `digits * 10 ^ exponent`. -/
structure Numeral where
  digits : Nat
  exponent : Int
deriving DecidableEq, Repr

/-- The magnitude of a finite binary number, `mantissa * 2 ^ exponent`; `stepBelow` says that
the next number below is only half as far away as the next above. -/
structure Binary where
  mantissa : Nat
  exponent : Int
  stepBelow : Bool
deriving DecidableEq, Repr

/-- The parts of a finite binary number. -/
def Binary.ofFloat (x : Float) : Binary :=
  let bits : Nat := x.toBits.toNat
  let fraction : Nat := bits % Nat.pow 2 52
  let scale : Nat := bits / Nat.pow 2 52 % Nat.pow 2 11
  if scale = 0 then ⟨fraction, -1074, false⟩
  else ⟨Nat.pow 2 52 + fraction, (scale : Int) - 1075, fraction = 0 ∧ 1 < scale⟩

/-- A positive fraction. -/
structure Ratio where
  num : Nat
  den : Nat
deriving DecidableEq, Repr

/-- `n * 2 ^ e`. -/
def Ratio.binary (n : Nat) (e : Int) : Ratio :=
  if 0 ≤ e then ⟨n * Nat.pow 2 e.natAbs, 1⟩ else ⟨n, Nat.pow 2 e.natAbs⟩

/-- `n * 10 ^ e`. -/
def Ratio.decimal (n : Nat) (e : Int) : Ratio :=
  if 0 ≤ e then ⟨n * Nat.pow 10 e.natAbs, 1⟩ else ⟨n, Nat.pow 10 e.natAbs⟩

/-- Whether one fraction is below another. -/
def Ratio.below (a b : Ratio) : Bool := a.num * b.den < b.num * a.den

/-- The number itself. -/
def Binary.value (b : Binary) : Ratio := Ratio.binary (4 * b.mantissa) (b.exponent - 2)

/-- Halfway to the next number below. -/
def Binary.low (b : Binary) : Ratio :=
  Ratio.binary (4 * b.mantissa - (if b.stepBelow then 1 else 2)) (b.exponent - 2)

/-- Halfway to the next number above. -/
def Binary.high (b : Binary) : Ratio := Ratio.binary (4 * b.mantissa + 2) (b.exponent - 2)

/-- Whether a decimal rounds to the number: the ends of the interval go to an even mantissa. -/
def Binary.readsBack (b : Binary) (d : Ratio) : Bool :=
  if b.mantissa % 2 = 0 then !d.below b.low && !b.high.below d
  else b.low.below d && d.below b.high

/-- The exponent of the leading decimal digit of a positive fraction. -/
def Ratio.leading (r : Ratio) : Int :=
  let e : Int := (digitCount r.num : Int) - digitCount r.den
  if r.below (Ratio.decimal 1 e) then e - 1 else e

/-- How often `10 ^ e` goes into a fraction. -/
def Ratio.floorAt (r : Ratio) (e : Int) : Nat :=
  let unit := Ratio.decimal 1 e
  r.num * unit.den / (r.den * unit.num)

/-- Whether `m * 10 ^ e` is at least as near to the fraction as `(m + 1) * 10 ^ e`; of two that
are equally near the even one is taken. -/
def Ratio.lowerIsNearer (r : Ratio) (m : Nat) (e : Int) : Bool :=
  let middle := Ratio.decimal (10 * (2 * m + 1)) (e - 1)
  let doubled : Ratio := ⟨2 * r.num, r.den⟩
  doubled.below middle || (!middle.below doubled && m % 2 = 0)

/-- The decimal on the grid of multiples of `10 ^ e` that reads back, the nearer one if both
neighbours of the number do. -/
def Binary.onGrid (b : Binary) (e : Int) : Option Numeral :=
  let m := b.value.floorAt e
  let lower := b.readsBack (Ratio.decimal m e)
  let upper := b.readsBack (Ratio.decimal (m + 1) e)
  if lower && (!upper || b.value.lowerIsNearer m e) then some ⟨m, e⟩
  else if upper then some ⟨m + 1, e⟩
  else none

/-- Moves trailing zeros into the exponent. -/
def Numeral.strip : Nat → Numeral → Numeral
  | 0, d => d
  | n + 1, d => if d.digits % 10 = 0 then strip n ⟨d.digits / 10, d.exponent + 1⟩ else d

/-- The shortest decimal that reads back as a finite number other than zero; the sign is left
out. Seventeen digits always suffice. -/
def shortest (x : Float) : Numeral :=
  let b := Binary.ofFloat x
  let top := b.value.leading
  match (List.range 17).findSome? fun (n : Nat) => b.onGrid (top - n) with
  | some d => d.strip 17
  | none => ⟨0, 0⟩

end DataRoute.Decimal
