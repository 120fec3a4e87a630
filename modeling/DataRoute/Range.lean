import DataRoute.Json.Record

/-! # Numeric ranges

A range has a lower and an upper bound, either of which may be open. `Range.contains` is
membership and `Range.normalize` maps a value into the unit interval relative to a range that is
bounded on both sides. -/

namespace DataRoute

/-- A numeric interval; a bound that is not set is open. -/
structure Range where
  min : Option Float
  max : Option Float
deriving Repr

namespace Range

/-- Whether a value lies between the bounds. -/
def contains (r : Range) (value : Float) : Bool :=
  r.min.all (fun low => low ≤ value) && r.max.all (fun high => value ≤ high)

/-- Whether both bounds are set. -/
def isBounded (r : Range) : Bool := r.min.isSome && r.max.isSome

/-- The nearest value between zero and one; what is no number stays so. -/
def clampUnit (x : Float) : Float :=
  let y := if x < 0.0 then 0.0 else x
  if 1.0 < y then 1.0 else y

/-- The place of a value between the bounds, between zero and one. A range without extent maps
everything to zero, and an open range maps nothing. -/
def normalize (r : Range) (value : Float) : Option Float :=
  match r.min, r.max with
  | some low, some high =>
    if high ≤ low then some 0.0 else some (clampUnit ((value - low) / (high - low)))
  | _, _ => none

/-! ### JSON -/

def decode : Decoder Range := Json.asRecord ⟨"RangeType", 2⟩ fun fields =>
  Range.mk <$> fields.optional 0 "min" Json.asReal
    <*> fields.optional 1 "max" Json.asReal

def encode (r : Range) : Json :=
  .object (Json.optionalMember "min" (r.min.map .ofFloat)
    ++ Json.optionalMember "max" (r.max.map .ofFloat))

end Range

end DataRoute
