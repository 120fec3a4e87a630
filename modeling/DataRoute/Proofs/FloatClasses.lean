import DataRoute.Proofs.FloatRange

/-! # Numbers, infinities and what is neither

A float is finite, infinite or no number.  Packing keeps these apart (`isNaN_unpack_pack`), so each
operation tells from its arguments when its result is no number: a sum if infinities of different
signs meet (`isNaN_add_iff`), a product if a zero meets an infinity (`isNaN_mul_iff`), and a
quotient if both its parts are infinite (`isNaN_div_iff`). -/

namespace DataRoute

open Float.Model Float.Model.UnpackedFloat

/-! ### Canonical form -/

/-- Whether an unpacked float is in the form in which floats of double precision are unpacked. -/
def IsCanonical : UnpackedFloat → Prop
  | .finite _ m e _ => m < 2 ^ 53 ∧ -1074 ≤ e ∧ e ≤ 971 ∧ (e = -1074 ∨ 2 ^ 52 ≤ m)
  | _ => True

theorem isCanonical_unpack (b : BitVec Format.binary64.numBits) :
    IsCanonical (UnpackedFloat.unpack .binary64 b) := by
  have hfields := hasFields_unpack b
  cases hu : UnpackedFloat.unpack .binary64 b with
  | finite s m e hm =>
      rw [hu] at hfields
      obtain ⟨-, hmantissa, hform⟩ := hfields
      have hones : unpackExponent b ≠ -1#_ := by
        intro hones
        unfold UnpackedFloat.unpack at hu
        dsimp only at hu
        rw [if_pos hones] at hu
        split at hu <;> exact nomatch hu
      have hlt : (unpackExponent b).toNat < 2048 := (unpackExponent b).isLt
      have hne : (unpackExponent b).toNat ≠ 2047 := fun h => hones (BitVec.eq_of_toNat_eq h)
      show m < 2 ^ 53 ∧ -1074 ≤ e ∧ e ≤ 971 ∧ (e = -1074 ∨ 2 ^ 52 ≤ m)
      omega
  | _ => trivial

/-! ### Packing -/

/-- Packing loses no number and makes none. -/
theorem isNaN_unpack_pack (u : UnpackedFloat) :
    (UnpackedFloat.unpack .binary64 (UnpackedFloat.pack .binary64 u)).isNaN = u.isNaN := by
  cases u with
  | notANumber => rfl
  | infinity s => cases s <;> rfl
  | zero s => cases s <;> rfl
  | finite s m e hm =>
      rcases lt_or_ge 971 e with hlarge | hsmall
      · rw [pack_of_lt hlarge]
        cases s <;> rfl
      · have hfields := hasFields_unpack (UnpackedFloat.pack .binary64 (.finite s m e hm))
        have hexponent :
            unpackExponent (UnpackedFloat.pack .binary64 (.finite s m e hm)) ≠ -1#_ := by
          refine unpackExponent_ne_of_lt ?_
          rw [toNat_unpackExponent_pack hsmall]
          split <;> omega
        cases hw : UnpackedFloat.unpack .binary64
            (UnpackedFloat.pack .binary64 (.finite s m e hm)) with
        | notANumber =>
            rw [hw] at hfields
            exact absurd hfields.1 hexponent
        | _ => rfl

/-! ### Numbers, infinities and the rest -/

section classes
variable {x y : Float}

theorem isNaN_iff : x.isNaN = true ↔ unpacked x = .notANumber := by
  show (unpacked x).isNaN = true ↔ _
  cases unpacked x <;> simp [UnpackedFloat.isNaN]

theorem isInf_iff : x.isInf = true ↔ ∃ s, unpacked x = .infinity s := by
  show (unpacked x).isInf = true ↔ _
  cases unpacked x <;> simp [UnpackedFloat.isInf]

theorem isFinite_iff : x.isFinite = true ↔ x.isNaN = false ∧ x.isInf = false := by
  show (unpacked x).isFinite = true ↔ (unpacked x).isNaN = false ∧ (unpacked x).isInf = false
  cases unpacked x <;> simp [UnpackedFloat.isFinite, UnpackedFloat.isNaN, UnpackedFloat.isInf]

theorem isInf_of_isNaN (h : x.isNaN = true) : x.isInf = false := by
  show (unpacked x).isInf = false
  rw [isNaN_iff.mp h]
  rfl

theorem isNaN_of_le (h : x ≤ y) : x.isNaN = false := by
  obtain ⟨hy, hle⟩ := le_iff_place.mp h
  rw [isNaN_eq_false_iff] at hy ⊢
  intro hx
  unfold place at hle
  rw [hx] at hle
  generalize unpacked y = v at hy hle
  rcases v with (_ | _) | _ | _ | ⟨_ | _, m, e, hm⟩
  case notANumber => exact hy rfl
  all_goals simp [placeOf, Prod.Lex.toLex_le_toLex] at hle

theorem beq_zero_iff : (x == 0.0) = true ↔ ∃ s, unpacked x = .zero s := by
  show (unpacked x).beq (unpacked 0.0) = true ↔ _
  have hzero : unpacked 0.0 = .zero .positive := rfl
  rw [hzero]
  rcases unpacked x with (_ | _) | _ | _ | ⟨_ | _, m, e, hm⟩ <;>
    simp [UnpackedFloat.beq, UnpackedFloat.compare]

/-- Whether two floats are infinities of different signs. -/
def Opposed (x y : Float) : Prop := x.isInf = true ∧ y.isInf = true ∧ x ≠ y

theorem opposed_iff : Opposed x y ↔
    ∃ s t, unpacked x = .infinity s ∧ unpacked y = .infinity t ∧ s ≠ t := by
  unfold Opposed
  rw [isInf_iff, isInf_iff]
  constructor
  · rintro ⟨⟨s, hs⟩, ⟨t, ht⟩, hne⟩
    refine ⟨s, t, hs, ht, ?_⟩
    rintro rfl
    exact hne (eq_of_unpacked_eq (hs.trans ht.symm))
  · rintro ⟨s, t, hs, ht, hne⟩
    refine ⟨⟨s, hs⟩, ⟨t, ht⟩, ?_⟩
    rintro rfl
    exact hne (UnpackedFloat.infinity.inj (hs.symm.trans ht))

end classes

/-! ### Operations -/

theorem isNaN_roundWithAccuracy (s : Sign) (m : Nat) (e : Int) (accuracy : Accuracy) :
    (roundWithAccuracy .binary64 s m e accuracy).isNaN = false := by
  unfold roundWithAccuracy
  dsimp only
  split <;> rfl

theorem isNaN_normalize (m : Int) (e : Int) (s : Sign) :
    (UnpackedFloat.normalize .binary64 m e s).isNaN = false := by
  unfold UnpackedFloat.normalize UnpackedFloat.round
  split
  · exact isNaN_roundWithAccuracy ..
  · rfl
  · exact isNaN_roundWithAccuracy ..

theorem isNaN_add (u v : UnpackedFloat) : (u.add .binary64 v).isNaN = true ↔
    u.isNaN = true ∨ v.isNaN = true ∨ ∃ s t, u = .infinity s ∧ v = .infinity t ∧ s ≠ t := by
  cases u <;> cases v
  case infinity.infinity s t =>
      cases s <;> cases t <;> simp [UnpackedFloat.add, UnpackedFloat.isNaN]
  case finite.finite =>
      refine iff_of_false ?_ (by simp [UnpackedFloat.isNaN])
      unfold UnpackedFloat.add
      rw [isNaN_normalize]
      exact Bool.false_ne_true
  case zero.zero s t => cases s <;> cases t <;> simp [UnpackedFloat.add, UnpackedFloat.isNaN]
  all_goals simp [UnpackedFloat.add, UnpackedFloat.isNaN]

section operations
variable {x y : Float}

/-- A sum is no number if a summand is none, or if opposed infinities meet. -/
theorem isNaN_add_iff :
    (x + y).isNaN = true ↔ x.isNaN = true ∨ y.isNaN = true ∨ Opposed x y := by
  rw [opposed_iff]
  show (UnpackedFloat.unpack .binary64 (UnpackedFloat.pack .binary64
    ((unpacked x).add .binary64 (unpacked y)))).isNaN = true ↔ _
  rw [isNaN_unpack_pack, isNaN_add]
  rfl

theorem isNaN_sub : (x - y).isNaN = ((unpacked x).sub .binary64 (unpacked y)).isNaN :=
  isNaN_unpack_pack _

theorem isNaN_sub_of_isNaN (hy : y.isNaN = true) : (x - y).isNaN = true := by
  rw [isNaN_sub, isNaN_iff.mp hy]
  cases unpacked x <;> rfl

theorem isNaN_sub_of_isFinite (hx : x.isFinite = true) (hy : y.isFinite = true) :
    (x - y).isNaN = false := by
  rw [isNaN_sub]
  change (unpacked x).isFinite = true at hx
  change (unpacked y).isFinite = true at hy
  generalize unpacked x = u at hx
  generalize unpacked y = v at hy
  cases u <;> cases v
  case finite.finite =>
      unfold UnpackedFloat.sub
      exact isNaN_normalize ..
  case zero.zero s t => cases s <;> cases t <;> rfl
  all_goals first | rfl | exact absurd hx Bool.false_ne_true | exact absurd hy Bool.false_ne_true

/-- A product with a finite weight is no number if the other factor is none, or if it is infinite
and the weight zero. -/
theorem isNaN_mul_iff (hx : x.isFinite = true) : (x * y).isNaN = true ↔
    y.isNaN = true ∨ y.isInf = true ∧ (x == 0.0) = true := by
  rw [beq_zero_iff]
  show (UnpackedFloat.unpack .binary64 (UnpackedFloat.pack .binary64
    ((unpacked x).mul .binary64 (unpacked y)))).isNaN = true ↔
      (unpacked y).isNaN = true ∨ (unpacked y).isInf = true ∧ _
  rw [isNaN_unpack_pack]
  change (unpacked x).isFinite = true at hx
  generalize unpacked x = u at *
  generalize unpacked y = v
  cases u <;> cases v
  case finite.finite =>
      unfold UnpackedFloat.mul
      rw [isNaN_roundWithAccuracy]
      simp [UnpackedFloat.isNaN, UnpackedFloat.isInf]
  all_goals simp_all [UnpackedFloat.mul, UnpackedFloat.isNaN, UnpackedFloat.isInf,
    UnpackedFloat.isFinite]

/-- A quotient of numbers whose divisor is not zero is no number if both are infinite. -/
theorem isNaN_div_iff (hx : x.isNaN = false) (hy : y.isNaN = false) (hzero : (y == 0.0) = false) :
    (x / y).isNaN = true ↔ x.isInf = true ∧ y.isInf = true := by
  have hne : ¬ ∃ s, unpacked y = .zero s := by
    rw [← beq_zero_iff, hzero]
    exact Bool.false_ne_true
  show (UnpackedFloat.unpack .binary64 (UnpackedFloat.pack .binary64
    ((unpacked x).div .binary64 (unpacked y)))).isNaN = true ↔
      (unpacked x).isInf = true ∧ (unpacked y).isInf = true
  rw [isNaN_unpack_pack]
  change (unpacked x).isNaN = false at hx
  change (unpacked y).isNaN = false at hy
  generalize unpacked x = u at *
  generalize unpacked y = v at *
  cases u <;> cases v
  case finite.finite =>
      unfold UnpackedFloat.div
      dsimp only
      rw [isNaN_roundWithAccuracy]
      simp [UnpackedFloat.isInf]
  all_goals simp_all [UnpackedFloat.div, UnpackedFloat.isNaN, UnpackedFloat.isInf]

end operations

end DataRoute
