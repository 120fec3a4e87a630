import DataRoute.Proofs.FloatOrder
import DataRoute.Decimal.Reading

/-! # The range of floats

A float is finite as long as its exponent does not exceed that of the largest number.  Rounding
leaves an exponent that the size of its argument bounds (`exponentLE_roundWithAccuracy`), and
packing keeps that bound (`exponentLE_unpack_pack`), so the nearest float to an integer of 64 bits
is finite (`isFinite_nearest`). -/

namespace DataRoute

open Float.Model Float.Model.UnpackedFloat

/-- A finite unpacked float whose exponent has a bound. -/
def ExponentLE (c : Int) : UnpackedFloat → Prop
  | .zero _ => True
  | .finite _ _ e _ => e ≤ c
  | _ => False

theorem isFinite_of_exponentLE {x : Float} {c : Int} (h : ExponentLE c (unpacked x)) :
    x.isFinite := by
  change (unpacked x).isFinite = true
  generalize unpacked x = u at h
  cases u with
  | zero s => rfl
  | finite s m e hm => rfl
  | _ => exact h.elim

theorem ExponentLE.mono {u : UnpackedFloat} {c d : Int} (h : ExponentLE c u) (hcd : c ≤ d) :
    ExponentLE d u := by
  cases u with
  | finite s m e hm => exact le_trans h hcd
  | _ => exact h

theorem roundToNearestEven_le (m : Nat) (accuracy : Accuracy) :
    accuracy.roundToNearestEven m ≤ m + 1 := by
  obtain _ | (_ | _ | _) := accuracy <;> simp only [Accuracy.roundToNearestEven] <;> omega

/-- A bound on the mantissa bounds the place of its leading bit. -/
theorem totalExponent_le {m : Nat} {k : Nat} (hm : 0 < m) (h : m < 2 ^ k) (e : Int) :
    totalExponent m e ≤ k + e := by
  have := (Nat.log2_lt hm.ne').mpr h
  unfold totalExponent
  omega

theorem totalExponent_shiftLeft_le {m k : Nat} (hm : 0 < m) (h : m < 2 ^ k) (shift : Nat)
    (e : Int) : totalExponent (m <<< shift) e ≤ (k + shift : Nat) + e := by
  refine totalExponent_le ?_ ?_ e
  · rw [Nat.shiftLeft_eq]
    exact Nat.mul_pos hm (Nat.two_pow_pos _)
  · rw [Nat.shiftLeft_eq, Nat.pow_add]
    exact Nat.mul_lt_mul_of_pos_right h (Nat.two_pow_pos _)

theorem div_two_pow_lt (m : Nat) (e : Int) :
    m / 2 ^ (Format.binary64.targetExponent (totalExponent m e) - e).toNat < 2 ^ 53 := by
  rw [Nat.div_lt_iff_lt_mul (Nat.two_pow_pos _), ← Nat.pow_add]
  refine Nat.lt_log2_self.trans_le (Nat.pow_le_pow_right (by decide) ?_)
  rw [targetExponent_eq]
  unfold totalExponent
  omega

/-- At its target exponent, a mantissa is rounded to one of 53 bits, or carries into the next. -/
theorem roundedMantissa_le_two_pow (m : Nat) (e : Int) (accuracy : Accuracy) :
    (ExtendedMantissa.ofMantissaAndAccuracy m accuracy >>>
      (Format.binary64.targetExponent (totalExponent m e) - e).toNat).roundedMantissa ≤
        2 ^ 53 := by
  have hlt := div_two_pow_lt m e
  refine (roundToNearestEven_le _ _).trans ?_
  rw [mantissa_shiftRight, mantissa_ofMantissaAndAccuracy]
  omega

/-- The exponent of a rounded number has a bound that the target exponent has, and also the one
after rounding. -/
theorem exponentLE_roundWithAccuracy_of_rounded {m k : Nat} {e c : Int} {accuracy : Accuracy}
    (hk : (Format.binary64.targetExponent (totalExponent m e) - e).toNat = k) (hek : e + k ≤ c)
    (hc : -1074 ≤ c)
    (hrounded : ∀ r, (ExtendedMantissa.ofMantissaAndAccuracy m accuracy >>> k).roundedMantissa =
      r → 0 < r → totalExponent r (e + k) ≤ c + 53) (s : Sign) :
    ExponentLE c (roundWithAccuracy .binary64 s m e accuracy) := by
  unfold roundWithAccuracy shiftToTargetExponent shiftToExponent
  dsimp only
  rw [hk]
  generalize hr : (ExtendedMantissa.ofMantissaAndAccuracy m accuracy >>> k).roundedMantissa = r
  split
  next => trivial
  next hpos =>
    show e + k + (Format.binary64.targetExponent (totalExponent r (e + k)) - (e + k)).toNat ≤ c
    have htotal : totalExponent r (e + k) ≤ c + 53 := by
      refine hrounded r hr (Nat.pos_of_ne_zero fun hzero => hpos ?_)
      subst hzero
      rw [mantissa_shiftRight, mantissa_ofMantissaAndAccuracy, Nat.zero_div]
    rw [targetExponent_eq]
    omega

/-- Rounding raises the exponent to its target, and by one more if it carries. -/
theorem exponentLE_roundWithAccuracy {m : Nat} {e c : Int} (he : e ≤ c) (hc : -1074 ≤ c)
    (htotal : totalExponent m e ≤ c + 53) (s : Sign) (accuracy : Accuracy) :
    ExponentLE (c + 1) (roundWithAccuracy .binary64 s m e accuracy) := by
  have hrounded := roundedMantissa_le_two_pow m e accuracy
  generalize hk : (Format.binary64.targetExponent (totalExponent m e) - e).toNat = k at hrounded
  rw [targetExponent_eq] at hk
  refine exponentLE_roundWithAccuracy_of_rounded hk (by omega) (by omega) ?_ s
  rintro r rfl hpos
  -- a carry makes the mantissa a power of two, of one bit more
  have hcarried := totalExponent_le hpos (hrounded.trans_lt (by decide : 2 ^ 53 < 2 ^ 54)) (e + k)
  omega

section packing
variable {s : Sign} {m : Nat} {e c : Int} {hm : 0 < m} {b : BitVec Format.binary64.numBits}

theorem pack_of_lt (h : 971 < e) :
    UnpackedFloat.pack .binary64 (.finite s m e hm) = packedInfinity .binary64 s := by
  have hbias : (Format.binary64.exponentBias : Int) = 1023 := rfl
  have hlarge : 2 ^ Format.binary64.exponentBits ≤ (e + 1023 + (52 : Nat)).toNat + 1 := by
    change 2048 ≤ _
    omega
  unfold UnpackedFloat.pack
  dsimp only
  rw [hbias, if_pos hlarge]

/-- The exponent field of a packed number counts if its mantissa is full, and is zero otherwise. -/
theorem toNat_unpackExponent_pack (h : e ≤ 971) :
    (unpackExponent (UnpackedFloat.pack .binary64 (.finite s m e hm))).toNat =
      if m.log2 = 52 then (e + 1075).toNat else 0 := by
  have hbias : (Format.binary64.exponentBias : Int) = 1023 := rfl
  have hsmall : ¬ 2 ^ Format.binary64.exponentBits ≤ (e + 1023 + (52 : Nat)).toNat + 1 := by
    change ¬ 2048 ≤ _
    omega
  have hfull : m.log2 + 1 = Format.binary64.mantissaBits ↔ m.log2 = 52 := Nat.add_right_cancel_iff
  unfold UnpackedFloat.pack
  dsimp only
  rw [hbias, if_neg hsmall]
  split
  next hlog =>
    have hlt : (e + 1023 + (52 : Nat)).toNat < 2 ^ 11 := by omega
    rw [unpackExponent_packComponents, if_pos (hfull.mp hlog), BitVec.toNat_ofNat,
      Nat.mod_eq_of_lt hlt]
    omega
  next hlog =>
    rw [unpackExponent_packComponents, if_neg (mt hfull.mpr hlog)]
    rfl

theorem unpackExponent_ne_of_lt (h : (unpackExponent b).toNat < 2047) :
    unpackExponent b ≠ -1#_ := by
  intro hones
  rw [hones] at h
  exact absurd h (by decide)

theorem exponentLE_unpack (hc : -1074 ≤ c) (hmax : c ≤ 971)
    (h : (unpackExponent b).toNat ≤ (c + 1075).toNat) :
    ExponentLE c (UnpackedFloat.unpack .binary64 b) := by
  have hones : unpackExponent b ≠ -1#_ := unpackExponent_ne_of_lt (by omega)
  have hfields := hasFields_unpack b
  generalize UnpackedFloat.unpack .binary64 b = w at *
  cases w with
  | notANumber => exact hones hfields.1
  | infinity s => exact hones hfields.2.1
  | zero s => trivial
  | finite s m e hm =>
    obtain ⟨-, -, hform⟩ := hfields
    change e ≤ c
    omega

/-- Packing keeps a bound on the exponent, up to that of the largest number. -/
theorem exponentLE_unpack_pack {u : UnpackedFloat} (h : ExponentLE c u)
    (hc : -1074 ≤ c) (hmax : c ≤ 971) :
    ExponentLE c (UnpackedFloat.unpack .binary64 (UnpackedFloat.pack .binary64 u)) := by
  refine exponentLE_unpack hc hmax ?_
  cases u with
  | zero s =>
    unfold UnpackedFloat.pack packedZero
    rw [unpackExponent_packComponents]
    exact Nat.zero_le _
  | finite s m e hm =>
    change e ≤ c at h
    rw [toNat_unpackExponent_pack (by omega)]
    split <;> omega
  | _ => exact h.elim

end packing

theorem exponentLE_mul {u v : UnpackedFloat} {c d : Int} (hu : ExponentLE c u)
    (hv : ExponentLE d v) (hru : InRange u) (hrv : InRange v) (hcd : -1127 ≤ c + d) :
    ExponentLE (c + d + 54) (u.mul .binary64 v) := by
  cases u <;> cases v
  case finite.finite s₁ m₁ e₁ hm₁ s₂ m₂ e₂ hm₂ =>
    have he : e₁ + e₂ ≤ c + d := add_le_add hu hv
    have hm : m₁ * m₂ < 2 ^ (53 + 53) := by
      rw [Nat.pow_add]
      exact Nat.mul_lt_mul'' hru.1 hrv.1
    have htotal := totalExponent_le (Nat.mul_pos hm₁ hm₂) hm (e₁ + e₂)
    push_cast at htotal
    have hround : ExponentLE (c + d + 53 + 1) (roundWithAccuracy .binary64 (s₁ * s₂) (m₁ * m₂)
        (e₁ + e₂) .exact) :=
      exponentLE_roundWithAccuracy (by omega) (by omega) (by omega) _ _
    exact hround.mono (by omega)
  all_goals trivial

theorem exponentLE_round {m k : Nat} {e c : Int} (hm : 0 < m) (h : m < 2 ^ k) (he : e ≤ c)
    (hc : -1074 ≤ c) (hk : k + e ≤ c + 53) (s : Sign) :
    ExponentLE (c + 1) (UnpackedFloat.round .binary64 s m e) := by
  unfold UnpackedFloat.round decreaseExponent
  dsimp only
  generalize (e - Format.binary64.targetExponent (totalExponent m e)).toNat = shift
  have htotal := totalExponent_shiftLeft_le hm h shift (e - shift)
  push_cast at htotal
  exact exponentLE_roundWithAccuracy (by omega) hc (by omega) _ _

theorem exponentLE_normalize {n : Int} {k : Nat} {e c : Int} (h : n.natAbs < 2 ^ k) (he : e ≤ c)
    (hc : -1074 ≤ c) (hk : k + e ≤ c + 53) (s : Sign) :
    ExponentLE (c + 1) (UnpackedFloat.normalize .binary64 n e s) := by
  unfold UnpackedFloat.normalize
  split
  next hneg =>
    rw [Int.compare_eq_lt] at hneg
    exact exponentLE_round (by omega) (by omega) he hc hk _
  next => trivial
  next hpos =>
    rw [Int.compare_eq_gt] at hpos
    exact exponentLE_round (by omega) (by omega) he hc hk _

theorem exponentLE_toFloat (n : UInt64) : ExponentLE 12 (unpacked n.toFloat) := by
  have h : ExponentLE (11 + 1) (UnpackedFloat.normalize .binary64 n.toNat 0 .positive) :=
    exponentLE_normalize n.toNat_lt (by decide) (by decide) (by decide) _
  exact exponentLE_unpack_pack h (by decide) (by decide)

theorem exponentLE_neg {u : UnpackedFloat} {c : Int} (h : ExponentLE c u) :
    ExponentLE c u.neg := by
  cases u <;> exact h

theorem exponentLE_ofScientific {n : Nat} (hn : n < 2 ^ 64) :
    ExponentLE 66 (UnpackedFloat.ofScientific .binary64 n 0) := by
  have hbits : Format.binary64.mantissaBits = 53 := rfl
  unfold UnpackedFloat.ofScientific
  split
  next => trivial
  next hzero =>
    rw [if_neg (by decide), if_neg (by simp), if_pos le_rfl]
    simp only [hbits, UnpackedFloat.mul, Int.toNat_zero, Nat.pow_zero, Nat.mul_one,
      Int.add_zero, Nat.cast_ofNat]
    have htotal := totalExponent_shiftLeft_le (Nat.pos_of_ne_zero hzero) hn 53 (-53)
    push_cast at htotal
    refine (exponentLE_roundWithAccuracy ?_ ?_ ?_ _ _ : ExponentLE (65 + 1) _) <;> omega

theorem exponentLE_nearest {n : Nat} (hn : n < 2 ^ 64) :
    ExponentLE 66 (unpacked (Decimal.nearest n 0)) := by
  unfold Decimal.nearest
  split
  next =>
    have hzero : unpacked 0.0 = .zero .positive := rfl
    rw [hzero]
    trivial
  next =>
    have hdigits : Decimal.digitCount n ≤ 20 :=
      (Nat.length_toDigits_le_iff (by decide) (by decide)).2 (hn.trans (by decide))
    dsimp only
    rw [if_neg (by omega), if_neg (by omega), if_neg (by decide)]
    unfold Float.ofScientific
    split
    next =>
      -- the number itself is a float, and is multiplied by one
      have hone : ExponentLE (-52) (unpacked Float.exactlyRepresentablePowersOfTen[0]) :=
        le_refl (-52)
      rw [if_neg (by decide)]
      refine (exponentLE_unpack_pack ?_ (by decide) (by decide) : ExponentLE 66 _)
      exact (exponentLE_mul (exponentLE_toFloat _) hone (inRange_unpacked _) (inRange_unpacked _)
        (by decide)).mono (by decide)
    next => exact exponentLE_unpack_pack (exponentLE_ofScientific hn) (by decide) (by decide)

theorem isFinite_nearest {n : Nat} (hn : n < 2 ^ 64) : (Decimal.nearest n 0).isFinite :=
  isFinite_of_exponentLE (exponentLE_nearest hn)

theorem isFinite_neg_nearest {n : Nat} (hn : n < 2 ^ 64) : (-Decimal.nearest n 0).isFinite := by
  have h : ExponentLE 66 (unpacked (-Decimal.nearest n 0)) :=
    exponentLE_unpack_pack (exponentLE_neg (exponentLE_nearest hn)) (by decide) (by decide)
  exact isFinite_of_exponentLE h

end DataRoute
