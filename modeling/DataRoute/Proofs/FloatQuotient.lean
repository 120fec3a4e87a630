import DataRoute.Proofs.FloatOverflow

/-! # Quotients by powers of ten

Dividing by a float of at least one raises no exponent by much (`exponentLE_div`).  The powers of
ten that a float can hold are such floats (`exponentGE_nearest`): rounding a mantissa of more than
53 bits fills all 53 bits of its result (`exists_roundWithAccuracy_full`), and packing keeps the
exponent of a full mantissa. -/

namespace DataRoute

open Float.Model Float.Model.UnpackedFloat

/-- A finite unpacked float whose exponent is not below a bound. -/
def ExponentGE (c : Int) : UnpackedFloat → Prop
  | .finite _ _ e _ => c ≤ e
  | _ => False

instance (c : Int) : DecidablePred (ExponentGE c)
  | .finite _ _ e _ => inferInstanceAs (Decidable (c ≤ e))
  | .zero _ => inferInstanceAs (Decidable False)
  | .infinity _ => inferInstanceAs (Decidable False)
  | .notANumber => inferInstanceAs (Decidable False)

/-- A quotient has no more than the difference of the exponents, and one more if rounding
carries. -/
theorem exponentLE_div {u v : UnpackedFloat} {c d : Int} (hu : ExponentLE c u)
    (hv : ExponentGE d v) (hrange : InRange u) (hcd : -1074 ≤ c - d) :
    ExponentLE (c - d + 1) (u.div .binary64 v) := by
  cases u <;> cases v
  case finite.finite s₁ m₁ e₁ hm₁ s₂ m₂ e₂ hm₂ =>
    change e₁ ≤ c at hu
    change d ≤ e₂ at hv
    unfold UnpackedFloat.div divCore
    dsimp only
    generalize ht : min (e₁ - e₂) (Format.binary64.targetExponent
      (totalExponent m₁ e₁ - totalExponent m₂ e₂)) = t
    have hle : t ≤ e₁ - e₂ := ht ▸ min_le_left _ _
    obtain ⟨k, hk⟩ : ∃ k : Nat, (k : Int) = e₁ - e₂ - t := ⟨(e₁ - e₂ - t).toNat, by omega⟩
    rw [← hk, Int.toNat_natCast]
    have hquotient : m₁ <<< k / m₂ < 2 ^ (53 + k) := by
      refine (Nat.div_le_self _ _).trans_lt ?_
      rw [Nat.shiftLeft_eq, Nat.pow_add]
      exact Nat.mul_lt_mul_of_pos_right hrange.1 (Nat.two_pow_pos k)
    have htotal : totalExponent (m₁ <<< k / m₂) t ≤ (53 + k : Nat) + t := by
      obtain hzero | hpos := (m₁ <<< k / m₂).eq_zero_or_pos
      · rw [hzero]
        show ((0 : Nat).log2 : Int) + 1 + t ≤ _
        rw [Nat.log2_zero]
        omega
      · exact totalExponent_le hpos hquotient t
    exact exponentLE_roundWithAccuracy (by omega) hcd (by omega) _ _
  all_goals trivial

/-! ### Full mantissas -/

/-- A mantissa of 53 bits or more is shifted to one of 53 bits. -/
theorem div_two_pow_full {m : Nat} (hm : 2 ^ 52 ≤ m) {e : Int} (he : -1074 ≤ e) :
    2 ^ 52 ≤ m / 2 ^ (Format.binary64.targetExponent (totalExponent m e) - e).toNat := by
  have hpos : 0 < m := Nat.lt_of_lt_of_le (Nat.two_pow_pos 52) hm
  have hlog : 52 ≤ m.log2 := (Nat.le_log2 hpos.ne').mpr hm
  have hshift : (Format.binary64.targetExponent (totalExponent m e) - e).toNat =
      m.log2 - 52 := by
    rw [targetExponent_eq]
    unfold totalExponent
    omega
  rw [hshift, Nat.le_div_iff_mul_le (Nat.two_pow_pos _), ← Nat.pow_add,
    show 52 + (m.log2 - 52) = m.log2 by omega]
  exact Nat.log2_self_le hpos.ne'

/-- Rounding fills all bits of the mantissa, and raises the exponent of one that has more. -/
theorem exists_roundWithAccuracy_full {m : Nat} (hm : 2 ^ 53 ≤ m) {e : Int} (he : -1074 ≤ e)
    (s : Sign) (accuracy : Accuracy) : ∃ n f hn, roundWithAccuracy .binary64 s m e accuracy =
      .finite s n f hn ∧ n.log2 = 52 ∧ e < f := by
  have hlarge : 2 ^ 52 ≤ m := (Nat.pow_le_pow_right (by decide) (by decide)).trans hm
  have hfull := div_two_pow_full hlarge he
  have hk : 0 < (Format.binary64.targetExponent (totalExponent m e) - e).toNat := by
    have hlog : 53 ≤ m.log2 :=
      (Nat.le_log2 (Nat.lt_of_lt_of_le (Nat.two_pow_pos 52) hlarge).ne').mpr hm
    rw [targetExponent_eq]
    unfold totalExponent
    omega
  unfold roundWithAccuracy shiftToTargetExponent shiftToExponent
  dsimp only
  have hrounded : 2 ^ 52 ≤ (ExtendedMantissa.ofMantissaAndAccuracy m accuracy >>>
      (Format.binary64.targetExponent (totalExponent m e) - e).toNat).roundedMantissa := by
    refine hfull.trans (le_trans (le_of_eq ?_) (le_roundToNearestEven _ _))
    rw [mantissa_shiftRight, mantissa_ofMantissaAndAccuracy]
  generalize (ExtendedMantissa.ofMantissaAndAccuracy m accuracy >>>
      (Format.binary64.targetExponent (totalExponent m e) - e).toNat).roundedMantissa = r at *
  generalize (Format.binary64.targetExponent (totalExponent m e) - e).toNat = k at *
  -- the shift after rounding leaves a full mantissa full
  have hfinal := div_two_pow_full hrounded (show -1074 ≤ e + k by omega)
  have hlt := div_two_pow_lt r (e + k)
  simp only [mantissa_shiftRight, mantissa_ofMantissaAndAccuracy]
  have hpos := Nat.lt_of_lt_of_le (Nat.two_pow_pos 52) hfinal
  rw [dif_neg hpos.ne']
  exact ⟨_, _, hpos, rfl, (Nat.log2_eq_iff hpos.ne').mpr ⟨hfinal, hlt⟩, by omega⟩

theorem exponentGE_unpack {b : BitVec Format.binary64.numBits} {c : Int} (hc : -1074 ≤ c)
    (hfinite : (unpackExponent b).toNat < 2047) (h : c + 1075 ≤ (unpackExponent b).toNat) :
    ExponentGE c (UnpackedFloat.unpack .binary64 b) := by
  have hones : unpackExponent b ≠ -1#_ := unpackExponent_ne_of_lt hfinite
  have hfields := hasFields_unpack b
  generalize UnpackedFloat.unpack .binary64 b = w at *
  cases w with
  | notANumber => exact hones hfields.1
  | infinity t => exact hones hfields.2.1
  | zero t =>
    rw [hfields.2.1] at h
    change c + 1075 ≤ 0 at h
    omega
  | finite t n f hn =>
    obtain ⟨-, -, hform⟩ := hfields
    change c ≤ f
    omega

theorem exponentGE_unpack_pack {s : Sign} {m : Nat} {e c : Int} {hm : 0 < m}
    (hlog : m.log2 = 52) (hc : -1074 ≤ c) (he : c ≤ e) (hmax : e ≤ 971) :
    ExponentGE c (UnpackedFloat.unpack .binary64
      (UnpackedFloat.pack .binary64 (.finite s m e hm))) := by
  have hexponent : (unpackExponent (UnpackedFloat.pack .binary64 (.finite s m e hm))).toNat =
      (e + 1075).toNat := by
    rw [toNat_unpackExponent_pack hmax, if_pos hlog]
  exact exponentGE_unpack hc (by omega) (by omega)

/-! ### Powers of ten -/

/-- The first powers of ten are exact. -/
theorem exponentGE_exactPower (k : Fin 23) : ExponentGE (-52)
    (unpacked ((1 : Nat).toUInt64.toFloat * Float.exactlyRepresentablePowersOfTen[k.val])) := by
  revert k
  decide +kernel

theorem ofScientific_one_eq {k : Nat} (hk : k ≤ 308) : UnpackedFloat.ofScientific .binary64 1 k =
    roundWithAccuracy .binary64 .positive (2 ^ 53 * 10 ^ k) (-53) .exact := by
  have hsmall : ¬ (k : Int) > 2 ^ Format.binary64.exponentBits := by
    change ¬ (k : Int) > 2048
    omega
  unfold UnpackedFloat.ofScientific
  rw [dif_neg (by decide), if_neg hsmall, if_neg (by omega), if_pos (by omega)]
  rfl

/-- The powers of ten that a float can hold are rounded to floats of at least one. -/
theorem exponentGE_ofScientific {k : Nat} (hk : k ≤ 308) :
    ExponentGE (-52) (unpacked (Float.ofScientific 1 false k)) := by
  unfold Float.ofScientific
  split
  next hexact =>
    rw [if_neg Bool.false_ne_true]
    exact exponentGE_exactPower ⟨k, by omega⟩
  next =>
    have hpower : 0 < 10 ^ k := Nat.pow_pos (by decide)
    obtain ⟨n, f, hn, hfinite, hlog, hlow⟩ := exists_roundWithAccuracy_full
      (Nat.le_mul_of_pos_right (2 ^ 53) hpower) (by decide : -1074 ≤ (-53 : Int)) .positive .exact
    have hbound : 2 ^ 53 * 10 ^ k ≤ (2 ^ 53 - 1) * 2 ^ (971 - -53 : Int).toNat := by
      refine (Nat.mul_le_mul_left _ (Nat.pow_le_pow_right (by decide) hk)).trans ?_
      decide +kernel
    have hhigh := exponentLE_roundWithAccuracy_of_le (Nat.mul_pos (by decide) hpower) (by decide)
      (by decide) (by decide) hbound .positive
    show ExponentGE (-52) (UnpackedFloat.unpack .binary64 (UnpackedFloat.pack .binary64
      (UnpackedFloat.ofScientific .binary64 1 k)))
    rw [ofScientific_one_eq hk]
    rw [hfinite] at hhigh ⊢
    exact exponentGE_unpack_pack hlog (by decide) (by omega) hhigh

theorem exponentGE_nearest {e : Int} (hlow : 0 ≤ e) (hhigh : e ≤ 308) :
    ExponentGE (-52) (unpacked (Decimal.nearest 1 e)) := by
  obtain ⟨k, rfl⟩ : ∃ k : Nat, e = k := ⟨e.toNat, by omega⟩
  have hdigits : Decimal.digitCount 1 = 1 := by decide
  unfold Decimal.nearest
  dsimp only
  rw [if_neg (by decide), hdigits, if_neg (by omega), if_neg (by omega), if_neg (by omega)]
  exact exponentGE_ofScientific (by omega)

end DataRoute
