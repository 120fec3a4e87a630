import DataRoute.Proofs.FloatClasses

/-! # Operations that do not overflow

Rounding goes past no number of the format (`exponentLE_roundWithAccuracy_of_le`), so a factor
between zero and one takes no finite float to an infinity (`isFinite_mul_of_inUnit`), and a
difference of two floats of that kind is finite (`isFinite_sub_of_inUnit`).  Other differences may
overflow, but only equal floats have the difference zero (`sub_beq_zero_of_lt`). -/

namespace DataRoute

open Float.Model Float.Model.UnpackedFloat

/-! ### Factors of at most one -/

/-- Nothing is lost by shifting out zeros. -/
theorem shiftRight_mul_two_pow (m n : Nat) :
    (⟨m * 2 ^ n, false, false⟩ : ExtendedMantissa) >>> n = ⟨m, false, false⟩ := by
  induction n generalizing m with
  | zero =>
      rw [Nat.pow_zero, Nat.mul_one]
      rfl
  | succ n ih =>
      have hdouble : m * 2 ^ (n + 1) = m * 2 * 2 ^ n := by
        rw [Nat.pow_succ', Nat.mul_assoc]
      show ExtendedMantissa.shiftRightOne
        ((⟨m * 2 ^ (n + 1), false, false⟩ : ExtendedMantissa) >>> n) = _
      rw [hdouble, ih]
      simp [ExtendedMantissa.shiftRightOne]

/-- A mantissa that is at most a shifted one is rounded to at most that one. -/
theorem roundedMantissa_le {m bound n : Nat} (h : m ≤ bound * 2 ^ n) :
    (ExtendedMantissa.ofMantissaAndAccuracy m .exact >>> n).roundedMantissa ≤ bound := by
  obtain rfl | hlt := h.eq_or_lt
  · show ((⟨bound * 2 ^ n, false, false⟩ : ExtendedMantissa) >>> n).roundedMantissa ≤ bound
    rw [shiftRight_mul_two_pow]
    exact le_rfl
  · have hdiv : m / 2 ^ n < bound := (Nat.div_lt_iff_lt_mul (Nat.two_pow_pos n)).mpr hlt
    refine (roundToNearestEven_le _ _).trans ?_
    rw [mantissa_shiftRight, mantissa_ofMantissaAndAccuracy]
    omega

/-- Rounding goes past no number of the format. -/
theorem exponentLE_roundWithAccuracy_of_le {m bound : Nat} {e c : Int} (hm : 0 < m) (he : e ≤ c)
    (hc : -1074 ≤ c) (hbound : bound < 2 ^ 53) (h : m ≤ bound * 2 ^ (c - e).toNat) (s : Sign) :
    ExponentLE c (roundWithAccuracy .binary64 s m e .exact) := by
  have hlt : m < 2 ^ (53 + (c - e).toNat) := by
    rw [Nat.pow_add]
    exact h.trans_lt (Nat.mul_lt_mul_of_pos_right hbound (Nat.two_pow_pos _))
  have htotal := totalExponent_le hm hlt e
  have hrounded := roundedMantissa_le_two_pow m e .exact
  generalize hk : (Format.binary64.targetExponent (totalExponent m e) - e).toNat = k at hrounded
  have hek : e + k ≤ c := by
    rw [targetExponent_eq] at hk
    omega
  refine exponentLE_roundWithAccuracy_of_rounded hk hek hc ?_ s
  rintro r rfl hpos
  obtain hkc | hkc := hek.eq_or_lt
  · -- at the exponent of the bound, the mantissa is rounded to at most the bound
    obtain rfl : (c - e).toNat = k := by omega
    have hfits := totalExponent_le hpos ((roundedMantissa_le h).trans_lt hbound)
      (e + (c - e).toNat)
    omega
  · have hcarried := totalExponent_le hpos (hrounded.trans_lt (by decide : 2 ^ 53 < 2 ^ 54)) (e + k)
    omega

/-- Whether an unpacked float lies between minus one and one. -/
def AtMostOne : UnpackedFloat → Prop
  | .zero _ => True
  | .finite _ m e _ => e ≤ -52 ∧ m ≤ 2 ^ (-e).toNat
  | _ => False

/-- A factor of at most one raises no exponent. -/
theorem exponentLE_mul_of_atMostOne {u v : UnpackedFloat} {c : Int} (hu : AtMostOne u)
    (hv : ExponentLE c v) (hrange : InRange v) : ExponentLE c (u.mul .binary64 v) := by
  cases u <;> cases v
  case finite.finite s₁ m₁ e₁ hm₁ s₂ m₂ e₂ hm₂ =>
    obtain ⟨hlow, hone⟩ := hu
    have hround : ExponentLE e₂ (roundWithAccuracy .binary64 (s₁ * s₂) (m₁ * m₂) (e₁ + e₂)
        .exact) := by
      refine exponentLE_roundWithAccuracy_of_le (Nat.mul_pos hm₁ hm₂) (by omega) hrange.2
        hrange.1 ?_ _
      rw [show e₂ - (e₁ + e₂) = -e₁ by omega, Nat.mul_comm m₂]
      exact Nat.mul_le_mul_right _ hone
    exact hround.mono hv
  all_goals trivial

theorem AtMostOne.exponentLE {u : UnpackedFloat} (h : AtMostOne u) : ExponentLE (-52) u := by
  cases u with
  | finite s m e hm => exact h.1
  | _ => exact h

/-! ### Differences -/

theorem natAbs_apply (s : Sign) (n : Int) : (s.apply n).natAbs = n.natAbs := by
  cases s
  · exact Int.natAbs_neg n
  · rfl

theorem exponentLE_sub {u v : UnpackedFloat} {c : Int} (hu : ExponentLE c u) (hv : ExponentLE c v)
    (hru : InRange u) (hrv : InRange v) (hc : -1075 ≤ c) :
    ExponentLE (c + 2) (u.sub .binary64 v) := by
  cases u <;> cases v
  case finite.finite s₁ m₁ e₁ hm₁ s₂ m₂ e₂ hm₂ =>
    change e₁ ≤ c at hu
    change e₂ ≤ c at hv
    unfold UnpackedFloat.sub decreaseExponent
    dsimp only
    obtain ⟨k, hk⟩ : ∃ k : Nat, (k : Int) = max e₁ e₂ - min e₁ e₂ :=
      ⟨(max e₁ e₂ - min e₁ e₂).toNat, by omega⟩
    have haligned : ∀ (m : Nat) (e : Int), m < 2 ^ 53 → e ≤ max e₁ e₂ →
        m <<< (e - min e₁ e₂).toNat < 2 ^ (53 + k) := by
      intro m e hm he
      rw [Nat.shiftLeft_eq, Nat.pow_add]
      exact Nat.mul_lt_mul_of_lt_of_le hm (Nat.pow_le_pow_right (by decide) (by omega))
        (Nat.two_pow_pos _)
    have hlt : (s₁.apply (m₁ <<< (e₁ - min e₁ e₂).toNat : Nat) -
        s₂.apply (m₂ <<< (e₂ - min e₁ e₂).toNat : Nat)).natAbs < 2 ^ (54 + k) := by
      have hfirst := haligned m₁ e₁ hru.1 (le_max_left _ _)
      have hsecond := haligned m₂ e₂ hrv.1 (le_max_right _ _)
      have htriangle := Int.natAbs_sub_le (s₁.apply (m₁ <<< (e₁ - min e₁ e₂).toNat : Nat))
        (s₂.apply (m₂ <<< (e₂ - min e₁ e₂).toNat : Nat))
      rw [natAbs_apply, natAbs_apply, Int.natAbs_natCast, Int.natAbs_natCast] at htriangle
      have hdouble : 2 ^ (54 + k) = 2 ^ (53 + k) + 2 ^ (53 + k) := by
        rw [show 54 + k = 53 + k + 1 by omega, Nat.pow_succ, Nat.mul_two]
      omega
    have hround : ExponentLE (c + 1 + 1) _ :=
      exponentLE_normalize hlt (show min e₁ e₂ ≤ c + 1 by omega) (by omega)
        (by push_cast; omega) .positive
    exact hround.mono (by omega)
  case finite.zero => exact le_trans hu (by omega : c ≤ c + 2)
  case zero.finite => exact le_trans hv (by omega : c ≤ c + 2)
  case zero.zero s t => cases s <;> cases t <;> trivial
  all_goals trivial

/-! ### Finite floats -/

section finite
variable {x y : Float}

theorem exponentLE_of_isFinite (h : x.isFinite = true) : ExponentLE 971 (unpacked x) := by
  have hcanonical : IsCanonical (unpacked x) := isCanonical_unpack _
  change (unpacked x).isFinite = true at h
  cases hx : unpacked x with
  | finite s m e hm =>
      rw [hx] at hcanonical
      exact hcanonical.2.2.1
  | zero s => trivial
  | _ =>
      rw [hx] at h
      exact absurd h Bool.false_ne_true

theorem isFinite_neg (h : x.isFinite = true) : (-x).isFinite = true := by
  have hneg : ExponentLE 971 (unpacked (-x)) :=
    exponentLE_unpack_pack (exponentLE_neg (exponentLE_of_isFinite h)) (by decide) (by decide)
  exact isFinite_of_exponentLE hneg

/-- A float between zero and one. -/
structure InUnit (x : Float) : Prop where
  nonneg : 0.0 ≤ x
  le_one : x ≤ 1.0

theorem InUnit.atMostOne (h : InUnit x) : AtMostOne (unpacked x) := by
  have hzero : place 0.0 = toLex (0, toLex (0, 0)) := rfl
  have hone : place 1.0 = toLex (1, toLex (-52, 2 ^ 52)) := rfl
  have hlow := (le_iff_place.mp h.nonneg).2
  have hhigh := (le_iff_place.mp h.le_one).2
  have hrange := inRange_unpacked x
  rw [hzero] at hlow
  rw [hone] at hhigh
  unfold place at hlow hhigh
  generalize unpacked x = u at *
  rcases u with (_ | _) | _ | _ | ⟨_ | _, m, e, hm⟩
  case finite.positive =>
    obtain hsmall | ⟨rfl, hpower⟩ : e < -52 ∨ e = -52 ∧ m ≤ 2 ^ 52 := by
      simp [placeOf, Prod.Lex.toLex_le_toLex] at hhigh
      omega
    · exact ⟨hsmall.le, hrange.1.le.trans (Nat.pow_le_pow_right (by decide) (by omega))⟩
    · exact ⟨le_rfl, hpower⟩
  case zero => trivial
  all_goals simp [placeOf, Prod.Lex.toLex_le_toLex] at hlow hhigh

theorem InUnit.isFinite (h : InUnit x) : x.isFinite = true :=
  isFinite_of_exponentLE h.atMostOne.exponentLE

theorem InUnit.isNaN (h : InUnit x) : x.isNaN = false := (isFinite_iff.mp h.isFinite).1

theorem isFinite_mul_of_inUnit (hx : InUnit x) (hy : y.isFinite = true) :
    (x * y).isFinite = true := by
  have hmul : ExponentLE 971 ((unpacked x).mul .binary64 (unpacked y)) :=
    exponentLE_mul_of_atMostOne hx.atMostOne (exponentLE_of_isFinite hy) (inRange_unpacked y)
  have hpacked : ExponentLE 971 (unpacked (x * y)) :=
    exponentLE_unpack_pack hmul (by decide) (by decide)
  exact isFinite_of_exponentLE hpacked

theorem isFinite_sub_of_inUnit (hx : InUnit x) (hy : InUnit y) : (x - y).isFinite = true := by
  have hsub : ExponentLE (-52 + 2) ((unpacked x).sub .binary64 (unpacked y)) :=
    exponentLE_sub hx.atMostOne.exponentLE hy.atMostOne.exponentLE (inRange_unpacked x)
      (inRange_unpacked y) (by decide)
  have hpacked : ExponentLE (-52 + 2) (unpacked (x - y)) :=
    exponentLE_unpack_pack hsub (by decide) (by decide)
  exact isFinite_of_exponentLE hpacked

end finite

/-! ### Differences that are not zero -/

theorem unpack_pack_finite_ne {s t : Sign} {m : Nat} {e : Int} {hm : 0 < m}
    (hrange : InRange (.finite s m e hm)) :
    UnpackedFloat.unpack .binary64 (UnpackedFloat.pack .binary64 (.finite s m e hm)) ≠
      .zero t := by
  intro hzero
  have hfields := hasFields_unpack (UnpackedFloat.pack .binary64 (.finite s m e hm))
  rw [hzero] at hfields
  obtain ⟨hsign, hexponent, hmantissa⟩ := hfields
  obtain ⟨hsign', hexponent', hmantissa'⟩ : HasFields (packedZero .binary64 t) (.zero t) := by
    refine ⟨?_, ?_, ?_⟩ <;> cases t <;> rfl
  exact pack_finite_ne hrange (eq_of_fields (hsign.trans hsign'.symm)
    (hexponent.trans hexponent'.symm) (hmantissa.trans hmantissa'.symm))

/-- Two mantissas in canonical form that are equal when aligned are equal. -/
theorem eq_of_aligned {m n : Nat} {e f : Int} (hm : m < 2 ^ 53) (he : -1074 ≤ e)
    (hn : f = -1074 ∨ 2 ^ 52 ≤ n) (hef : e ≤ f) (h : m = n <<< (f - e).toNat) :
    m = n ∧ e = f := by
  rw [Nat.shiftLeft_eq] at h
  obtain rfl | hlt := hef.eq_or_lt
  · rw [Int.sub_self, Int.toNat_zero, Nat.pow_zero, Nat.mul_one] at h
    exact ⟨h, rfl⟩
  · exfalso
    have hfull : 2 ^ 52 ≤ n := by omega
    have hpower : 2 ^ 1 ≤ 2 ^ (f - e).toNat := Nat.pow_le_pow_right (by decide) (by omega)
    have hlarge := Nat.mul_le_mul hfull hpower
    omega

/-- Equal numbers that are not zero have equal signs and mantissas. -/
theorem eq_of_apply_eq {s t : Sign} {m n : Nat} (hm : 0 < m) (hn : 0 < n)
    (h : s.apply m = t.apply n) : s = t ∧ m = n := by
  cases s <;> cases t <;> simp only [Sign.apply] at h
  case negative.negative => exact ⟨rfl, by omega⟩
  case positive.positive => exact ⟨rfl, by omega⟩
  all_goals omega

theorem unpack_pack_sub_ne {u v : UnpackedFloat} {s : Sign} (hu : IsCanonical u)
    (hv : IsCanonical v) (hfu : u.isFinite = true) (hfv : v.isFinite = true)
    (hne : placeOf u ≠ placeOf v) :
    UnpackedFloat.unpack .binary64 (UnpackedFloat.pack .binary64 (u.sub .binary64 v)) ≠
      .zero s := by
  cases u <;> cases v
  case finite.finite s₁ m₁ e₁ hm₁ s₂ m₂ e₂ hm₂ =>
    obtain ⟨hlt₁, hlow₁, -, hform₁⟩ := hu
    obtain ⟨hlt₂, hlow₂, -, hform₂⟩ := hv
    unfold UnpackedFloat.sub decreaseExponent
    dsimp only
    have hdiffer : s₁.apply (m₁ <<< (e₁ - min e₁ e₂).toNat : Nat) -
        s₂.apply (m₂ <<< (e₂ - min e₁ e₂).toNat : Nat) ≠ 0 := by
      intro hzero
      have hpos : ∀ m k : Nat, 0 < m → 0 < m <<< k := fun m k hm => by
        rw [Nat.shiftLeft_eq]
        exact Nat.mul_pos hm (Nat.two_pow_pos k)
      obtain ⟨rfl, haligned⟩ := eq_of_apply_eq (hpos _ _ hm₁) (hpos _ _ hm₂) (sub_eq_zero.mp hzero)
      obtain ⟨rfl, rfl⟩ : m₁ = m₂ ∧ e₁ = e₂ := by
        obtain hle | hle := le_total e₁ e₂
        · rw [min_eq_left hle, Int.sub_self] at haligned
          exact eq_of_aligned hlt₁ hlow₁ hform₂ hle haligned
        · rw [min_eq_right hle, Int.sub_self] at haligned
          exact (eq_of_aligned hlt₂ hlow₂ hform₁ hle haligned.symm).imp Eq.symm Eq.symm
      exact hne rfl
    obtain ⟨t, n, f, hn, hround, hrange⟩ :=
      exists_normalize_eq_finite hdiffer (le_min hlow₁ hlow₂) .positive
    rw [hround]
    exact unpack_pack_finite_ne hrange
  case finite.zero s₁ m₁ e₁ hm₁ t => exact unpack_pack_finite_ne ⟨hu.1, hu.2.1⟩
  case zero.finite t s₂ m₂ e₂ hm₂ => exact unpack_pack_finite_ne ⟨hv.1, hv.2.1⟩
  case zero.zero s t => exact absurd rfl hne
  all_goals first | exact absurd hfu Bool.false_ne_true | exact absurd hfv Bool.false_ne_true

section differences
variable {x y : Float}

theorem sub_beq_zero_of_lt (hlt : x < y) (hx : x.isFinite = true) (hy : y.isFinite = true) :
    (y - x == 0.0) = false := by
  have hne : place y ≠ place x := (lt_iff_place.mp hlt).2.ne'
  have hsub : ∀ s, unpacked (y - x) ≠ .zero s := fun s =>
    unpack_pack_sub_ne (isCanonical_unpack _) (isCanonical_unpack _) hy hx hne
  rw [← Bool.not_eq_true, beq_zero_iff]
  rintro ⟨s, hs⟩
  exact hsub s hs

end differences

end DataRoute
