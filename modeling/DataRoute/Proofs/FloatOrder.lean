import Mathlib

/-! # Sums and comparisons of floats

Two facts about double precision are needed to compare totals.  Floats have places in a linear
order, what is no number after all numbers.  Comparing floats is comparing their places
(`le_iff_place`, `lt_iff_place`), and only the two zeros share one (`eq_of_place_eq`).  A sum is a
negative zero only if both summands are (`add_ne_negZero`), so that a float that was summed up from
zero is determined by its place.  The second fact rests on rounding, which takes no positive
mantissa to zero as long as the exponent is one of the format (`exists_round_eq_finite`). -/

namespace DataRoute

open Float.Model Float.Model.UnpackedFloat

/-! ### Bits and fields -/

section fields
variable {b c : BitVec Format.binary64.numBits}

theorem toBitVec_ofBitVec (v : BitVec 1) : (Sign.ofBitVec v).toBitVec = v := by
  revert v
  decide

/-- A word is determined by its sign, its exponent and its mantissa. -/
theorem eq_of_fields (hsign : Sign.ofBitVec (unpackSign b) = Sign.ofBitVec (unpackSign c))
    (hexponent : unpackExponent b = unpackExponent c)
    (hmantissa : unpackMantissa b = unpackMantissa c) : b = c := by
  refine BitVec.eq_of_getLsbD_eq fun i hi => ?_
  change i < 64 at hi
  obtain hlow | ⟨n, hn, rfl⟩ | rfl : i < 52 ∨ (∃ n < 11, 52 + n = i) ∨ 63 = i := by
    by_cases hlow : i < 52
    · exact .inl hlow
    · by_cases htop : i = 63
      · exact .inr (.inr htop.symm)
      · exact .inr (.inl ⟨i - 52, by omega, by omega⟩)
  · have hbit := congrArg (BitVec.getLsbD · i) hmantissa
    simpa [unpackMantissa, BitVec.getLsbD_extractLsb, hlow] using hbit
  · have hbit := congrArg (BitVec.getLsbD · n) hexponent
    simpa [unpackExponent, BitVec.getLsbD_extractLsb, hn] using hbit
  · have hbit := congrArg (fun s => s.toBitVec.getLsbD 0) hsign
    simp only [toBitVec_ofBitVec] at hbit
    simpa [unpackSign, BitVec.getLsbD_extractLsb] using hbit

theorem toNat_implicit (mantissa : BitVec 52) :
    (1#1 ++ mantissa).toNat = 2 ^ 52 + mantissa.toNat := by
  rw [BitVec.toNat_append, ← Nat.shiftLeft_add_eq_or_of_lt mantissa.isLt]
  rfl

/-- What the fields of a word are if it stands for an unpacked float. -/
def HasFields (b : BitVec Format.binary64.numBits) : UnpackedFloat → Prop
  | .notANumber => unpackExponent b = -1#_ ∧ unpackMantissa b ≠ 0#_
  | .infinity s =>
    Sign.ofBitVec (unpackSign b) = s ∧ unpackExponent b = -1#_ ∧ unpackMantissa b = 0#_
  | .zero s =>
    Sign.ofBitVec (unpackSign b) = s ∧ unpackExponent b = 0#_ ∧ unpackMantissa b = 0#_
  | .finite s m e _ =>
    Sign.ofBitVec (unpackSign b) = s ∧ (unpackMantissa b).toNat < 2 ^ 52 ∧
      ((m = (unpackMantissa b).toNat ∧ e = -1074 ∧ (unpackExponent b).toNat = 0) ∨
        (m = 2 ^ 52 + (unpackMantissa b).toNat ∧ e = (unpackExponent b).toNat - 1075 ∧
          0 < (unpackExponent b).toNat))

theorem hasFields_unpack (b : BitVec Format.binary64.numBits) :
    HasFields b (UnpackedFloat.unpack .binary64 b) := by
  have hmantissa : (unpackMantissa b).toNat < 2 ^ 52 := (unpackMantissa b).isLt
  have hbias : (Format.binary64.exponentBias : Int) = 1023 := rfl
  unfold UnpackedFloat.unpack
  dsimp only
  split
  next hexponent =>
    split
    next hzero => exact ⟨rfl, hexponent, hzero⟩
    next hzero => exact ⟨hexponent, hzero⟩
  next =>
    split
    next hexponent =>
      split
      next hzero => exact ⟨rfl, hexponent, hzero⟩
      next =>
        have hleast : (unpackExponent b).toNat = 0 := congrArg BitVec.toNat hexponent
        refine ⟨rfl, hmantissa, .inl ⟨rfl, ?_, hleast⟩⟩
        rw [hleast, hbias]
        rfl
    next hexponent =>
      have hpos : 0 < (unpackExponent b).toNat :=
        Nat.pos_of_ne_zero fun hzero => hexponent (BitVec.toNat_inj.mp hzero)
      refine ⟨rfl, hmantissa, .inr ⟨toNat_implicit _, ?_, hpos⟩⟩
      rw [hbias]
      rfl

theorem eq_of_hasFields {u : UnpackedFloat} (hb : Format.binary64.Valid b)
    (hc : Format.binary64.Valid c) (hbu : HasFields b u) (hcu : HasFields c u) : b = c := by
  cases u with
  | notANumber => rw [hb.eq_packedNaN hbu.1 hbu.2, hc.eq_packedNaN hcu.1 hcu.2]
  | infinity s =>
      exact eq_of_fields (hbu.1.trans hcu.1.symm) (hbu.2.1.trans hcu.2.1.symm)
        (hbu.2.2.trans hcu.2.2.symm)
  | zero s =>
      exact eq_of_fields (hbu.1.trans hcu.1.symm) (hbu.2.1.trans hcu.2.1.symm)
        (hbu.2.2.trans hcu.2.2.symm)
  | finite s m e hm =>
      obtain ⟨hbs, hbm, hb⟩ := hbu
      obtain ⟨hcs, hcm, hc⟩ := hcu
      -- the implicit bit tells the two forms apart
      have hexponent : (unpackExponent b).toNat = (unpackExponent c).toNat := by omega
      have hmantissa : (unpackMantissa b).toNat = (unpackMantissa c).toNat := by omega
      exact eq_of_fields (hbs.trans hcs.symm) (BitVec.toNat_inj.mp hexponent)
        (BitVec.toNat_inj.mp hmantissa)

end fields

/-- What a float stands for. -/
def unpacked (x : Float) : UnpackedFloat := x.toModel.unpack

theorem eq_of_unpacked_eq {x y : Float} (h : unpacked x = unpacked y) : x = y := by
  obtain ⟨⟨b, hb⟩⟩ := x
  obtain ⟨⟨c, hc⟩⟩ := y
  have hfields : HasFields b.toBitVec (unpacked ⟨⟨c, hc⟩⟩) := by
    rw [← h]
    exact hasFields_unpack _
  have hbits : b.toBitVec = c.toBitVec :=
    eq_of_hasFields hb hc hfields (hasFields_unpack _)
  obtain rfl := UInt64.toBitVec_inj.mp hbits
  rfl

/-! ### Comparisons -/

/-- The place of an unpacked float; the two zeros have the same, and what is no number comes
last. -/
def placeOf : UnpackedFloat → ℤ ×ₗ ℤ ×ₗ ℤ
  | .infinity .negative => toLex (-2, toLex (0, 0))
  | .finite .negative m e _ => toLex (-1, toLex (-e, -m))
  | .zero _ => toLex (0, toLex (0, 0))
  | .finite .positive m e _ => toLex (1, toLex (e, m))
  | .infinity .positive => toLex (2, toLex (0, 0))
  | .notANumber => toLex (3, toLex (0, 0))

theorem isLE_compare_then (e f : Int) (m n : Nat) :
    ((compare e f).then (compare m n)).isLE = true ↔ e < f ∨ e = f ∧ m ≤ n := by
  rw [Ordering.isLE_then_iff_or, Int.compare_eq_lt, Int.compare_eq_eq, Nat.isLE_compare]

theorem isGE_compare_then (e f : Int) (m n : Nat) :
    ((compare e f).then (compare m n)).isGE = true ↔ f < e ∨ e = f ∧ n ≤ m := by
  have hthen : ∀ a b : Ordering, (a.then b).isGE = true ↔ a = .gt ∨ a = .eq ∧ b.isGE = true := by
    decide
  rw [hthen, Int.compare_eq_gt, Int.compare_eq_eq, Nat.isGE_compare]

theorem compare_then_eq_lt (e f : Int) (m n : Nat) :
    (compare e f).then (compare m n) = .lt ↔ e < f ∨ e = f ∧ m < n := by
  rw [Ordering.then_eq_lt, Int.compare_eq_lt, Int.compare_eq_eq, Nat.compare_eq_lt]

theorem compare_then_eq_gt (e f : Int) (m n : Nat) :
    (compare e f).then (compare m n) = .gt ↔ f < e ∨ e = f ∧ n < m := by
  rw [Ordering.then_eq_gt, Int.compare_eq_gt, Int.compare_eq_eq, Nat.compare_eq_gt]

theorem le_iff_placeOf {u v : UnpackedFloat} :
    u.le v = true ↔ v ≠ .notANumber ∧ placeOf u ≤ placeOf v := by
  rcases u with (_ | _) | _ | _ | ⟨_ | _, m, e, hm⟩ <;>
    rcases v with (_ | _) | _ | _ | ⟨_ | _, n, f, hn⟩ <;>
      simp [UnpackedFloat.le, UnpackedFloat.compare, placeOf, Prod.Lex.toLex_le_toLex,
        isLE_compare_then, isGE_compare_then]
  all_goals rfl

theorem lt_iff_placeOf {u v : UnpackedFloat} :
    u.lt v = true ↔ v ≠ .notANumber ∧ placeOf u < placeOf v := by
  rcases u with (_ | _) | _ | _ | ⟨_ | _, m, e, hm⟩ <;>
    rcases v with (_ | _) | _ | _ | ⟨_ | _, n, f, hn⟩ <;>
      simp [UnpackedFloat.lt, UnpackedFloat.compare, placeOf, Prod.Lex.toLex_lt_toLex,
        compare_then_eq_lt, compare_then_eq_gt]
  all_goals rfl

theorem eq_of_placeOf_eq {u v : UnpackedFloat} (hu : u ≠ .zero .negative)
    (hv : v ≠ .zero .negative) (h : placeOf u = placeOf v) : u = v := by
  rcases u with (_ | _) | _ | (_ | _) | ⟨_ | _, m, e, hm⟩ <;>
    rcases v with (_ | _) | _ | (_ | _) | ⟨_ | _, n, f, hn⟩ <;>
      simp_all [placeOf]

/-- The place of a float. -/
def place (x : Float) : ℤ ×ₗ ℤ ×ₗ ℤ := placeOf (unpacked x)

section comparisons
variable {x y : Float}

theorem isNaN_eq_false_iff : x.isNaN = false ↔ unpacked x ≠ .notANumber := by
  change (unpacked x).isNaN = false ↔ _
  cases unpacked x <;> simp [UnpackedFloat.isNaN]

/-- Comparing with a number is comparing places. -/
theorem le_iff_place : x ≤ y ↔ y.isNaN = false ∧ place x ≤ place y := by
  change decide ((unpacked x).le (unpacked y) = true) = true ↔ _
  rw [decide_eq_true_eq, isNaN_eq_false_iff, le_iff_placeOf]
  rfl

theorem lt_iff_place : x < y ↔ y.isNaN = false ∧ place x < place y := by
  change decide ((unpacked x).lt (unpacked y) = true) = true ↔ _
  rw [decide_eq_true_eq, isNaN_eq_false_iff, lt_iff_placeOf]
  rfl

theorem place_le_of_isNaN (hy : y.isNaN = true) (x : Float) : place x ≤ place y := by
  have hlast : unpacked y = .notANumber := by
    by_contra hne
    rw [isNaN_eq_false_iff.mpr hne] at hy
    exact Bool.false_ne_true hy
  unfold place
  rw [hlast]
  rcases unpacked x with (_ | _) | _ | _ | ⟨_ | _, m, e, hm⟩ <;>
    simp [placeOf, Prod.Lex.toLex_le_toLex]

theorem eq_negZero_iff : x = -0.0 ↔ unpacked x = .zero .negative :=
  ⟨fun h => h ▸ rfl, fun h => eq_of_unpacked_eq (h.trans rfl)⟩

theorem eq_of_place_eq (hx : x ≠ -0.0) (hy : y ≠ -0.0) (h : place x = place y) : x = y := by
  rw [Ne, eq_negZero_iff] at hx hy
  exact eq_of_unpacked_eq (eq_of_placeOf_eq hx hy h)

end comparisons

/-! ### Rounding -/

/-- An unpacked float in the range of the format. -/
def InRange : UnpackedFloat → Prop
  | .finite _ m e _ => m < 2 ^ 53 ∧ -1074 ≤ e
  | _ => True

theorem inRange_of_hasFields {b : BitVec Format.binary64.numBits} {u : UnpackedFloat}
    (h : HasFields b u) : InRange u := by
  cases u with
  | finite s m e hm =>
      obtain ⟨-, hmantissa, h⟩ := h
      have hrange : m < 2 ^ 53 ∧ -1074 ≤ e := by omega
      exact hrange
  | _ => trivial

theorem pack_finite_ne {s t : Sign} {m : Nat} {e : Int} {hm : 0 < m}
    (hrange : InRange (.finite s m e hm)) :
    UnpackedFloat.pack .binary64 (.finite s m e hm) ≠ packedZero .binary64 t := by
  obtain ⟨hlt, he⟩ := hrange
  have hbias : (Format.binary64.exponentBias : Int) = 1023 := rfl
  intro h
  have hexponent := congrArg (fun b => (unpackExponent b).toNat) h
  have hmantissa := congrArg (fun b => (unpackMantissa b).toNat) h
  unfold UnpackedFloat.pack packedZero at hexponent hmantissa
  simp only [hbias] at hexponent hmantissa
  by_cases hbig : 2 ^ Format.binary64.exponentBits ≤ (e + 1023 + (52 : Nat)).toNat + 1
  · rw [if_pos hbig] at hexponent
    unfold packedInfinity at hexponent
    rw [unpackExponent_packComponents, unpackExponent_packComponents] at hexponent
    exact absurd hexponent (by decide)
  · rw [if_neg hbig] at hexponent hmantissa
    by_cases hnormal : m.log2 + 1 = Format.binary64.mantissaBits
    · rw [if_pos hnormal, unpackExponent_packComponents, unpackExponent_packComponents,
        BitVec.toNat_ofNat] at hexponent
      change (e + 1023 + 52).toNat % 2048 = 0 at hexponent
      change ¬ 2048 ≤ (e + 1023 + 52).toNat + 1 at hbig
      omega
    · rw [if_neg hnormal, unpackMantissa_packComponents, unpackMantissa_packComponents,
        BitVec.toNat_ofNat] at hmantissa
      change ¬ m.log2 + 1 = 53 at hnormal
      change m % 2 ^ 52 = 0 at hmantissa
      have hlog : m.log2 < 53 := (Nat.log2_lt hm.ne').mpr hlt
      have hshort : m < 2 ^ 52 := (Nat.log2_lt hm.ne').mp (by omega)
      omega

theorem eq_zero_of_pack_eq {u : UnpackedFloat} (hu : InRange u)
    (h : UnpackedFloat.pack .binary64 u = packedZero .binary64 .negative) :
    u = .zero .negative := by
  cases u with
  | notANumber => exact absurd h (by decide)
  | infinity s => cases s <;> exact absurd h (by decide)
  | zero s =>
      cases s with
      | negative => rfl
      | positive => exact absurd h (by decide)
  | finite s m e hm => exact absurd h (pack_finite_ne hu)

section rounding

theorem mantissa_shiftRight (em : ExtendedMantissa) (n : Nat) :
    (em >>> n).mantissa = em.mantissa / 2 ^ n := by
  induction n with
  | zero => rw [Nat.pow_zero, Nat.div_one]; rfl
  | succ n ih =>
      change (em >>> n).mantissa / 2 = _
      rw [ih, Nat.div_div_eq_div_mul, Nat.pow_succ]

theorem mantissa_ofMantissaAndAccuracy (m : Nat) (accuracy : Accuracy) :
    (ExtendedMantissa.ofMantissaAndAccuracy m accuracy).mantissa = m := by
  obtain _ | (_ | _ | _) := accuracy <;> rfl

theorem le_roundToNearestEven (m : Nat) (accuracy : Accuracy) :
    m ≤ accuracy.roundToNearestEven m := by
  obtain _ | (_ | _ | _) := accuracy <;> simp [Accuracy.roundToNearestEven]

theorem targetExponent_eq (t : Int) :
    Format.binary64.targetExponent t = max (t - 53) (-1074) := rfl

/-- The distance to the target exponent leaves a mantissa of at least one and of at most 53
bits. -/
theorem div_two_pow_range {m : Nat} (hm : 0 < m) {e : Int} (he : -1074 ≤ e) :
    0 < m / 2 ^ (Format.binary64.targetExponent (totalExponent m e) - e).toNat ∧
      m / 2 ^ (Format.binary64.targetExponent (totalExponent m e) - e).toNat < 2 ^ 53 := by
  have hshift : (Format.binary64.targetExponent (totalExponent m e) - e).toNat =
      m.log2 - 52 := by
    rw [targetExponent_eq]
    unfold totalExponent
    omega
  rw [hshift]
  constructor
  · have hle : 2 ^ (m.log2 - 52) ≤ m :=
      (Nat.pow_le_pow_right (by decide) (Nat.sub_le _ _)).trans (Nat.log2_self_le hm.ne')
    exact Nat.div_pos hle (Nat.two_pow_pos _)
  · rw [Nat.div_lt_iff_lt_mul (Nat.two_pow_pos _), ← Nat.pow_add]
    exact Nat.lt_log2_self.trans_le (Nat.pow_le_pow_right (by decide) (by omega))

theorem exists_roundWithAccuracy_eq {m : Nat} (hm : 0 < m) {e : Int} (he : -1074 ≤ e) (s : Sign)
    (accuracy : Accuracy) : ∃ n f hn, roundWithAccuracy .binary64 s m e accuracy =
      .finite s n f hn ∧ n < 2 ^ 53 ∧ -1074 ≤ f := by
  obtain ⟨hpos, -⟩ := div_two_pow_range hm he
  unfold roundWithAccuracy shiftToTargetExponent shiftToExponent
  dsimp only
  have hrounded : 0 < (ExtendedMantissa.ofMantissaAndAccuracy m accuracy >>>
      (Format.binary64.targetExponent (totalExponent m e) - e).toNat).roundedMantissa := by
    refine hpos.trans_le (le_trans (le_of_eq ?_) (le_roundToNearestEven _ _))
    rw [mantissa_shiftRight, mantissa_ofMantissaAndAccuracy]
  generalize (ExtendedMantissa.ofMantissaAndAccuracy m accuracy >>>
      (Format.binary64.targetExponent (totalExponent m e) - e).toNat).roundedMantissa = r at *
  generalize (Format.binary64.targetExponent (totalExponent m e) - e).toNat = k
  -- rounding up may have carried into one more bit, hence the second shift
  obtain ⟨hfinal, hlt⟩ := div_two_pow_range hrounded (show -1074 ≤ e + k by omega)
  simp only [mantissa_shiftRight, mantissa_ofMantissaAndAccuracy]
  rw [dif_neg hfinal.ne']
  exact ⟨_, _, hfinal, rfl, hlt, by omega⟩

theorem exists_round_eq_finite {m : Nat} (hm : 0 < m) {e : Int} (he : -1074 ≤ e) (s : Sign) :
    ∃ n f hn, UnpackedFloat.round .binary64 s m e = .finite s n f hn ∧ n < 2 ^ 53 ∧ -1074 ≤ f := by
  unfold UnpackedFloat.round decreaseExponent
  refine exists_roundWithAccuracy_eq ?_ ?_ s .exact
  · rw [Nat.shiftLeft_eq]
    exact Nat.mul_pos hm (Nat.two_pow_pos _)
  · rw [targetExponent_eq]
    omega

end rounding

/-! ### Sums -/

/-- Only a sum that cancels is a zero. -/
theorem exists_normalize_eq_finite {m e : Int} (hm : m ≠ 0) (he : -1074 ≤ e) (s : Sign) :
    ∃ t n f hn, UnpackedFloat.normalize .binary64 m e s = .finite t n f hn ∧
      InRange (.finite t n f hn) := by
  unfold UnpackedFloat.normalize
  split
  next hneg =>
    rw [Int.compare_eq_lt] at hneg
    obtain ⟨n, f, hn, hround, hrange⟩ :=
      exists_round_eq_finite (show 0 < (-m).toNat by omega) he .negative
    exact ⟨_, n, f, hn, hround, hrange⟩
  next hzero =>
    rw [Int.compare_eq_eq] at hzero
    exact absurd hzero hm
  next hpos =>
    rw [Int.compare_eq_gt] at hpos
    obtain ⟨n, f, hn, hround, hrange⟩ :=
      exists_round_eq_finite (show 0 < m.toNat by omega) he .positive
    exact ⟨_, n, f, hn, hround, hrange⟩

/-- A sum of two numbers that cancel each other is the positive zero. -/
theorem normalize_range {m : Int} {e : Int} (he : -1074 ≤ e) :
    InRange (UnpackedFloat.normalize .binary64 m e .positive) ∧
      UnpackedFloat.normalize .binary64 m e .positive ≠ .zero .negative := by
  by_cases hm : m = 0
  · subst hm
    exact ⟨trivial, nofun⟩
  · obtain ⟨t, n, f, hn, hround, hrange⟩ := exists_normalize_eq_finite hm he .positive
    rw [hround]
    exact ⟨hrange, nofun⟩

theorem add_range {u v : UnpackedFloat} (hu : InRange u) (hv : InRange v)
    (hne : u ≠ .zero .negative) :
    InRange (u.add .binary64 v) ∧ u.add .binary64 v ≠ .zero .negative := by
  cases u <;> cases v
  case finite.finite => exact normalize_range (le_min hu.2 hv.2)
  case zero.finite => exact ⟨hv, by simp [UnpackedFloat.add]⟩
  case finite.zero => exact ⟨hu, by simp [UnpackedFloat.add]⟩
  case zero.zero s t =>
    obtain rfl : s = .positive := by
      cases s with
      | negative => exact absurd rfl hne
      | positive => rfl
    refine ⟨by cases t <;> trivial, ?_⟩
    cases t <;> exact nofun
  case infinity.infinity s t => cases s <;> cases t <;> exact ⟨trivial, nofun⟩
  all_goals exact ⟨trivial, nofun⟩

theorem inRange_unpacked (x : Float) : InRange (unpacked x) :=
  inRange_of_hasFields (hasFields_unpack _)

/-- A sum is a negative zero only if its first summand is. -/
theorem add_ne_negZero {x : Float} (hx : x ≠ -0.0) (y : Float) : x + y ≠ -0.0 := by
  rw [Ne, eq_negZero_iff] at hx
  obtain ⟨hrange, hne⟩ := add_range (inRange_unpacked x) (inRange_unpacked y) hx
  intro h
  have hbits := congrArg (fun z : Float => z.toModel.toBits.toBitVec) h
  exact hne (eq_zero_of_pack_eq hrange hbits)

end DataRoute
