import DataRoute.Infrastructure
import DataRoute.Proofs.FloatOverflow

/-! # Values on a scale

A value is placed on a scale by dividing its distance from the lower bound by the extent of the
scale.  Both are differences of finite floats that may overflow.  If both do
(`Range.Overflows`), the place is no number, and otherwise it lies between zero and one
(`Infrastructure.normalized_spec`). -/

namespace DataRoute

namespace Range

section clamp
variable {x : Float}

theorem clampUnit_of_isNaN (hx : x.isNaN = true) : clampUnit x = x := by
  have hzero : ¬ x < 0.0 := fun hlt =>
    (place_le_of_isNaN hx 0.0).not_gt (lt_iff_place.mp hlt).2
  have hone : ¬ 1.0 < x := fun hlt => by
    rw [(lt_iff_place.mp hlt).1] at hx
    exact Bool.false_ne_true hx
  unfold clampUnit
  rw [if_neg hzero]
  exact if_neg hone

theorem inUnit_clampUnit (hx : x.isNaN = false) : InUnit (clampUnit x) := by
  unfold clampUnit
  dsimp only
  split
  next => exact ⟨by decide, by decide⟩
  next hzero =>
    split
    next => exact ⟨by decide, by decide⟩
    next hone =>
      refine ⟨le_iff_place.mpr ⟨hx, ?_⟩, le_iff_place.mpr ⟨rfl, ?_⟩⟩
      · exact not_lt.mp fun hlt => hzero (lt_iff_place.mpr ⟨rfl, hlt⟩)
      · exact not_lt.mp fun hlt => hone (lt_iff_place.mpr ⟨hx, hlt⟩)

theorem isNaN_clampUnit : (clampUnit x).isNaN = x.isNaN := by
  cases hx : x.isNaN with
  | true => rw [clampUnit_of_isNaN hx, hx]
  | false => exact (inUnit_clampUnit hx).isNaN

end clamp

/-- Whether the bounds that are set are finite. -/
structure IsFinite (r : Range) : Prop where
  min : ∀ low ∈ r.min, low.isFinite = true
  max : ∀ high ∈ r.max, high.isFinite = true

/-- Whether a range is so wide, and a value so far from its lower bound, that both differences
overflow. -/
def Overflows (r : Range) (value : Float) : Prop :=
  ∃ low high, r.min = some low ∧ r.max = some high ∧ low < high ∧
    (value - low).isInf = true ∧ (high - low).isInf = true

theorem exists_normalize_of_isBounded {r : Range} (h : r.isBounded = true) (value : Float) :
    ∃ x, r.normalize value = some x := by
  obtain ⟨_ | low, _ | high⟩ := r
  case some.some =>
    unfold normalize
    dsimp only
    split <;> exact ⟨_, rfl⟩
  all_goals exact nomatch h

/-- A finite value has a place between zero and one on a finite range, unless both differences
overflow. -/
theorem normalize_spec {r : Range} {value x : Float} (hr : r.IsFinite)
    (hvalue : value.isFinite = true) (h : r.normalize value = some x) :
    (x.isNaN = true ↔ r.Overflows value) ∧ (x.isNaN = false → InUnit x) := by
  obtain ⟨_ | low, _ | high⟩ := r
  case some.some =>
    have hlow := hr.min low rfl
    have hhigh := hr.max high rfl
    unfold normalize at h
    dsimp only at h
    split at h
    next hempty =>
      obtain rfl := Option.some.inj h
      refine ⟨iff_of_false Bool.false_ne_true ?_, fun _ => ⟨by decide, by decide⟩⟩
      rintro ⟨l, u, hl, hu, hlt, -⟩
      obtain rfl := Option.some.inj hl
      obtain rfl := Option.some.inj hu
      exact (le_iff_place.mp hempty).2.not_gt (lt_iff_place.mp hlt).2
    next hextent =>
      obtain rfl := Option.some.inj h
      have hlt : low < high := by
        rw [le_iff_place, not_and, not_le] at hextent
        exact lt_iff_place.mpr ⟨(isFinite_iff.mp hhigh).1, hextent (isFinite_iff.mp hlow).1⟩
      refine ⟨?_, fun hnumber => inUnit_clampUnit (isNaN_clampUnit.symm.trans hnumber)⟩
      rw [isNaN_clampUnit, isNaN_div_iff (isNaN_sub_of_isFinite hvalue hlow)
        (isNaN_sub_of_isFinite hhigh hlow) (sub_beq_zero_of_lt hlt hlow hhigh)]
      constructor
      · exact fun hinf => ⟨low, high, rfl, rfl, hlt, hinf⟩
      · rintro ⟨l, u, hl, hu, -, hinf⟩
        obtain rfl := Option.some.inj hl
        obtain rfl := Option.some.inj hu
        exact hinf
  all_goals exact nomatch h

end Range

theorem Attribute.numeric_eq_some_iff {a : Attribute} {value : Float} : a.numeric = some value ↔
    numberOfText a.value = some value ∧ value.isFinite = true :=
  Option.filter_eq_some_iff

theorem Attribute.isFinite_numeric {a : Attribute} {value : Float} (h : a.numeric = some value) :
    value.isFinite = true :=
  (Attribute.numeric_eq_some_iff.mp h).2

namespace Infrastructure
variable {infra : Infrastructure} {a : Attribute}

/-- Whether all scales have finite bounds. -/
def HasFiniteScales (infra : Infrastructure) : Prop :=
  ∀ m ∈ infra.metrics, ∀ r ∈ m.scale, r.IsFinite

/-- Whether the place of an attribute on the scale of its metric is lost to overflow. -/
def Overflows (infra : Infrastructure) (a : Attribute) : Prop :=
  ∃ scale value, infra.scale? a = some scale ∧ a.numeric = some value ∧ scale.Overflows value

theorem scale?_eq_some_iff {scale : Range} : infra.scale? a = some scale ↔
    ∃ name metric, a.metric = some name ∧ infra.metric? name = some metric ∧
      metric.scale = some scale ∧ scale.isBounded = true := by
  unfold scale?
  simp only [Option.bind_eq_bind, Option.bind_eq_some_iff, Option.filter_eq_some_iff,
    exists_and_left]

theorem HasFiniteScales.isFinite {scale : Range} (h : infra.HasFiniteScales)
    (hscale : infra.scale? a = some scale) : scale.IsFinite := by
  obtain ⟨name, metric, -, hfound, hmetric, -⟩ := scale?_eq_some_iff.mp hscale
  have hmem : metric ∈ infra.metrics := List.mem_reverse.mp (List.mem_of_find?_eq_some hfound)
  exact h metric hmem scale hmetric

theorem normalized_eq_some_iff {x : Float} : infra.normalized a = some x ↔
    ∃ scale value, infra.scale? a = some scale ∧ a.numeric = some value ∧
      scale.normalize value = some x := by
  unfold normalized
  simp only [Option.bind_eq_bind, Option.bind_eq_some_iff, exists_and_left]

theorem exists_normalized_iff : (∃ x, infra.normalized a = some x) ↔
    (∃ scale, infra.scale? a = some scale) ∧ ∃ value, a.numeric = some value := by
  constructor
  · rintro ⟨x, hx⟩
    obtain ⟨scale, value, hscale, hvalue, -⟩ := normalized_eq_some_iff.mp hx
    exact ⟨⟨scale, hscale⟩, value, hvalue⟩
  · rintro ⟨⟨scale, hscale⟩, value, hvalue⟩
    obtain ⟨-, -, -, -, -, hbounded⟩ := scale?_eq_some_iff.mp hscale
    obtain ⟨x, hx⟩ := Range.exists_normalize_of_isBounded hbounded value
    exact ⟨x, normalized_eq_some_iff.mpr ⟨scale, value, hscale, hvalue, hx⟩⟩

theorem exists_normalized_of_overflows (h : infra.Overflows a) :
    ∃ x, infra.normalized a = some x := by
  obtain ⟨scale, value, hscale, hvalue, -⟩ := h
  exact exists_normalized_iff.mpr ⟨⟨scale, hscale⟩, value, hvalue⟩

/-- An attribute with a place on its scale has one between zero and one, unless it is lost to
overflow. -/
theorem normalized_spec {x : Float} (hscales : infra.HasFiniteScales)
    (h : infra.normalized a = some x) :
    (x.isNaN = true ↔ infra.Overflows a) ∧ (x.isNaN = false → InUnit x) := by
  obtain ⟨scale, value, hscale, hvalue, hx⟩ := normalized_eq_some_iff.mp h
  obtain ⟨hnan, hunit⟩ := Range.normalize_spec (hscales.isFinite hscale)
    (Attribute.isFinite_numeric hvalue) hx
  refine ⟨hnan.trans ⟨fun hoverflows => ⟨scale, value, hscale, hvalue, hoverflows⟩, ?_⟩, hunit⟩
  rintro ⟨s, v, hs, hv, hoverflows⟩
  obtain rfl := Option.some.inj (hscale.symm.trans hs)
  obtain rfl := Option.some.inj (hvalue.symm.trans hv)
  exact hoverflows

end Infrastructure

end DataRoute
