import DataRoute.Restriction
import DataRoute.Proofs.Scales

/-! # Ranges and the values of attributes

A restriction to a range reads the value of an attribute from its text, as comparing plans does, but
does not ask whether it is finite.  An infinity passes a range that is open on its side, and what is
no number passes a range that is open on both (`Range.LetsThrough`).  So a range is met by the
finite values that it contains and by those others (`satisfiedBy_range_iff`), which a range with
finite bounds on both sides keeps out (`Range.not_letsThrough_of_isBounded`). -/

namespace DataRoute

open Decimal (infinity)

/-! ### Comparing with infinities -/

section infinities
variable {x : Float}

theorem eq_infinity_iff : x = infinity ↔ unpacked x = .infinity .positive :=
  ⟨fun h => h ▸ rfl, fun h => eq_of_unpacked_eq h⟩

theorem eq_neg_infinity_iff : x = -infinity ↔ unpacked x = .infinity .negative :=
  ⟨fun h => h ▸ rfl, fun h => eq_of_unpacked_eq h⟩

theorem isInf_iff_eq : x.isInf = true ↔ x = infinity ∨ x = -infinity := by
  rw [isInf_iff, eq_infinity_iff, eq_neg_infinity_iff]
  constructor
  · rintro ⟨_ | _, hs⟩
    · exact .inr hs
    · exact .inl hs
  · rintro (hs | hs) <;> exact ⟨_, hs⟩

theorem le_infinity_iff : x ≤ infinity ↔ x.isNaN = false := by
  rw [le_iff_place, isNaN_eq_false_iff, isNaN_eq_false_iff]
  unfold place
  rw [eq_infinity_iff.mp rfl]
  rcases unpacked x with (_ | _) | _ | _ | ⟨_ | _, m, e, hm⟩ <;>
    simp [placeOf, Prod.Lex.toLex_le_toLex]

theorem infinity_le_iff : infinity ≤ x ↔ x = infinity := by
  rw [le_iff_place, isNaN_eq_false_iff, eq_infinity_iff]
  unfold place
  rw [eq_infinity_iff.mp rfl]
  rcases unpacked x with (_ | _) | _ | _ | ⟨_ | _, m, e, hm⟩ <;>
    simp [placeOf, Prod.Lex.toLex_le_toLex]

theorem neg_infinity_le_iff : -infinity ≤ x ↔ x.isNaN = false := by
  rw [le_iff_place, isNaN_eq_false_iff]
  unfold place
  rw [eq_neg_infinity_iff.mp rfl]
  rcases unpacked x with (_ | _) | _ | _ | ⟨_ | _, m, e, hm⟩ <;>
    simp [placeOf, Prod.Lex.toLex_le_toLex]

theorem le_neg_infinity_iff : x ≤ -infinity ↔ x = -infinity := by
  rw [le_iff_place, isNaN_eq_false_iff, eq_neg_infinity_iff]
  unfold place
  rw [eq_neg_infinity_iff.mp rfl]
  rcases unpacked x with (_ | _) | _ | _ | ⟨_ | _, m, e, hm⟩ <;>
    simp [placeOf, Prod.Lex.toLex_le_toLex]

end infinities

/-! ### What a range lets through -/

namespace Range

/-- Whether a range contains a float that is not finite: what is no number if it is open on both
sides, and an infinity if it is open on its side or ends there with this infinity, and does not end
with what is no number on the other. -/
inductive LetsThrough (r : Range) : Float → Prop
  | noNumber {x : Float} (hx : x.isNaN = true) (hmin : r.min = none) (hmax : r.max = none) :
      LetsThrough r x
  | above (hmin : ∀ low ∈ r.min, low.isNaN = false) (hmax : ∀ high ∈ r.max, high = infinity) :
      LetsThrough r infinity
  | below (hmin : ∀ low ∈ r.min, low = -infinity) (hmax : ∀ high ∈ r.max, high.isNaN = false) :
      LetsThrough r (-infinity)

variable {r : Range} {x : Float}

theorem contains_iff : r.contains x = true ↔
    (∀ low ∈ r.min, low ≤ x) ∧ ∀ high ∈ r.max, x ≤ high := by
  unfold contains
  simp [Option.all_eq_true]

theorem isFinite_of_letsThrough (h : r.LetsThrough x) : x.isFinite = false := by
  rw [← Bool.not_eq_true, isFinite_iff]
  rintro ⟨hnumber, hinf⟩
  cases h with
  | noNumber hx => exact Bool.false_ne_true (hnumber.symm.trans hx)
  | above => exact Bool.false_ne_true (hinf.symm.trans (isInf_iff_eq.mpr (.inl rfl)))
  | below => exact Bool.false_ne_true (hinf.symm.trans (isInf_iff_eq.mpr (.inr rfl)))

theorem contains_iff_letsThrough (hx : x.isFinite = false) :
    r.contains x = true ↔ r.LetsThrough x := by
  rw [contains_iff]
  constructor
  · rintro ⟨hmin, hmax⟩
    cases hnumber : x.isNaN with
    | true =>
        refine .noNumber hnumber (Option.eq_none_iff_forall_not_mem.mpr fun low hlow => ?_)
          (Option.eq_none_iff_forall_not_mem.mpr fun high hhigh => ?_)
        · exact Bool.false_ne_true ((le_iff_place.mp (hmin low hlow)).1.symm.trans hnumber)
        · exact Bool.false_ne_true ((isNaN_of_le (hmax high hhigh)).symm.trans hnumber)
    | false =>
        have hinf : x.isInf = true := by
          by_contra hinf
          rw [isFinite_iff.mpr ⟨hnumber, Bool.not_eq_true _ ▸ hinf⟩] at hx
          exact Bool.false_ne_true hx.symm
        rcases isInf_iff_eq.mp hinf with rfl | rfl
        · exact .above (fun low hlow => le_infinity_iff.mp (hmin low hlow))
            fun high hhigh => infinity_le_iff.mp (hmax high hhigh)
        · exact .below (fun low hlow => le_neg_infinity_iff.mp (hmin low hlow))
            fun high hhigh => neg_infinity_le_iff.mp (hmax high hhigh)
  · rintro (⟨-, hmin, hmax⟩ | ⟨hmin, hmax⟩ | ⟨hmin, hmax⟩)
    · simp [hmin, hmax]
    · exact ⟨fun low hlow => le_infinity_iff.mpr (hmin low hlow),
        fun high hhigh => infinity_le_iff.mpr (hmax high hhigh)⟩
    · exact ⟨fun low hlow => le_neg_infinity_iff.mpr (hmin low hlow),
        fun high hhigh => neg_infinity_le_iff.mpr (hmax high hhigh)⟩

theorem not_letsThrough_of_isBounded (hfinite : r.IsFinite) (hbounded : r.isBounded = true) :
    ¬ r.LetsThrough x := by
  intro h
  unfold isBounded at hbounded
  rw [Bool.and_eq_true, Option.isSome_iff_exists, Option.isSome_iff_exists] at hbounded
  obtain ⟨⟨low, hlow⟩, ⟨high, hhigh⟩⟩ := hbounded
  cases h with
  | noNumber hx hmin => exact nomatch hlow.symm.trans hmin
  | above hmin hmax =>
      have hinfinite := hfinite.max high hhigh
      rw [hmax high hhigh] at hinfinite
      exact absurd hinfinite (by decide)
  | below hmin hmax =>
      have hinfinite := hfinite.min low hlow
      rw [hmin low hlow] at hinfinite
      exact absurd hinfinite (by decide)

end Range

/-! ### Restrictions on attributes -/

section restriction
variable {infra : Infrastructure} {subject : Subject} {property : String} {a : Attribute}
  {range : Range}

theorem satisfiedBy_range_eq (h : infra.attribute? property subject.kind subject.name = some a) :
    Restriction.satisfiedBy ⟨property, .range range⟩ subject infra =
      (numberOfText a.value).any range.contains := by
  have hvalue : infra.value? property subject.kind subject.name = some a.value := by
    unfold Infrastructure.value?
    rw [h]
    rfl
  unfold Restriction.satisfiedBy Infrastructure.propertyOf
  rw [hvalue]
  rfl

/-- A range is met by the finite values that it contains, and by whatever else it lets through. -/
theorem satisfiedBy_range_iff
    (h : infra.attribute? property subject.kind subject.name = some a) :
    Restriction.satisfiedBy ⟨property, .range range⟩ subject infra = true ↔
      (∃ x, a.numeric = some x ∧ range.contains x = true) ∨
        ∃ x, numberOfText a.value = some x ∧ range.LetsThrough x := by
  rw [satisfiedBy_range_eq h, Option.any_eq_true]
  constructor
  · rintro ⟨x, hx, hcontains⟩
    cases hfinite : x.isFinite with
    | true => exact .inl ⟨x, Attribute.numeric_eq_some_iff.mpr ⟨hx, hfinite⟩, hcontains⟩
    | false => exact .inr ⟨x, hx, (Range.contains_iff_letsThrough hfinite).mp hcontains⟩
  · rintro (⟨x, hx, hcontains⟩ | ⟨x, hx, hthrough⟩)
    · exact ⟨x, (Attribute.numeric_eq_some_iff.mp hx).1, hcontains⟩
    · have hfinite := Range.isFinite_of_letsThrough hthrough
      exact ⟨x, hx, (Range.contains_iff_letsThrough hfinite).mpr hthrough⟩

/-- **A range reads an attribute as its number, except for what is not finite.**  A restriction to
a range, on a property that is an attribute of the subject, is met exactly if the attribute has a
finite value that lies in the range, or if its text stands for an infinity, or for what is no
number, that the range lets through.  A range with finite bounds on both sides lets nothing
through, so that only finite values meet it. -/
theorem attribute_in_range_iff
    (h : infra.attribute? property subject.kind subject.name = some a) :
    (Restriction.satisfiedBy ⟨property, .range range⟩ subject infra = true ↔
      (∃ x, a.numeric = some x ∧ range.contains x = true) ∨
        ∃ x, numberOfText a.value = some x ∧ range.LetsThrough x) ∧
    (range.IsFinite → range.isBounded = true →
      (Restriction.satisfiedBy ⟨property, .range range⟩ subject infra = true ↔
        ∃ x, a.numeric = some x ∧ range.contains x = true)) := by
  refine ⟨satisfiedBy_range_iff h, fun hfinite hbounded => ?_⟩
  rw [satisfiedBy_range_iff h]
  refine or_iff_left ?_
  rintro ⟨x, -, hthrough⟩
  exact Range.not_letsThrough_of_isBounded hfinite hbounded hthrough

end restriction

namespace Sample

/-- The cost of the cluster "dear", as a text. -/
def cost (value : String) : Attribute :=
  ⟨"cost", none, none, value, .cluster, some "dear", []⟩

/-- An installation that knows nothing but this cost. -/
def priced (value : String) : Infrastructure := ⟨[cost value], []⟩

/-- The cluster with a cost. -/
def pricedCluster : Subject := Cluster.subject ⟨"dear", "theshire", none, []⟩

/-- A cost has to lie in a range. -/
def costIn (min max : Option Float) : Restriction := ⟨"cost", .range ⟨min, max⟩⟩

end Sample

theorem sample_range :
    (Sample.priced " 12.5 ").attribute? "cost" .cluster "dear" = some (Sample.cost " 12.5 ") ∧
    (Range.mk (some 5.0) (some 50.0)).IsFinite ∧
    (Sample.costIn (some 5.0) (some 50.0)).satisfiedBy Sample.pricedCluster
      (Sample.priced " 12.5 ") = true ∧
    ∃ x, (Sample.cost " 12.5 ").numeric = some x ∧
      (Range.mk (some 5.0) (some 50.0)).contains x = true := by
  have h : (Sample.priced " 12.5 ").attribute? "cost" .cluster "dear" =
      some (Sample.cost " 12.5 ") := by decide
  have hfinite : (Range.mk (some 5.0) (some 50.0)).IsFinite :=
    ⟨fun low hlow => Option.some.inj hlow ▸ by decide,
      fun high hhigh => Option.some.inj hhigh ▸ by decide⟩
  have hmet : (Sample.costIn (some 5.0) (some 50.0)).satisfiedBy Sample.pricedCluster
      (Sample.priced " 12.5 ") = true := by decide +kernel
  exact ⟨h, hfinite, hmet, ((attribute_in_range_iff h).2 hfinite rfl).mp hmet⟩

/-- An infinite cost meets a range without upper bound, and a cost that is no number one without
bounds, although both costs count as missing when plans are compared. -/
theorem sample_range_not_finite :
    (Sample.priced "inf").attribute? "cost" .cluster "dear" = some (Sample.cost "inf") ∧
    (Sample.cost "inf").numeric.isNone = true ∧
    (Sample.costIn (some 5.0) none).satisfiedBy Sample.pricedCluster
      (Sample.priced "inf") = true ∧
    (Sample.priced "NaN").attribute? "cost" .cluster "dear" = some (Sample.cost "NaN") ∧
    (Sample.cost "NaN").numeric.isNone = true ∧
    (Sample.costIn none none).satisfiedBy Sample.pricedCluster (Sample.priced "NaN") = true :=
  ⟨by decide, by decide +kernel, by decide +kernel, by decide, by decide +kernel,
    by decide +kernel⟩

end DataRoute
