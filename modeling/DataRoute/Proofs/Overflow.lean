import DataRoute.Proofs.Scales
import DataRoute.Proofs.Totals

/-! # Totals that are no numbers

Values and bounds are finite, but sums and products are not checked for overflow.  What one object
contributes is never infinite, and is no number only if its place on a scale is lost
(`contribution_spec`).  The value of a plan for a goal may become infinite, and its total is no
number exactly if some goal spoils it: by a value that is no number, by an infinite value of weight
zero, or by an infinite value against an infinite total of the other sign
(`total_number_unless_spoiled`). -/

namespace DataRoute

variable {infra : Infrastructure} {request : Request}

/-! ### Values -/

/-- What an object contributes is not infinite, and a number unless its place on its scale is
lost. -/
theorem contribution_spec {directive : Directive} {a : Attribute} {x : Float}
    (hscales : infra.HasFiniteScales) (h : contribution infra directive a = some x) :
    x.isInf = false ∧ (x.isNaN = true ↔ infra.Overflows a) := by
  unfold contribution at h
  obtain ⟨value, hvalue, hx⟩ := Option.bind_eq_some_iff.mp h
  have hx := Option.some.inj hx
  have hfinite := Attribute.isFinite_numeric hvalue
  cases hplace : infra.normalized a with
  | none =>
      rw [hplace] at hx
      have hkept : ¬ infra.Overflows a := fun hoverflows => by
        obtain ⟨y, hy⟩ := Infrastructure.exists_normalized_of_overflows hoverflows
        exact nomatch hplace.symm.trans hy
      have hresult : x.isFinite = true := by
        cases directive with
        | minimize => exact hx ▸ isFinite_neg hfinite
        | maximize => exact hx ▸ hfinite
      obtain ⟨hnumber, hinf⟩ := isFinite_iff.mp hresult
      exact ⟨hinf, iff_of_false (Bool.not_eq_true _ ▸ hnumber) hkept⟩
  | some y =>
      rw [hplace] at hx
      obtain ⟨hlost, hunit⟩ := Infrastructure.normalized_spec hscales hplace
      rw [← hlost]
      cases hnumber : y.isNaN with
      | true =>
          have hresult : x.isNaN = true := by
            cases directive with
            | minimize => exact hx ▸ isNaN_sub_of_isNaN hnumber
            | maximize => exact hx ▸ hnumber
          exact ⟨isInf_of_isNaN hresult, iff_of_true hresult rfl⟩
      | false =>
          have hone : InUnit 1.0 := ⟨by decide, by decide⟩
          have hresult : x.isFinite = true := by
            cases directive with
            | minimize => exact hx ▸ isFinite_sub_of_inUnit hone (hunit hnumber)
            | maximize => exact hx ▸ (hunit hnumber).isFinite
          obtain ⟨hresult, hinf⟩ := isFinite_iff.mp hresult
          exact ⟨hinf, by rw [hresult]⟩

/-- Adding what is not infinite gives a number unless one of the summands is none. -/
theorem isNaN_sumAll_iff {total sum : Float} {values : List (Option Float)}
    (hvalues : ∀ x, some x ∈ values → x.isInf = false) (h : sumAll total values = some sum) :
    sum.isNaN = true ↔ total.isNaN = true ∨ ∃ x, some x ∈ values ∧ x.isNaN = true := by
  induction values generalizing total with
  | nil =>
      obtain rfl := Option.some.inj h
      simp
  | cons v rest ih =>
      cases v with
      | none => exact nomatch h
      | some x =>
          have hx : x.isInf = false := hvalues x List.mem_cons_self
          have hmeet : ¬ Opposed total x := fun hopposed => by
            rw [hopposed.2.1] at hx
            exact nomatch hx
          rw [ih (fun y hy => hvalues y (List.mem_cons_of_mem _ hy)) h, isNaN_add_iff,
            or_iff_left hmeet, or_assoc]
          refine or_congr_right ?_
          simp only [List.mem_cons, Option.some.injEq, or_and_right, exists_or, exists_eq_left]

theorem exists_contribution_of_overflows {a : Attribute} (h : infra.Overflows a)
    (directive : Directive) : ∃ x, contribution infra directive a = some x := by
  obtain ⟨scale, value, -, hvalue, -⟩ := h
  have hnumber : HasNumber (some a) := ⟨a, rfl, by rw [hvalue]; rfl⟩
  have hsome : ((some a).bind (contribution infra directive)).isSome = true :=
    (isSome_contribution_iff infra).mpr hnumber
  rw [Option.bind_some] at hsome
  exact Option.isSome_iff_exists.mp hsome

theorem isNaN_sumAll_contribution_iff {directive : Directive} {as : List (Option Attribute)}
    {x : Float} (hscales : infra.HasFiniteScales)
    (h : sumAll 0.0 (as.map fun a => a.bind (contribution infra directive)) = some x) :
    x.isNaN = true ↔ ∃ a, some a ∈ as ∧ infra.Overflows a := by
  have hmem : ∀ v, some v ∈ as.map (fun a => a.bind (contribution infra directive)) ↔
      ∃ a, some a ∈ as ∧ contribution infra directive a = some v := by
    intro v
    simp only [List.mem_map, Option.bind_eq_some_iff]
    constructor
    · rintro ⟨_, ha, a, rfl, hv⟩
      exact ⟨a, ha, hv⟩
    · rintro ⟨a, ha, hv⟩
      exact ⟨_, ha, a, rfl, hv⟩
  have hvalues : ∀ v, some v ∈ as.map (fun a => a.bind (contribution infra directive)) →
      v.isInf = false := by
    intro v hv
    obtain ⟨a, -, hcontribution⟩ := (hmem v).mp hv
    exact (contribution_spec hscales hcontribution).1
  rw [isNaN_sumAll_iff hvalues h]
  constructor
  · rintro (hzero | ⟨v, hv, hnan⟩)
    · exact absurd hzero (by decide)
    · obtain ⟨a, ha, hcontribution⟩ := (hmem v).mp hv
      exact ⟨a, ha, (contribution_spec hscales hcontribution).2.mp hnan⟩
  · rintro ⟨a, ha, hoverflows⟩
    obtain ⟨v, hv⟩ := exists_contribution_of_overflows hoverflows directive
    exact .inr ⟨v, (hmem v).mpr ⟨a, ha, hv⟩, (contribution_spec hscales hv).2.mpr hoverflows⟩

/-! ### What is credited -/

/-- Whether a plan touches an object whose place on a scale is lost to overflow. -/
def TouchesOverflow (infra : Infrastructure) (request : Request) (name : String) (plan : Plan) :
    Prop :=
  ∃ a, some a ∈ touchedAttributes infra request name (infra.objectKinds name) plan ∧
    infra.Overflows a

section credit
variable {goal : Goal} {plan : Plan} {plans : List Plan} {x : Float}

theorem isNaN_valueOf_iff (hscales : infra.HasFiniteScales)
    (h : goal.valueOf infra request plan = some x) :
    x.isNaN = true ↔ TouchesOverflow infra request goal.attributeName plan :=
  isNaN_sumAll_contribution_iff hscales h

theorem counts_of_credit (h : credit infra request plans plan goal = some x) :
    goal.counts infra = true := by
  by_contra hcounts
  rw [credit_eq_none (.inl (Bool.not_eq_true _ ▸ hcounts))] at h
  exact nomatch h

theorem inUnit_weight (h : goal.counts infra = true) : InUnit goal.weight := by
  unfold Goal.counts at h
  simp only [Bool.and_eq_true, decide_eq_true_eq] at h
  exact ⟨h.1.1, h.1.2⟩

/-- A plan is credited with what is no number if its own value is none or, where it has no value,
if no rival has a value that is one. -/
theorem isNaN_credit_iff (hscales : infra.HasFiniteScales) (hplan : plan ∈ plans)
    (h : credit infra request plans plan goal = some x) :
    x.isNaN = true ↔
      (Measured infra request goal.attributeName plan →
        TouchesOverflow infra request goal.attributeName plan) ∧
      (¬ Measured infra request goal.attributeName plan →
        ∀ rival ∈ plans, Measured infra request goal.attributeName rival →
          TouchesOverflow infra request goal.attributeName rival) := by
  have hcounts := counts_of_credit h
  by_cases hmeasured : Measured infra request goal.attributeName plan
  · rw [credit_of_measured hplan hcounts hmeasured] at h
    simp only [hmeasured, isNaN_valueOf_iff hscales h, true_imp_iff, not_true, false_imp_iff,
      and_true]
  · have hrival : ∃ rival ∈ plans, Measured infra request goal.attributeName rival := by
      by_contra hnone
      push Not at hnone
      rw [credit_eq_none (.inr hnone)] at h
      exact nomatch h
    obtain ⟨least, hleast, hcredit⟩ := credit_of_not_measured hcounts hmeasured hrival
    obtain rfl := Option.some.inj (h.symm.trans hcredit)
    simp only [hmeasured, false_imp_iff, true_and, not_false_iff, true_imp_iff]
    constructor
    · intro hnan rival hmem hrival
      obtain ⟨y, hy⟩ := Option.isSome_iff_exists.mp ((isSome_valueOf_iff infra request).mpr hrival)
      rw [← isNaN_valueOf_iff hscales hy]
      by_contra hnumber
      have hle := hleast.least rival hmem y hy (Bool.not_eq_true _ ▸ hnumber)
      rw [isNaN_of_le hle] at hnan
      exact Bool.false_ne_true hnan
    · intro hall
      obtain ⟨rival, hmem, hvalue⟩ := hleast.attained
      have hrival : Measured infra request goal.attributeName rival :=
        (isSome_valueOf_iff infra request).mp (by rw [hvalue]; rfl)
      exact (isNaN_valueOf_iff hscales hvalue).mpr (hall rival hmem hrival)

end credit

/-! ### Totals -/

/-- Whether adding what a goal is credited with makes a total what is no number: it is none itself,
or infinite with weight zero, or an infinity of the other sign than the total before. -/
def Spoils (credits : Goal → Option Float) (before : List Goal) (goal : Goal) : Prop :=
  ∃ x, credits goal = some x ∧
    (x.isNaN = true ∨ x.isInf = true ∧ (goal.weight == 0.0) = true ∨
      Opposed (weigh credits before) (goal.weight * x))

theorem weigh_concat (credits : Goal → Option Float) (goals : List Goal) (goal : Goal) :
    weigh credits (goals ++ [goal]) =
      (credits goal).elim (weigh credits goals) fun x => weigh credits goals + goal.weight * x := by
  unfold weigh
  rw [List.foldl_append]
  rfl

/-- A weighted sum is a number unless some goal spoils it. -/
theorem isNaN_weigh_iff {credits : Goal → Option Float} {goals : List Goal}
    (hweights : ∀ goal ∈ goals, ∀ x, credits goal = some x → goal.weight.isFinite = true) :
    (weigh credits goals).isNaN = true ↔
      ∃ before goal, before ++ [goal] <+: goals ∧ Spoils credits before goal := by
  induction goals using List.reverseRecOn with
  | nil =>
      have hzero : (0.0 : Float).isNaN = false := rfl
      refine iff_of_false (Bool.not_eq_true _ ▸ hzero) ?_
      rintro ⟨before, goal, hprefix, -⟩
      exact absurd (List.prefix_nil.mp hprefix) (by simp)
  | append_singleton goals last ih =>
      have ih := ih fun goal hgoal => hweights goal (List.mem_append_left _ hgoal)
      have hstep : (weigh credits (goals ++ [last])).isNaN = true ↔
          (weigh credits goals).isNaN = true ∨ Spoils credits goals last := by
        rw [weigh_concat]
        unfold Spoils
        cases hcredit : credits last with
        | none => simp
        | some x =>
            have hfinite := hweights last (List.mem_append_right _ List.mem_cons_self) x hcredit
            show (weigh credits goals + last.weight * x).isNaN = true ↔ _
            rw [isNaN_add_iff, isNaN_mul_iff hfinite, or_assoc]
            simp only [Option.some.injEq, exists_eq_left']
      rw [hstep, ih]
      constructor
      · rintro (⟨before, goal, hprefix, hspoils⟩ | hspoils)
        · exact ⟨before, goal, hprefix.trans (List.prefix_append _ _), hspoils⟩
        · exact ⟨goals, last, List.prefix_rfl, hspoils⟩
      · rintro ⟨before, goal, hprefix, hspoils⟩
        obtain hwhole | hprefix := List.prefix_concat_iff.mp hprefix
        · obtain ⟨rfl, hlast⟩ := List.append_inj' hwhole rfl
          obtain rfl := List.singleton_inj.mp hlast
          exact .inr hspoils
        · exact .inl ⟨before, goal, hprefix, hspoils⟩

theorem isFinite_mul_weight {goal : Goal} {x : Float} (hcounts : goal.counts infra = true)
    (hx : x.isFinite = true) : (goal.weight * x).isFinite = true :=
  isFinite_mul_of_inUnit (inUnit_weight hcounts) hx

/-- **A total is a number unless a goal spoils it.**  Let all scales have finite bounds.  Then the
total of a plan is no number exactly if some goal spoils the sum of those before it.  What the plan
is credited with is no number exactly if it touches, or if it has no value itself and all its rivals
with one touch, an object whose place on a scale is lost to overflow.  So as long as everything that
the plan is credited with is finite, its total is a number, whatever the directives and the weights
are. -/
theorem total_number_unless_spoiled (infra : Infrastructure) (request : Request)
    (plans : List Plan) (goals : List Goal) (hscales : infra.HasFiniteScales) {i : Nat}
    {plan : Plan} (hplan : plans[i]? = some plan) :
    ∃ total, (scores infra request plans goals)[i]? = some total ∧
      (total.isNaN = true ↔ ∃ before goal, before ++ [goal] <+: goals ∧
        Spoils (credit infra request plans plan) before goal) ∧
      (∀ goal x, credit infra request plans plan goal = some x →
        (x.isNaN = true ↔
          (Measured infra request goal.attributeName plan →
            TouchesOverflow infra request goal.attributeName plan) ∧
          (¬ Measured infra request goal.attributeName plan →
            ∀ rival ∈ plans, Measured infra request goal.attributeName rival →
              TouchesOverflow infra request goal.attributeName rival))) ∧
      ((∀ goal ∈ goals, ∀ x, credit infra request plans plan goal = some x →
        x.isFinite = true) → total.isNaN = false) := by
  have hmem : plan ∈ plans := List.mem_of_getElem? hplan
  have hspoiled : (weigh (credit infra request plans plan) goals).isNaN = true ↔ _ :=
    isNaN_weigh_iff fun goal _ x hx => (inUnit_weight (counts_of_credit hx)).isFinite
  refine ⟨_, getElem?_scores goals hplan, hspoiled,
    fun goal x hx => isNaN_credit_iff hscales hmem hx, fun hfinite => ?_⟩
  rw [← Bool.not_eq_true, hspoiled]
  rintro ⟨before, goal, hprefix, x, hx, hspoils⟩
  have hgoal : goal ∈ goals := hprefix.subset (List.mem_append_right _ List.mem_cons_self)
  have hcredit := hfinite goal hgoal x hx
  obtain ⟨hnumber, hinf⟩ := isFinite_iff.mp hcredit
  have hproduct := isFinite_iff.mp (isFinite_mul_weight (counts_of_credit hx) hcredit)
  obtain hnan | ⟨hinfinite, -⟩ | ⟨-, hopposed, -⟩ := hspoils
  · exact Bool.false_ne_true (hnumber.symm.trans hnan)
  · exact Bool.false_ne_true (hinf.symm.trans hinfinite)
  · exact Bool.false_ne_true (hproduct.2.symm.trans hopposed)

namespace Sample

/-- The dear cluster has the cost of a great number, on a scale if one is named. -/
def costly (metric : Option String) : Infrastructure where
  attributes := [⟨"cost", none, metric, "1e308", .cluster, some "dear", []⟩]
  metrics := [⟨"wide", .numeric, none, some ⟨some (-1e308), some 1e308⟩⟩]

/-- A low cost and a high one at the same time. -/
def conflicting : List Goal := [⟨"cost", .minimize, 1.0⟩, ⟨"cost", .maximize, 1.0⟩]

theorem hasFiniteScales_costly (metric : Option String) : (costly metric).HasFiniteScales := by
  intro m hm r hr
  obtain rfl := List.mem_singleton.mp hm
  obtain rfl := Option.some.inj hr
  refine ⟨fun low hlow => ?_, fun high hhigh => ?_⟩
  · obtain rfl := Option.some.inj hlow
    decide +kernel
  · obtain rfl := Option.some.inj hhigh
    decide +kernel

end Sample

/-- The costs of two legs overflow, so that the second of the goals spoils the total. -/
theorem sample_total_spoiled :
    (Sample.costly none).HasFiniteScales ∧
    ∃ before goal, before ++ [goal] <+: Sample.conflicting ∧
      Spoils (credit (Sample.costly none) Sample.request
        [Sample.planIn Sample.dear Sample.dear] (Sample.planIn Sample.dear Sample.dear))
        before goal := by
  have hscales := Sample.hasFiniteScales_costly none
  obtain ⟨total, htotal, hspoiled, -, -⟩ := total_number_unless_spoiled (Sample.costly none)
    Sample.request [Sample.planIn Sample.dear Sample.dear] Sample.conflicting hscales
    (i := 0) rfl
  refine ⟨hscales, hspoiled.mp ?_⟩
  have hnan : (scores (Sample.costly none) Sample.request
      [Sample.planIn Sample.dear Sample.dear] Sample.conflicting)[0]?.map Float.isNaN =
        some true := by
    decide +kernel
  rw [htotal] at hnan
  exact Option.some.inj hnan

/-- Conflicting goals, a goal of weight zero and a wide scale each make a total what is no
number. -/
theorem sample_totals_no_numbers :
    (Sample.costly none).HasFiniteScales ∧ (Sample.costly (some "wide")).HasFiniteScales ∧
    (scores (Sample.costly none) Sample.request [Sample.planIn Sample.dear Sample.dear]
      Sample.conflicting).map Float.isNaN = [true] ∧
    (scores (Sample.costly none) Sample.request [Sample.planIn Sample.dear Sample.dear]
      [⟨"cost", .maximize, 0.0⟩]).map Float.isNaN = [true] ∧
    (scores (Sample.costly (some "wide")) Sample.request [Sample.planIn Sample.dear Sample.dear]
      [⟨"cost", .maximize, 1.0⟩]).map Float.isNaN = [true] :=
  ⟨Sample.hasFiniteScales_costly none, Sample.hasFiniteScales_costly (some "wide"),
    by decide +kernel, by decide +kernel, by decide +kernel⟩

end DataRoute
