import DataRoute.Proofs.RegistryOrder

/-! # Totals

For each goal that counts, a plan is credited with its own value or, if it touches an object without
one, with the least value among its rivals (`credit`).  A plan has a value of its own exactly if
everything that it touches has a number for the attribute (`isSome_valueOf_iff`), so rivals matter
to its total only where a number is missing (`scores_eq_weigh_credit`).  The plan that is selected
is the first of those with the greatest total (`selectBest_first_greatest`). -/

namespace DataRoute

/-! ### What is measured -/

/-- Whether an attribute is there and its value is a number. -/
def HasNumber (a : Option Attribute) : Prop :=
  ∃ known, a = some known ∧ known.numeric.isSome = true

section values
variable (infra : Infrastructure) (request : Request)

/-- Whether everything that a plan touches has a number for an attribute: clusters, modules,
accounts and moves between regions, as far as the attribute is given for that kind of object. -/
structure Measured (name : String) (plan : Plan) : Prop where
  clusters : .cluster ∈ infra.objectKinds name → ∀ l ∈ plan,
    HasNumber (infra.attribute? name .cluster l.cluster.name)
  modules : .module ∈ infra.objectKinds name → ∀ l ∈ plan,
    HasNumber (infra.attribute? name .module l.leg.offer.module.name)
  accounts : .storageAccount ∈ infra.objectKinds name → ∀ l ∈ plan, ∀ a ∈ l.account,
    HasNumber (infra.attribute? name .storageAccount a.name)
  moves : .regionPair ∈ infra.objectKinds name → ∀ p ∈ hops request plan,
    HasNumber (infra.between? name p.1 p.2)

/-- The value of a plan for a goal, on all kinds of object that its attribute is given for. -/
def Goal.valueOf (goal : Goal) (plan : Plan) : Option Float :=
  goalValue infra request goal (infra.objectKinds goal.attributeName) plan

theorem isSome_sumAll_iff {total : Float} {values : List (Option Float)} :
    (sumAll total values).isSome = true ↔ ∀ v ∈ values, v.isSome = true := by
  induction values generalizing total with
  | nil => simp [sumAll]
  | cons v rest ih =>
      rw [List.forall_mem_cons]
      cases v with
      | none => simp [sumAll]
      | some x => simp [sumAll, ih]

theorem isSome_contribution_iff {directive : Directive} {a : Option Attribute} :
    (a.bind (contribution infra directive)).isSome = true ↔ HasNumber a := by
  unfold HasNumber
  cases a with
  | none => simp
  | some known =>
      rw [Option.bind_some]
      unfold contribution
      cases hnumeric : known.numeric <;> simp [hnumeric]

theorem forall_mem_if_iff {α : Type} {p : α → Prop} {c : Prop} [Decidable c] {items : List α} :
    (∀ a ∈ if c then items else [], p a) ↔ (c → ∀ a ∈ items, p a) := by
  split
  next hc => exact (imp_iff_right hc).symm
  next hc => exact iff_of_true (fun a ha => absurd ha List.not_mem_nil) fun h => absurd h hc

theorem forall_mem_legAttributes_iff {p : Option Attribute → Prop} {name : String}
    {kinds : List ObjectKind} {l : PlacedLeg} :
    (∀ a ∈ legAttributes infra name kinds l, p a) ↔
      (.cluster ∈ kinds → p (infra.attribute? name .cluster l.cluster.name)) ∧
      (.module ∈ kinds → p (infra.attribute? name .module l.leg.offer.module.name)) ∧
      (.storageAccount ∈ kinds → ∀ a ∈ l.account,
        p (infra.attribute? name .storageAccount a.name)) := by
  unfold legAttributes
  simp only [List.forall_mem_append, forall_mem_if_iff, List.contains_iff_mem,
    List.forall_mem_singleton, and_assoc, Option.mem_toList, Option.mem_def, Option.map_eq_some_iff,
    forall_exists_index, and_imp, forall_apply_eq_imp_iff₂]

theorem forall_mem_touchedAttributes_iff {name : String} {plan : Plan} :
    (∀ a ∈ touchedAttributes infra request name (infra.objectKinds name) plan, HasNumber a) ↔
      Measured infra request name plan := by
  unfold touchedAttributes
  rw [List.forall_mem_append, List.forall_mem_flatMap, forall_mem_if_iff, List.contains_iff_mem,
    List.forall_mem_map]
  simp only [forall_mem_legAttributes_iff]
  constructor
  · rintro ⟨hlegs, hmoves⟩
    exact ⟨fun hkind l hl => (hlegs l hl).1 hkind, fun hkind l hl => (hlegs l hl).2.1 hkind,
      fun hkind l hl => (hlegs l hl).2.2 hkind, hmoves⟩
  · rintro ⟨hclusters, hmodules, haccounts, hmoves⟩
    exact ⟨fun l hl => ⟨fun hkind => hclusters hkind l hl, fun hkind => hmodules hkind l hl,
      fun hkind => haccounts hkind l hl⟩, hmoves⟩

/-- A plan has a value for a goal exactly if everything that it touches is measured. -/
theorem isSome_valueOf_iff {goal : Goal} {plan : Plan} :
    (goal.valueOf infra request plan).isSome = true ↔
      Measured infra request goal.attributeName plan := by
  unfold Goal.valueOf goalValue
  rw [isSome_sumAll_iff, List.forall_mem_map, ← forall_mem_touchedAttributes_iff]
  simp only [isSome_contribution_iff]

/-! ### What plans are credited with -/

/-- The value that a plan is credited with for a goal among its rivals: its own or, if it has none,
the least that there is.  A goal that does not count, or for which there is no value, credits
nothing. -/
def credit (plans : List Plan) (plan : Plan) (goal : Goal) : Option Float :=
  if goal.counts infra then
    (least? (goalValues infra request plans goal)).map fun least =>
      (goal.valueOf infra request plan).getD least
  else none

/-- The weighted sum of what is credited for a list of goals. -/
def weigh (credits : Goal → Option Float) (goals : List Goal) : Float :=
  goals.foldl (fun total goal => (credits goal).elim total fun x => total + goal.weight * x) 0.0

/-- The least of the values that plans have for a goal; what is no number is passed over. -/
structure IsLeastValue (plans : List Plan) (goal : Goal) (least : Float) : Prop where
  attained : ∃ plan ∈ plans, goal.valueOf infra request plan = some least
  least : ∀ plan ∈ plans, ∀ x, goal.valueOf infra request plan = some x → x.isNaN = false →
    least ≤ x

theorem totalAmong_eq_weigh_credit (plans : List Plan) (goals : List Goal) (plan : Plan) :
    totalAmong infra request plans goals plan = weigh (credit infra request plans plan) goals := by
  unfold totalAmong weigh
  refine congrArg (fun add => goals.foldl add 0.0) (funext fun total => funext fun goal => ?_)
  unfold addTo credit
  split
  · cases least? (goalValues infra request plans goal) <;> rfl
  · rfl

section credit
variable {infra : Infrastructure} {request : Request} {plans : List Plan} {goal : Goal}
  {plan : Plan}

theorem mem_goalValues_iff {x : Float} : x ∈ goalValues infra request plans goal ↔
    ∃ plan ∈ plans, goal.valueOf infra request plan = some x := by
  unfold goalValues
  simp only [List.mem_filterMap, List.mem_map, id_eq, exists_exists_and_eq_and]
  rfl

theorem least?_goalValues_eq_none_iff : least? (goalValues infra request plans goal) = none ↔
    ∀ rival ∈ plans, ¬ Measured infra request goal.attributeName rival := by
  have hnil : goalValues infra request plans goal = [] ↔
      ∀ rival ∈ plans, ¬ Measured infra request goal.attributeName rival := by
    simp only [List.eq_nil_iff_forall_not_mem, mem_goalValues_iff, ← isSome_valueOf_iff,
      Option.isSome_iff_exists, not_exists, not_and]
    exact ⟨fun h rival hrival x => h x rival hrival, fun h x rival hrival => h rival hrival x⟩
  rw [← hnil]
  cases goalValues infra request plans goal with
  | nil => exact iff_of_true rfl rfl
  | cons x rest => exact iff_of_false nofun nofun

theorem isLeastValue_of_least? {least : Float}
    (h : least? (goalValues infra request plans goal) = some least) :
    IsLeastValue infra request plans goal least := by
  have hne : goalValues infra request plans goal ≠ [] := by
    intro hnil
    rw [hnil] at h
    exact nomatch h
  obtain ⟨x, hx, hmem, hle⟩ := exists_least hne
  obtain rfl := Option.some.inj (hx.symm.trans h)
  refine ⟨mem_goalValues_iff.mp hmem, fun rival hrival y hy hnumber => ?_⟩
  exact le_iff_place.mpr ⟨hnumber, hle y (mem_goalValues_iff.mpr ⟨rival, hrival, hy⟩)⟩

theorem credit_of_measured (hplan : plan ∈ plans) (hcounts : goal.counts infra = true)
    (h : Measured infra request goal.attributeName plan) :
    credit infra request plans plan goal = goal.valueOf infra request plan := by
  obtain ⟨x, hx⟩ := Option.isSome_iff_exists.mp ((isSome_valueOf_iff infra request).mpr h)
  have hsome : least? (goalValues infra request plans goal) ≠ none := fun hnone =>
    least?_goalValues_eq_none_iff.mp hnone plan hplan h
  obtain ⟨least, hleast⟩ := Option.ne_none_iff_exists'.mp hsome
  unfold credit
  rw [if_pos hcounts, hleast, hx]
  rfl

theorem credit_of_not_measured (hcounts : goal.counts infra = true)
    (h : ¬ Measured infra request goal.attributeName plan)
    (hrival : ∃ rival ∈ plans, Measured infra request goal.attributeName rival) :
    ∃ least, IsLeastValue infra request plans goal least ∧
      credit infra request plans plan goal = some least := by
  have hsome : least? (goalValues infra request plans goal) ≠ none := by
    rw [Ne, least?_goalValues_eq_none_iff]
    exact fun hnone => hrival.elim fun rival ⟨hmem, hmeasured⟩ => hnone rival hmem hmeasured
  obtain ⟨least, hleast⟩ := Option.ne_none_iff_exists'.mp hsome
  refine ⟨least, isLeastValue_of_least? hleast, ?_⟩
  rw [← isSome_valueOf_iff, Option.not_isSome_iff_eq_none] at h
  unfold credit
  rw [if_pos hcounts, hleast, h]
  rfl

theorem credit_eq_none (h : goal.counts infra = false ∨
      ∀ rival ∈ plans, ¬ Measured infra request goal.attributeName rival) :
    credit infra request plans plan goal = none := by
  unfold credit
  obtain hignored | hnone := h
  · rw [hignored, if_neg Bool.false_ne_true]
  · rw [least?_goalValues_eq_none_iff.mpr hnone, Option.map_none, ite_self]

/-- A plan that is measured for a goal that counts is credited with the same among all rivals. -/
theorem credit_eq_of_measured {others : List Plan} (hplan : plan ∈ plans) (hother : plan ∈ others)
    (h : goal.counts infra = true → Measured infra request goal.attributeName plan) :
    credit infra request others plan goal = credit infra request plans plan goal := by
  cases hcounts : goal.counts infra with
  | false => rw [credit_eq_none (.inl hcounts), credit_eq_none (.inl hcounts)]
  | true =>
      rw [credit_of_measured hother hcounts (h hcounts),
        credit_of_measured hplan hcounts (h hcounts)]

theorem getElem?_scores {i : Nat} (goals : List Goal) (hplan : plans[i]? = some plan) :
    (scores infra request plans goals)[i]? =
      some (weigh (credit infra request plans plan) goals) := by
  rw [scores_eq_map, List.getElem?_map, hplan, Option.map_some, totalAmong_eq_weigh_credit]

end credit

end values

/-- **Rivals matter only where a value is missing.**  The total of a plan is the weighted sum of
what it is credited with.  A goal that does not count or for which no plan has a value credits
nothing; a plan that is measured is credited with its own value, and another one with the least
value that there is.  So a plan that is measured for each goal that counts has the same total among
all rivals. -/
theorem scores_eq_weigh_credit (infra : Infrastructure) (request : Request) (plans : List Plan)
    (goals : List Goal) {i : Nat} {plan : Plan} (hplan : plans[i]? = some plan) :
    (scores infra request plans goals)[i]? =
        some (weigh (credit infra request plans plan) goals) ∧
    (∀ goal : Goal, goal.counts infra = false ∨
        (∀ rival ∈ plans, ¬ Measured infra request goal.attributeName rival) →
      credit infra request plans plan goal = none) ∧
    (∀ goal : Goal, goal.counts infra = true →
      Measured infra request goal.attributeName plan →
      credit infra request plans plan goal = goal.valueOf infra request plan) ∧
    (∀ goal : Goal, goal.counts infra = true →
      ¬ Measured infra request goal.attributeName plan →
      (∃ rival ∈ plans, Measured infra request goal.attributeName rival) →
      ∃ least, IsLeastValue infra request plans goal least ∧
        credit infra request plans plan goal = some least) ∧
    ((∀ goal ∈ goals, goal.counts infra = true →
        Measured infra request goal.attributeName plan) →
      ∀ (others : List Plan) (j : Nat), others[j]? = some plan →
        (scores infra request others goals)[j]? = (scores infra request plans goals)[i]?) := by
  have hmem : plan ∈ plans := List.mem_of_getElem? hplan
  refine ⟨getElem?_scores goals hplan, fun _ => credit_eq_none,
    fun _ => credit_of_measured hmem, fun _ => credit_of_not_measured,
    fun hmeasured others j hother => ?_⟩
  rw [getElem?_scores goals hplan, getElem?_scores goals hother]
  unfold weigh
  refine congrArg some (List.foldl_ext _ _ _ fun total goal hgoal => ?_)
  rw [credit_eq_of_measured hmem (List.mem_of_getElem? hother) (hmeasured goal hgoal)]

namespace Sample

/-- A cluster whose cost is not known. -/
def remote : Cluster := ⟨"remote", "neverland", none, []⟩

/-- The goal of the workload. -/
def lowCost : Goal := ⟨"cost", .minimize, 1.0⟩

/-- A plan that touches the remote cluster, between two that do not. -/
def plansRemote : List Plan := [planIn dear dear, planIn remote dear, planIn cheap cheap]

theorem measured_cheap :
    Measured environment.infrastructure request "cost" (planIn cheap cheap) :=
  (@isSome_valueOf_iff _ _ lowCost _).mp (by decide +kernel)

theorem not_measured_remote :
    ¬ Measured environment.infrastructure request "cost" (planIn remote dear) := fun h =>
  absurd ((@isSome_valueOf_iff _ _ lowCost _).mpr h) (by decide +kernel)

end Sample

/-- The plan in the remote cluster is credited with the cost of the dear one, and the cheap plan
keeps its total when it has no rivals. -/
theorem sample_scores_credit :
    (∃ least, IsLeastValue Sample.environment.infrastructure Sample.request Sample.plansRemote
        Sample.lowCost least ∧
      credit Sample.environment.infrastructure Sample.request Sample.plansRemote
        (Sample.planIn Sample.remote Sample.dear) Sample.lowCost = some least) ∧
    (scores Sample.environment.infrastructure Sample.request
        [Sample.planIn Sample.cheap Sample.cheap] [Sample.lowCost])[0]? =
      (scores Sample.environment.infrastructure Sample.request Sample.plansRemote
        [Sample.lowCost])[2]? := by
  have hremote : Sample.plansRemote[1]? = some (Sample.planIn Sample.remote Sample.dear) := rfl
  have hcheap : Sample.plansRemote[2]? = some (Sample.planIn Sample.cheap Sample.cheap) := rfl
  obtain ⟨-, -, -, hleast, -⟩ := scores_eq_weigh_credit Sample.environment.infrastructure
    Sample.request Sample.plansRemote [Sample.lowCost] hremote
  obtain ⟨-, -, -, -, hsame⟩ := scores_eq_weigh_credit Sample.environment.infrastructure
    Sample.request Sample.plansRemote [Sample.lowCost] hcheap
  refine ⟨hleast Sample.lowCost (by decide) Sample.not_measured_remote
    ⟨_, List.mem_of_getElem? hcheap, Sample.measured_cheap⟩, hsame ?_ _ 0 rfl⟩
  exact List.forall_mem_singleton.mpr fun _ => Sample.measured_cheap

/-! ### Selection -/

/-- **The first of the greatest totals is selected.**  If all totals are numbers, nothing is
selected exactly if there are no plans.  Otherwise the total at the position that is selected is at
least as great as every other, and greater than those before it. -/
theorem selectBest_first_greatest (infra : Infrastructure) (request : Request) (plans : List Plan)
    (goals : List Goal)
    (hnumbers : ∀ total ∈ scores infra request plans goals, total.isNaN = false) :
    (selectBest infra request plans goals = none ↔ plans = []) ∧
    (plans ≠ [] → ∃ i < plans.length, ∃ greatest,
      selectBest infra request plans goals = some i ∧
        (scores infra request plans goals)[i]? = some greatest ∧
        (∀ total ∈ scores infra request plans goals, total ≤ greatest) ∧
        ∀ j < i, ∀ total, (scores infra request plans goals)[j]? = some total →
          total < greatest) := by
  refine ⟨⟨fun hnone => ?_, fun hnil => ?_⟩, fun hne => ?_⟩
  · by_contra hne
    obtain ⟨i, -, hselect⟩ := exists_selectBest infra request hne goals
    rw [hselect] at hnone
    exact nomatch hnone
  · have hlength := length_scores infra request plans goals
    rw [hnil, List.length_nil, List.length_eq_zero_iff] at hlength
    unfold selectBest
    rw [hnil, hlength]
    rfl
  · obtain ⟨i, hi, hselect⟩ := exists_selectBest infra request hne goals
    obtain ⟨greatest, hgreatest, hle, hbefore⟩ := best?_spec hselect hnumbers
    have hnumber := hnumbers greatest (List.mem_of_getElem? hgreatest)
    refine ⟨i, hi, greatest, hselect, hgreatest, fun total htotal => ?_,
      fun j hj total htotal => ?_⟩
    · exact le_iff_place.mpr ⟨hnumber, hle total htotal⟩
    · exact lt_iff_place.mpr ⟨hnumber, hbefore j hj total htotal⟩

/-- Of two plans in the cheap cluster, which have the same total, the first is selected. -/
theorem sample_first_greatest :
    (∀ total ∈ scores Sample.roomy.infrastructure Sample.tolerant Sample.plansTolerant
      Sample.tolerant.policy.goals, total.isNaN = false) ∧
    selectBest Sample.roomy.infrastructure Sample.tolerant Sample.plansTolerant
        Sample.tolerant.policy.goals = some 3 ∧
    ∃ greatest, ∀ j < 3, ∀ total, (scores Sample.roomy.infrastructure Sample.tolerant
      Sample.plansTolerant Sample.tolerant.policy.goals)[j]? = some total →
        total < greatest := by
  have hnumbers : ∀ total ∈ scores Sample.roomy.infrastructure Sample.tolerant
      Sample.plansTolerant Sample.tolerant.policy.goals, total.isNaN = false := by
    decide +kernel
  have hselect : selectBest Sample.roomy.infrastructure Sample.tolerant Sample.plansTolerant
      Sample.tolerant.policy.goals = some 3 := by
    decide +kernel
  obtain ⟨i, -, greatest, hchosen, -, -, hbefore⟩ :=
    (selectBest_first_greatest _ _ _ _ hnumbers).2 (by decide)
  obtain rfl : 3 = i := Option.some.inj (hselect.symm.trans hchosen)
  exact ⟨hnumbers, hselect, greatest, hbefore⟩

end DataRoute
