import DataRoute.Proofs.Comparison
import DataRoute.Proofs.FloatOrder
import DataRoute.Proofs.StricterPolicies

/-! # The order of the registry

Two environments with the same attributes may list the same modules, clusters and accounts in
different orders.  The order passes through every stage as a permutation: of the offers, the routes
(`findRoutes_perm`), the choices, the placements and at last the plans that are compared.  The
total of a plan depends on its rivals only through the least value for each goal, and this is the
same in whichever order they stand (`totalAmong_perm`).  So plans have the same totals in both
environments, and what is chosen has the greatest one (`place_le_of_selectBest`).  The order decides
no more than which of several best plans is taken (`solve_of_rearranged`). -/

namespace DataRoute

/-! ### Totals -/

section lesser

theorem lesser_spec (x y : Float) :
    (lesser x y = x ∨ lesser x y = y) ∧ place (lesser x y) ≤ place x ∧
      place (lesser x y) ≤ place y := by
  unfold lesser
  split
  next hx => exact ⟨.inr rfl, place_le_of_isNaN hx y, le_refl _⟩
  next hx =>
    split
    next hy => exact ⟨.inl rfl, le_refl _, place_le_of_isNaN hy x⟩
    next hy =>
      rw [Bool.not_eq_true] at hx
      split
      next hlt => exact ⟨.inr rfl, (lt_iff_place.mp hlt).2.le, le_refl _⟩
      next hnot =>
        exact ⟨.inl rfl, le_refl _, not_lt.mp fun hlt => hnot (lt_iff_place.mpr ⟨hx, hlt⟩)⟩

theorem foldl_lesser_spec (x : Float) (rest : List Float) :
    rest.foldl lesser x ∈ x :: rest ∧ ∀ y ∈ x :: rest, place (rest.foldl lesser x) ≤ place y := by
  induction rest generalizing x with
  | nil => exact ⟨List.mem_cons_self, List.forall_mem_singleton.mpr (le_refl _)⟩
  | cons y rest ih =>
      obtain ⟨hmem, hle⟩ := ih (lesser x y)
      obtain ⟨heither, hx, hy⟩ := lesser_spec x y
      have hfirst := hle _ List.mem_cons_self
      rw [List.foldl_cons]
      constructor
      · rcases List.mem_cons.mp hmem with hmem | hmem
        · rw [hmem]
          rcases heither with heither | heither <;> simp [heither]
        · simp [hmem]
      · simp only [List.forall_mem_cons]
        exact ⟨hfirst.trans hx, hfirst.trans hy, fun z hz => hle z (List.mem_cons_of_mem _ hz)⟩

/-- The least of a list of values is one of them, and no other comes before it. -/
theorem exists_least {values : List Float} (h : values ≠ []) :
    ∃ least, least? values = some least ∧ least ∈ values ∧
      ∀ x ∈ values, place least ≤ place x := by
  cases values with
  | nil => exact absurd rfl h
  | cons x rest => exact ⟨_, rfl, foldl_lesser_spec x rest⟩

/-- The least of values that are no negative zeros does not depend on their order. -/
theorem least?_perm {values others : List Float} (h : values.Perm others)
    (hvalues : ∀ x ∈ values, x ≠ -0.0) : least? values = least? others := by
  by_cases hnil : values = []
  · rw [hnil] at h ⊢
    rw [List.nil_perm.mp h]
  · have hnil' : others ≠ [] := fun hothers => hnil (List.perm_nil.mp (hothers ▸ h))
    obtain ⟨x, hleast, hx, hxle⟩ := exists_least hnil
    obtain ⟨y, hleast', hy, hyle⟩ := exists_least hnil'
    rw [← h.mem_iff] at hy
    have hplace := le_antisymm (hxle y hy) (hyle x (h.mem_iff.mp hx))
    rw [hleast, hleast', eq_of_place_eq (hvalues x hx) (hvalues y hy) hplace]

end lesser

section totals
variable (infra : Infrastructure) (request : Request)

theorem zero_ne_negZero : (0.0 : Float) ≠ -0.0 := by
  decide

theorem sumAll_ne_negZero {total x : Float} (htotal : total ≠ -0.0) {values : List (Option Float)}
    (h : sumAll total values = some x) : x ≠ -0.0 := by
  induction values generalizing total with
  | nil =>
      obtain rfl := Option.some.inj h
      exact htotal
  | cons value rest ih =>
      cases value with
      | none => exact nomatch h
      | some y => exact ih (add_ne_negZero htotal y) h

/-- The value of a plan for a goal is summed up from zero, so it is no negative zero. -/
theorem goalValue_ne_negZero {goal : Goal} {kinds : List ObjectKind} {plan : Plan} {x : Float}
    (h : goalValue infra request goal kinds plan = some x) : x ≠ -0.0 :=
  sumAll_ne_negZero zero_ne_negZero h

/-- The values of a list of plans for a goal, as far as they have one. -/
def goalValues (plans : List Plan) (goal : Goal) : List Float :=
  (plans.map (goalValue infra request goal (infra.objectKinds goal.attributeName))).filterMap id

/-- Adds a goal to the total of one of a list of plans. -/
def addTo (plans : List Plan) (plan : Plan) (total : Float) (goal : Goal) : Float :=
  if goal.counts infra then
    match least? (goalValues infra request plans goal) with
    | none => total
    | some worst => total + goal.weight *
        (goalValue infra request goal (infra.objectKinds goal.attributeName) plan).getD worst
  else total

/-- The total of one of a list of plans. -/
def totalAmong (plans : List Plan) (goals : List Goal) (plan : Plan) : Float :=
  goals.foldl (addTo infra request plans plan) 0.0

theorem addGoal_map (plans : List Plan) (goal : Goal) (totals : Plan → Float) :
    addGoal infra request plans (plans.map totals) goal =
      plans.map fun plan => addTo infra request plans plan (totals plan) goal := by
  have hvalues : (plans.map (goalValue infra request goal
      (infra.objectKinds goal.attributeName))).filterMap id =
        goalValues infra request plans goal := rfl
  unfold addGoal addTo addGoalValues
  split
  · dsimp only
    rw [hvalues]
    cases least? (goalValues infra request plans goal) with
    | none => rfl
    | some worst =>
        dsimp only
        rw [List.zipWith_map, List.zipWith_self]
  · rfl

theorem scores_eq_map (plans : List Plan) (goals : List Goal) :
    scores infra request plans goals = plans.map (totalAmong infra request plans goals) := by
  have hrun : ∀ totals : Plan → Float,
      goals.foldl (addGoal infra request plans) (plans.map totals) =
        plans.map fun plan => goals.foldl (addTo infra request plans plan) (totals plan) := by
    induction goals with
    | nil => exact fun _ => rfl
    | cons goal rest ih =>
        intro totals
        rw [List.foldl_cons, addGoal_map, ih]
        rfl
  exact hrun _

theorem totalAmong_perm {plans others : List Plan} (h : plans.Perm others) (goals : List Goal) :
    totalAmong infra request plans goals = totalAmong infra request others goals := by
  have hleast : ∀ goal, least? (goalValues infra request plans goal) =
      least? (goalValues infra request others goal) := by
    intro goal
    refine least?_perm ((h.map _).filterMap _) fun x hx => ?_
    obtain ⟨value, hvalue, hx⟩ := List.mem_filterMap.mp hx
    obtain ⟨plan, -, rfl⟩ := List.mem_map.mp hvalue
    exact goalValue_ne_negZero infra request hx
  have hadd : addTo infra request plans = addTo infra request others := by
    funext plan total goal
    unfold addTo
    rw [hleast goal]
  unfold totalAmong
  rw [hadd]

theorem totalAmong_ne_negZero (plans : List Plan) (goals : List Goal) (plan : Plan) :
    totalAmong infra request plans goals plan ≠ -0.0 := by
  unfold totalAmong
  refine List.foldlRecOn (motive := (· ≠ -0.0)) goals _ zero_ne_negZero
    fun total htotal goal _ => ?_
  unfold addTo
  split
  · split
    · exact htotal
    · exact add_ne_negZero htotal _
  · exact htotal

end totals

/-! ### The greatest total -/

section selection

/-- A value that was passed over is at most as great as the one that is kept, and less if it stands
before it. -/
theorem bestFrom_spec {all done rest : List Float} {best : Nat} {top : Float}
    (hall : all = done ++ rest) (hnumbers : ∀ x ∈ all, x.isNaN = false)
    (htop : all[best]? = some top) (hdone : ∀ x ∈ done, place x ≤ place top)
    (hbefore : ∀ j < best, ∀ x, all[j]? = some x → place x < place top) :
    ∃ greatest, all[bestFrom best top done.length rest]? = some greatest ∧
      (∀ x ∈ all, place x ≤ place greatest) ∧
      ∀ j < bestFrom best top done.length rest, ∀ x, all[j]? = some x →
        place x < place greatest := by
  induction rest generalizing done best top with
  | nil =>
      rw [List.append_nil] at hall
      exact ⟨top, htop, hall ▸ hdone, hbefore⟩
  | cons x rest ih =>
      have hlength : (done ++ [x]).length = done.length + 1 := List.length_append
      have hnext : all = (done ++ [x]) ++ rest := by rw [hall, List.append_cons]
      have hx : all[done.length]? = some x := by
        rw [hall, List.getElem?_append_right (le_refl _), Nat.sub_self]
        rfl
      rw [bestFrom, ← hlength]
      split
      next hle =>
        refine ih hnext htop (List.forall_mem_append.mpr ⟨hdone, ?_⟩) hbefore
        exact List.forall_mem_singleton.mpr (le_iff_place.mp hle).2
      next hnot =>
        have hgreater : place top < place x := by
          refine lt_of_not_ge fun hle => hnot (le_iff_place.mpr ⟨hnumbers top ?_, hle⟩)
          exact List.mem_of_getElem? htop
        refine ih hnext hx (List.forall_mem_append.mpr ⟨fun y hy => ?_, ?_⟩) fun j hj y hy => ?_
        · exact (hdone y hy).trans hgreater.le
        · exact List.forall_mem_singleton.mpr (le_refl _)
        · rw [hall, List.getElem?_append_left hj] at hy
          exact (hdone y (List.mem_of_getElem? hy)).trans_lt hgreater

/-- Among numbers the first of the greatest is selected. -/
theorem best?_spec {values : List Float} {i : Nat} (h : best? values = some i)
    (hnumbers : ∀ x ∈ values, x.isNaN = false) :
    ∃ greatest, values[i]? = some greatest ∧ (∀ x ∈ values, place x ≤ place greatest) ∧
      ∀ j < i, ∀ x, values[j]? = some x → place x < place greatest := by
  cases values with
  | nil => exact nomatch h
  | cons x rest =>
      obtain rfl := Option.some.inj h
      exact @bestFrom_spec (x :: rest) [x] rest 0 x rfl hnumbers rfl
        (List.forall_mem_singleton.mpr (le_refl _)) fun j hj => absurd hj (Nat.not_lt_zero j)

/-- The plan that is selected has the greatest total, unless one is no number. -/
theorem place_le_of_selectBest {infra : Infrastructure} {request : Request} {plans : List Plan}
    {goals : List Goal} {i : Nat} {best : Plan}
    (hselect : selectBest infra request plans goals = some i) (hbest : plans[i]? = some best)
    (hnumbers : ∀ plan ∈ plans, (totalAmong infra request plans goals plan).isNaN = false) :
    ∀ plan ∈ plans, place (totalAmong infra request plans goals plan) ≤
      place (totalAmong infra request plans goals best) := by
  unfold selectBest at hselect
  rw [scores_eq_map] at hselect
  obtain ⟨greatest, hgreatest, hle, -⟩ := best?_spec hselect (List.forall_mem_map.mpr hnumbers)
  rw [List.getElem?_map, hbest] at hgreatest
  obtain rfl := Option.some.inj hgreatest
  exact List.forall_mem_map.mp hle

/-- Whichever order the plans stand in, the one that is selected has the same total. -/
theorem totalAmong_eq_of_selectBest {infra : Infrastructure} {request : Request}
    {plans others : List Plan} {goals : List Goal} {i j : Nat} {best best' : Plan}
    (h : plans.Perm others) (hselect : selectBest infra request plans goals = some i)
    (hbest : plans[i]? = some best) (hselect' : selectBest infra request others goals = some j)
    (hbest' : others[j]? = some best')
    (hnumbers : ∀ plan ∈ plans, (totalAmong infra request plans goals plan).isNaN = false) :
    totalAmong infra request plans goals best = totalAmong infra request plans goals best' := by
  have hnumbers' : ∀ plan ∈ others, (totalAmong infra request others goals plan).isNaN = false := by
    rw [← totalAmong_perm infra request h]
    exact fun plan hplan => hnumbers plan (h.mem_iff.mpr hplan)
  -- each of the two is at least as great as the other
  have hle := place_le_of_selectBest hselect hbest hnumbers best'
    (h.mem_iff.mpr (List.mem_of_getElem? hbest'))
  have hle' := place_le_of_selectBest hselect' hbest' hnumbers' best
    (h.mem_iff.mp (List.mem_of_getElem? hbest))
  rw [← totalAmong_perm infra request h] at hle'
  exact eq_of_place_eq (totalAmong_ne_negZero _ _ _ _ _) (totalAmong_ne_negZero _ _ _ _ _)
    (le_antisymm hle' hle)

end selection

/-! ### Other orders of the registry -/

/-- The same attributes and, in any order, the same modules, clusters and accounts. -/
structure Environment.Rearranges (env other : Environment) : Prop where
  modules : env.catalog.modules.Perm other.catalog.modules
  clusters : env.clusters.Perm other.clusters
  accounts : env.storageAccounts.Perm other.storageAccounts
  infrastructure : env.infrastructure = other.infrastructure

theorem Environment.Rearranges.symm {env other : Environment} (h : env.Rearranges other) :
    other.Rearranges env :=
  ⟨h.modules.symm, h.clusters.symm, h.accounts.symm, h.infrastructure.symm⟩

/-- Lists that are combined from parts are in another order if the parts are. -/
theorem flatMap_perm {α β : Type} {items others : List α} {f g : α → List β}
    (h : items.Perm others) (hparts : ∀ a ∈ items, (f a).Perm (g a)) :
    (items.flatMap f).Perm (others.flatMap g) :=
  (List.Perm.flatMap_left items hparts).trans (h.flatMap_right g)

theorem findRoutes_perm {offers others : List Offer} (h : offers.Perm others) (source : Endpoint)
    (depth : Nat) (destination : Endpoint) :
    (findRoutes offers source depth destination).Perm
      (findRoutes others source depth destination) := by
  induction depth generalizing destination with
  | zero => exact List.Perm.refl _
  | succ depth ih =>
      rw [findRoutes_succ, findRoutes_succ]
      refine flatMap_perm h fun offer _ => flatMap_perm (List.Perm.refl _) fun sink _ => ?_
      exact (flatMap_perm (List.Perm.refl _) fun i _ => (ih (.store i)).map _).append_left _

section rearranged
variable {env other : Environment} (h : env.Rearranges other) (request : Request)
include h

theorem offers_perm (policy : Policy) : (env.offers policy).Perm (other.offers policy) := by
  have hadmitted : Offer.admitted env policy = Offer.admitted other policy := by
    unfold Offer.admitted
    rw [h.infrastructure]
  unfold Environment.offers
  rw [hadmitted]
  exact (h.modules.flatMap_right _).filter _

theorem routesFor_perm (depth : Nat) :
    (env.routesFor request depth).Perm (other.routesFor request depth) :=
  findRoutes_perm (offers_perm h request.policy) _ _ _

theorem allChoices_perm (route : Route) :
    (env.allChoices route).Perm (other.allChoices route) := by
  induction route with
  | nil => exact List.Perm.refl _
  | cons leg later ih =>
      refine flatMap_perm ((h.accounts.map _).cons _) fun account _ => ?_
      exact flatMap_perm h.clusters fun cluster _ => ih.map _

theorem isPlacement_of_rearranged (route : Route) :
    env.isPlacement request route = other.isPlacement request route := by
  have hpermits : env.permitsLegs request = other.permitsLegs request := by
    funext plan
    induction plan with
    | nil => rfl
    | cons l later ih =>
        rw [Environment.permitsLegs, Environment.permitsLegs, ih]
        unfold Environment.permitsLeg Environment.permitsAccount Environment.clusterFits
        rw [h.infrastructure]
  unfold Environment.isPlacement
  rw [hpermits]

theorem allPlacements_perm (route : Route) :
    (env.allPlacements request route).Perm (other.allPlacements request route) := by
  unfold Environment.allPlacements
  rw [isPlacement_of_rearranged h request route]
  exact ((allChoices_perm h route).filter _).map _

theorem placementsOfLength_perm (depth n : Nat) :
    (env.placementsOfLength request depth n).Perm (other.placementsOfLength request depth n) :=
  flatMap_perm ((routesFor_perm h request depth).filter _) fun route _ =>
    allPlacements_perm h request route

theorem placeableLengths_of_rearranged (depth : Nat) :
    env.placeableLengths request depth = other.placeableLengths request depth := by
  ext n
  refine exists_congr fun route => and_congr (routesFor_perm h request depth).mem_iff ?_
  rw [← List.length_pos_iff, ← List.length_pos_iff,
    (allPlacements_perm h request route).length_eq]

end rearranged

/-! ### The choice -/

section choice
variable {env : Environment} {request : Request} {settings : Settings}

/-- There is room for all placements of the least length. -/
def Environment.HasRoom (env : Environment) (settings : Settings) (request : Request) : Prop :=
  ∀ n, IsLeast (env.placeableLengths request settings.maxDepth) n →
    (env.placementsOfLength request settings.maxDepth n).length ≤ settings.maxCandidates

theorem hasRoom_of_rearranged {other : Environment} (h : env.Rearranges other)
    (hroom : env.HasRoom settings request) : other.HasRoom settings request := by
  intro n hleast
  rw [← placeableLengths_of_rearranged h] at hleast
  rw [← (placementsOfLength_perm h request settings.maxDepth n).length_eq]
  exact hroom n hleast

/-- With room for all placements of the least length, these are compared and the best is chosen. -/
theorem solve_of_room {n : Nat} (hcompares : settings.comparesPlans request = true)
    (hroom : env.HasRoom settings request)
    (hleast : IsLeast (env.placeableLengths request settings.maxDepth) n) :
    env.candidates settings request =
        .ok (env.placementsOfLength request settings.maxDepth n) ∧
      ∃ i best, selectBest env.infrastructure request
          (env.placementsOfLength request settings.maxDepth n) request.policy.goals = some i ∧
        (env.placementsOfLength request settings.maxDepth n)[i]? = some best ∧
        env.solve settings request = .ok best := by
  have hall := hroom n hleast
  have hne := placementsOfLength_ne_nil env request hleast.1
  have hpos := (List.length_pos_iff.mpr hne).trans_le hall
  have hcandidates := candidates_eq_take env request settings hpos hleast
  have hsolve := solve_of_isLeast env request settings hcompares hpos hleast
  rw [List.take_of_length_le hall] at hcandidates hsolve
  exact ⟨hcandidates, hsolve⟩

theorem exists_isLeast_of_solve {plan : Plan} (hcompares : settings.comparesPlans request = true)
    (hsolve : env.solve settings request = .ok plan) :
    ∃ n, IsLeast (env.placeableLengths request settings.maxDepth) n := by
  have hsome := placeable_of_solve env request settings hcompares hsolve
  exact ⟨_, Nat.sInf_mem hsome, fun _ hn => Nat.sInf_le hn⟩

/-- What can be solved in one order can be solved in another. -/
theorem exists_solve_of_rearranged {other : Environment} (h : env.Rearranges other)
    (hcompares : settings.comparesPlans request = true) (hroom : env.HasRoom settings request)
    {plan : Plan} (hsolve : env.solve settings request = .ok plan) :
    ∃ plan', other.solve settings request = .ok plan' := by
  obtain ⟨n, hleast⟩ := exists_isLeast_of_solve hcompares hsolve
  rw [placeableLengths_of_rearranged h] at hleast
  obtain ⟨-, _, best, -, -, hbest⟩ :=
    solve_of_room hcompares (hasRoom_of_rearranged h hroom) hleast
  exact ⟨best, hbest⟩

end choice

/-- **The order of the registry only breaks ties.**  Let two environments have the same attributes
and, in any order, the same modules, clusters and accounts, and let there be room for all
placements of the least length.  Then a request is solved in both or in neither; the plans that are
compared are the same up to their order, and have the same totals; and if these are numbers, the
plans that are chosen are of the same length and have the same total. -/
theorem solve_of_rearranged {env other : Environment} {request : Request} {settings : Settings}
    (h : env.Rearranges other) (hgoals : request.policy.goals ≠ [])
    (hoptimize : settings.optimize = true) (hroom : env.HasRoom settings request) :
    ((∃ plan, env.solve settings request = .ok plan) ↔
      ∃ plan, other.solve settings request = .ok plan) ∧
    ∀ plan plan', env.solve settings request = .ok plan →
      other.solve settings request = .ok plan' →
      ∃ plans plans', env.candidates settings request = .ok plans ∧
        other.candidates settings request = .ok plans' ∧ plans.Perm plans' ∧
        plan ∈ plans ∧ plan' ∈ plans' ∧ plan.length = plan'.length ∧
        ∃ total : Plan → Float,
          scores env.infrastructure request plans request.policy.goals = plans.map total ∧
          scores other.infrastructure request plans' request.policy.goals = plans'.map total ∧
          ((∀ p ∈ plans, (total p).isNaN = false) → total plan = total plan') := by
  have hcompares : settings.comparesPlans request = true :=
    (comparesPlans_iff request settings).mpr ⟨hoptimize, hgoals⟩
  have hroom' := hasRoom_of_rearranged h hroom
  refine ⟨⟨fun ⟨_, hplan⟩ => exists_solve_of_rearranged h hcompares hroom hplan,
    fun ⟨_, hplan⟩ => exists_solve_of_rearranged h.symm hcompares hroom' hplan⟩, ?_⟩
  intro plan plan' hplan hplan'
  obtain ⟨n, hleast⟩ := exists_isLeast_of_solve hcompares hplan
  have hperm := placementsOfLength_perm h request settings.maxDepth n
  obtain ⟨hplans, i, best, hselect, hbest, hsolve⟩ := solve_of_room hcompares hroom hleast
  rw [placeableLengths_of_rearranged h] at hleast
  obtain ⟨hplans', j, best', hselect', hbest', hsolve'⟩ := solve_of_room hcompares hroom' hleast
  obtain rfl : best = plan := Except.ok.inj (hsolve.symm.trans hplan)
  obtain rfl : best' = plan' := Except.ok.inj (hsolve'.symm.trans hplan')
  rw [← h.infrastructure] at hselect'
  have hmem := List.mem_of_getElem? hbest
  have hmem' := List.mem_of_getElem? hbest'
  refine ⟨_, _, hplans, hplans', hperm, hmem, hmem', ?_, _, scores_eq_map _ _ _ _, ?_,
    totalAmong_eq_of_selectBest hperm hselect hbest hselect' hbest'⟩
  · rw [length_of_mem_placementsOfLength env request hmem,
      length_of_mem_placementsOfLength other request hmem']
  · rw [scores_eq_map, ← h.infrastructure, totalAmong_perm _ _ hperm]

namespace Sample

/-- The other order of the registry. -/
def mirrored : Environment :=
  .ofParts [reader, copier] [cheap, dear] [free, filtered] roomy.infrastructure

theorem rearranges_mirrored : roomy.Rearranges mirrored :=
  ⟨List.Perm.swap _ _ _, List.Perm.swap _ _ _, List.Perm.swap _ _ _, rfl⟩

/-- Plans by way of both accounts, copying and reading in either cluster. -/
def plansTolerant : List Plan :=
  [planIn dear dear, planIn dear cheap, planIn cheap dear, planIn cheap cheap,
    freelyIn dear dear, freelyIn dear cheap, freelyIn cheap dear, freelyIn cheap cheap]

theorem candidates_tolerant : roomy.candidates ⟨4, true, 8⟩ tolerant = .ok plansTolerant := by
  have hranked : roomy.rankedRoutes ⟨4, true, 8⟩ tolerant = roomy.routesFor tolerant 4 :=
    List.mergeSort_of_pairwise (by decide)
  unfold Environment.candidates
  rw [hranked]
  rfl

theorem candidates_mirrored :
    mirrored.candidates ⟨4, true, 8⟩ tolerant = .ok plansTolerant.reverse := by
  have hranked : mirrored.rankedRoutes ⟨4, true, 8⟩ tolerant = mirrored.routesFor tolerant 4 :=
    List.mergeSort_of_pairwise (by decide)
  unfold Environment.candidates
  rw [hranked]
  rfl

theorem solve_tolerant :
    roomy.solve ⟨4, true, 8⟩ tolerant = .ok (planIn cheap cheap) := by
  have hselect : selectBest roomy.infrastructure tolerant plansTolerant tolerant.policy.goals =
      some 3 := by
    decide +kernel
  exact bestChoice_of_selectBest _ _ _ candidates_tolerant hselect rfl

theorem solve_mirrored :
    mirrored.solve ⟨4, true, 8⟩ tolerant = .ok (freelyIn cheap cheap) := by
  have hselect : selectBest mirrored.infrastructure tolerant plansTolerant.reverse
      tolerant.policy.goals = some 0 := by
    decide +kernel
  exact bestChoice_of_selectBest _ _ _ candidates_mirrored hselect rfl

theorem hasRoom_roomy : roomy.HasRoom ⟨4, true, 8⟩ tolerant := by
  intro n hleast
  have hhead : (roomy.routesFor tolerant 4).head? = some [copying, reading] := rfl
  have hroute := List.mem_of_mem_head? hhead
  have hle : n ≤ 2 := hleast.2 ⟨[copying, reading], hroute, rfl, by decide⟩
  interval_cases n <;> decide

end Sample

/-- Both plans run in the cheap cluster; which account is used depends on the order. -/
theorem sample_rearranged :
    Sample.roomy.solve ⟨4, true, 8⟩ Sample.tolerant =
        .ok (Sample.planIn Sample.cheap Sample.cheap) ∧
      Sample.mirrored.solve ⟨4, true, 8⟩ Sample.tolerant =
        .ok (Sample.freelyIn Sample.cheap Sample.cheap) ∧
      ∃ total : Plan → Float,
        scores Sample.roomy.infrastructure Sample.tolerant Sample.plansTolerant
          Sample.tolerant.policy.goals = Sample.plansTolerant.map total ∧
        total (Sample.planIn Sample.cheap Sample.cheap) =
          total (Sample.freelyIn Sample.cheap Sample.cheap) := by
  refine ⟨Sample.solve_tolerant, Sample.solve_mirrored, ?_⟩
  obtain ⟨plans, -, hplans, -, -, -, -, -, total, hscores, -, hequal⟩ :=
    (solve_of_rearranged Sample.rearranges_mirrored (by decide) rfl Sample.hasRoom_roomy).2 _ _
      Sample.solve_tolerant Sample.solve_mirrored
  obtain rfl : Sample.plansTolerant = plans :=
    Except.ok.inj (Sample.candidates_tolerant.symm.trans hplans)
  refine ⟨total, hscores, hequal ?_⟩
  have hnumbers : ∀ x ∈ scores Sample.roomy.infrastructure Sample.tolerant Sample.plansTolerant
      Sample.tolerant.policy.goals, x.isNaN = false := by
    decide +kernel
  rw [hscores] at hnumbers
  exact List.forall_mem_map.mp hnumbers

end DataRoute
