import DataRoute.Proofs.Chains
import DataRoute.Proofs.Enumeration
import DataRoute.Solve
import Mathlib.Order.Lattice.Nat

/-! # The plans that are compared

When plans are compared, routes are taken in the order of their lengths, and the search stops when
a route is longer than the plans that it has or when it has enough.  `Gathers` is its invariant:
what has been gathered are the first results of the least length `n` that has any, as far as
routes have been looked at.  Stopping loses nothing (`Gathers.stop`), every route that is looked
at keeps the invariant (`Gathers.step`), and so does the run (`Gathers.run`).  Since sorting does
not change the order of the routes of one length (`filter_shortestFirst`), the plans that are
compared are the first placements of the shortest routes that can be placed
(`candidates_eq_take`), and the plan that is chosen is the best of these
(`solve_eq_best_of_shortest`). -/

namespace DataRoute

/-! ### Sorting by length -/

theorem shorter_trans (a b c : Route) (hab : decide (a.length ≤ b.length) = true)
    (hbc : decide (b.length ≤ c.length) = true) : decide (a.length ≤ c.length) = true := by
  rw [decide_eq_true_eq] at hab hbc ⊢
  omega

theorem shorter_total (a b : Route) :
    (decide (a.length ≤ b.length) || decide (b.length ≤ a.length)) = true := by
  rw [Bool.or_eq_true, decide_eq_true_eq, decide_eq_true_eq]
  omega

theorem pairwise_shortestFirst (routes : List Route) :
    (shortestFirst routes).Pairwise fun a b => a.length ≤ b.length := by
  have hsorted : (shortestFirst routes).Pairwise fun a b => decide (a.length ≤ b.length) = true :=
    List.pairwise_mergeSort shorter_trans shorter_total routes
  exact hsorted.imp of_decide_eq_true

theorem filter_shortestFirst (routes : List Route) (n : Nat) :
    (shortestFirst routes).filter (fun route => route.length = n) =
      routes.filter fun route => route.length = n := by
  have hperm : (shortestFirst routes).Perm routes := List.mergeSort_perm _ _
  have hlength := (hperm.filter fun route => route.length = n).length_eq
  have hsub : (routes.filter fun route => route.length = n).Sublist (shortestFirst routes) := by
    refine List.sublist_mergeSort shorter_trans shorter_total ?_ List.filter_sublist
    apply List.pairwise_of_forall_mem_list
    intro a ha b hb
    have hlena := (List.mem_filter.mp ha).2
    have hlenb := (List.mem_filter.mp hb).2
    rw [decide_eq_true_eq] at hlena hlenb ⊢
    omega
  have hfilter := hsub.filter fun route => route.length = n
  rw [List.filter_filter] at hfilter
  simp only [Bool.and_self] at hfilter
  exact (hfilter.eq_of_length hlength.symm).symm

theorem length_le_of_sorted {route other : Route} {rest : List Route}
    (hsorted : (route :: rest).Pairwise fun a b => a.length ≤ b.length)
    (hother : other ∈ route :: rest) : route.length ≤ other.length := by
  rcases List.mem_cons.mp hother with rfl | hother
  · exact le_refl _
  · exact (List.pairwise_cons.mp hsorted).1 other hother

/-! ### Gathering -/

/-- A search that finds the results of every route, which are as long as the route. -/
structure Finds (place : Route → Nat → Except Rejection (List Plan))
    (results : Route → List Plan) : Prop where
  answers : ∀ route room, 0 < room → Answers (place route room) (results route) room
  length_eq : ∀ route, ∀ plan ∈ results route, plan.length = route.length

theorem add_plans {answer : Except Rejection (List Plan)} {all : List Plan} {room : Nat}
    (h : Answers answer all room) (g : Gathered) :
    (g.add answer).plans = g.plans ++ all.take room := by
  cases answer with
  | error reason =>
      have hnil : all = [] := h
      rw [hnil, List.take_nil, List.append_nil]
      rfl
  | ok found =>
      rw [← h.2]
      rfl

section gather
variable {place : Route → Nat → Except Rejection (List Plan)} {results : Route → List Plan}
  {limit n : Nat} {done rest : List Route} {route : Route} {g : Gathered}

/-- What has been gathered when the routes `done` have been looked at: the first results of those
of length `n`. -/
def Gathers (results : Route → List Plan) (limit n : Nat) (done : List Route) (g : Gathered) :
    Prop :=
  g.plans = ((done.filter fun route => route.length = n).flatMap results).take limit

namespace Gathers

theorem length_plans (h : Gathers results limit n done g) : g.plans.length =
    min limit ((done.filter fun route => route.length = n).flatMap results).length := by
  rw [h, List.length_take]

theorem length_of_mem (h : Gathers results limit n done g) (finds : Finds place results)
    {plan : Plan} (hplan : plan ∈ g.plans) : plan.length = n := by
  rw [h] at hplan
  obtain ⟨route, hroute, hplan⟩ := List.mem_flatMap.mp (List.mem_of_mem_take hplan)
  rw [finds.length_eq route plan hplan]
  exact of_decide_eq_true (List.mem_filter.mp hroute).2

/-- Nothing is lost when the search stops before a route. -/
theorem stop (h : Gathers results limit n done g) (finds : Finds place results)
    (hsorted : (route :: rest).Pairwise fun a b => a.length ≤ b.length)
    (henough : g.isEnough limit route = true) :
    Gathers results limit n (done ++ route :: rest) g := by
  unfold Gathers
  rw [List.filter_append, List.flatMap_append]
  unfold Gathered.isEnough at henough
  rw [Bool.or_eq_true, Option.any_eq_true, beq_iff_eq] at henough
  obtain ⟨plan, hplan, hlonger⟩ | hfull := henough
  · -- the routes that are left are longer than the plans that there are
    have hplanlength := h.length_of_mem finds (List.mem_of_getLast? hplan)
    have hnone : ((route :: rest).filter fun route => route.length = n) = [] := by
      rw [List.filter_eq_nil_iff]
      intro other hother hn
      have hle := length_le_of_sorted hsorted hother
      rw [decide_eq_true_eq] at hlonger hn
      omega
    rw [hnone, List.flatMap_nil, List.append_nil]
    exact h
  · have hlength := h.length_plans
    rw [List.take_append_of_le_length (by omega)]
    exact h

end Gathers

theorem isEnough_eq_false_iff : g.isEnough limit route = false ↔
    (∀ plan ∈ g.plans.getLast?, route.length ≤ plan.length) ∧ g.plans.length < limit := by
  unfold Gathered.isEnough
  rw [Bool.or_eq_false_iff, Option.any_eq_false, beq_eq_false_iff_ne]
  simp only [decide_eq_false_iff_not, not_lt]
  exact and_congr_right fun _ => by omega

namespace Gathers

/-- A route with results that is looked at has the least length there is. -/
theorem length_eq (h : Gathers results limit n done g) (finds : Finds place results)
    (hsorted : (route :: rest).Pairwise fun a b => a.length ≤ b.length)
    (hleast : IsLeast {n | ∃ other ∈ done ++ route :: rest, other.length = n ∧
      results other ≠ []} n)
    (hmore : g.isEnough limit route = false) (hne : results route ≠ []) : route.length = n := by
  obtain ⟨hlast, hroom⟩ := isEnough_eq_false_iff.mp hmore
  have hge : n ≤ route.length :=
    hleast.2 ⟨route, List.mem_append_right _ List.mem_cons_self, rfl, hne⟩
  obtain ⟨shortest, hshortest, hn, hsome⟩ := hleast.1
  rcases List.mem_append.mp hshortest with hdone | hcoming
  · -- it has been looked at, so that there are plans of length `n`
    have hplans : g.plans ≠ [] := by
      rw [h, Ne, List.take_eq_nil_iff, not_or, List.flatMap_eq_nil_iff]
      refine ⟨by omega, fun hnil => hsome (hnil shortest ?_)⟩
      exact List.mem_filter.mpr ⟨hdone, decide_eq_true hn⟩
    have hle := hlast _ (List.getLast?_eq_some_getLast hplans)
    have hplan := h.length_of_mem finds (List.getLast_mem hplans)
    omega
  · have hle := length_le_of_sorted hsorted hcoming
    omega

/-- Looking at one more route gathers its results. -/
theorem step (h : Gathers results limit n done g) (finds : Finds place results)
    (hlength : results route ≠ [] → route.length = n) (hroom : g.plans.length < limit) :
    Gathers results limit n (done ++ [route]) (g.add (place route (limit - g.plans.length))) := by
  have hall : g.plans = (done.filter fun route => route.length = n).flatMap results := by
    have hplans := h.length_plans
    rw [h, List.take_of_length_le (by omega)]
  unfold Gathers
  rw [add_plans (finds.answers route _ (by omega)), List.filter_append, List.flatMap_append,
    ← hall, List.take_append, List.take_of_length_le hroom.le]
  by_cases hn : route.length = n
  · have hkept : ([route].filter fun route => route.length = n) = [route] := by simp [hn]
    rw [hkept, List.flatMap_singleton]
  · have hnil : results route = [] := not_not.mp fun hne => hn (hlength hne)
    have hdropped : ([route].filter fun route => route.length = n) = [] := by simp [hn]
    rw [hdropped, List.flatMap_nil, hnil]

/-- The run of the search gathers the first results of the least length that has any. -/
theorem run (h : Gathers results limit n done g) (finds : Finds place results)
    (hsorted : rest.Pairwise fun a b => a.length ≤ b.length)
    (hleast : IsLeast {n | ∃ route ∈ done ++ rest, route.length = n ∧ results route ≠ []} n) :
    Gathers results limit n (done ++ rest) (gather place limit g rest) := by
  induction rest generalizing done g with
  | nil =>
      rw [List.append_nil]
      exact h
  | cons route rest ih =>
      rw [gather]
      split
      next henough => exact h.stop finds hsorted henough
      next hmore =>
        rw [Bool.not_eq_true] at hmore
        have hstep := h.step finds (h.length_eq finds hsorted hleast hmore)
          (isEnough_eq_false_iff.mp hmore).2
        rw [List.append_cons] at hleast ⊢
        exact ih hstep (List.pairwise_cons.mp hsorted).2 hleast

end Gathers

theorem gather_plans (limit : Nat) {routes : List Route} (finds : Finds place results)
    (hsorted : routes.Pairwise fun a b => a.length ≤ b.length)
    (hleast : IsLeast {n | ∃ route ∈ routes, route.length = n ∧ results route ≠ []} n) :
    (gather place limit ⟨[], none⟩ routes).plans =
      ((routes.filter fun route => route.length = n).flatMap results).take limit := by
  have hstart : Gathers results limit n [] ⟨[], none⟩ := by
    unfold Gathers
    rw [List.filter_nil, List.flatMap_nil, List.take_nil]
  exact hstart.run finds hsorted hleast

theorem gather_plans_eq_nil (finds : Finds place results)
    (hnone : ∀ route ∈ rest, results route = []) (hg : g.plans = []) :
    (gather place limit g rest).plans = [] := by
  induction rest generalizing g with
  | nil => exact hg
  | cons route rest ih =>
      obtain ⟨hroute, hrest⟩ := List.forall_mem_cons.mp hnone
      rw [gather]
      split
      next => exact hg
      next hmore =>
        rw [Bool.not_eq_true] at hmore
        have hroom := (isEnough_eq_false_iff.mp hmore).2
        apply ih hrest
        rw [add_plans (finds.answers route _ (by omega)), hg, hroute, List.take_nil,
          List.append_nil]

end gather

/-! ### The best of a list of plans -/

section selection
variable (infra : Infrastructure) (request : Request) (plans : List Plan)

theorem length_addGoal {totals : List Float} (h : totals.length = plans.length) (goal : Goal) :
    (addGoal infra request plans totals goal).length = plans.length := by
  unfold addGoal addGoalValues
  split
  · dsimp only
    split
    · exact h
    · rw [List.length_zipWith, List.length_map, h, Nat.min_self]
  · exact h

theorem length_scores (goals : List Goal) :
    (scores infra request plans goals).length = plans.length := by
  have hrun : ∀ totals : List Float, totals.length = plans.length →
      (goals.foldl (addGoal infra request plans) totals).length = plans.length := by
    induction goals with
    | nil => exact fun _ h => h
    | cons goal rest ih =>
        intro totals h
        exact ih _ (length_addGoal infra request plans h goal)
  exact hrun _ (List.length_map _)

theorem bestFrom_lt {best n : Nat} (h : best < n) (top : Float) (values : List Float) :
    bestFrom best top n values < n + values.length := by
  induction values generalizing best top n with
  | nil => exact h
  | cons x rest ih =>
      rw [bestFrom, List.length_cons]
      split
      · have hlt := ih (Nat.lt_add_one_of_lt h) top
        omega
      · have hlt := ih (Nat.lt_add_one n) x
        omega

theorem exists_selectBest {plans : List Plan} (hne : plans ≠ []) (goals : List Goal) :
    ∃ i < plans.length, selectBest infra request plans goals = some i := by
  have hlength := length_scores infra request plans goals
  unfold selectBest
  cases hscores : scores infra request plans goals with
  | nil =>
      rw [hscores] at hlength
      exact absurd (List.eq_nil_of_length_eq_zero hlength.symm) hne
  | cons x rest =>
      rw [hscores, List.length_cons] at hlength
      refine ⟨bestFrom 0 x 1 rest, ?_, rfl⟩
      have hlt := bestFrom_lt (Nat.zero_lt_one) x rest
      omega

end selection

/-! ### The choice -/

section choice
variable (env : Environment) (request : Request)

/-- The placements of all routes of length `n`, in the order in which the routes are found. -/
def Environment.placementsOfLength (depth n : Nat) : List Plan :=
  ((env.routesFor request depth).filter fun route => route.length = n).flatMap
    (env.allPlacements request)

/-- The lengths of the routes that can be placed. -/
def Environment.placeableLengths (depth : Nat) : Set Nat :=
  {n | ∃ route ∈ env.routesFor request depth,
    route.length = n ∧ env.allPlacements request route ≠ []}

theorem placementsOfLength_ne_nil {depth n : Nat} (h : n ∈ env.placeableLengths request depth) :
    env.placementsOfLength request depth n ≠ [] := by
  obtain ⟨route, hroute, hlength, hne⟩ := h
  intro hnil
  refine hne (List.flatMap_eq_nil_iff.mp hnil route (List.mem_filter.mpr ⟨hroute, ?_⟩))
  exact decide_eq_true hlength

theorem length_of_mem_allPlacements {route : Route} {plan : Plan}
    (h : plan ∈ env.allPlacements request route) : plan.length = route.length := by
  rw [← map_leg_of_mem_allPlacements env request h, List.length_map]

theorem length_of_mem_placementsOfLength {depth n : Nat} {plan : Plan}
    (h : plan ∈ env.placementsOfLength request depth n) : plan.length = n := by
  obtain ⟨route, hroute, hplan⟩ := List.mem_flatMap.mp h
  rw [length_of_mem_allPlacements env request hplan]
  exact of_decide_eq_true (List.mem_filter.mp hroute).2

theorem finds_plans : Finds (env.plans request) (env.allPlacements request) := by
  refine ⟨?_, fun _ _ => length_of_mem_allPlacements env request⟩
  intro route room hroom
  have hanswers := plans_answers env request route room
  rwa [Nat.max_eq_left hroom] at hanswers

variable (settings : Settings)

theorem mem_rankedRoutes {route : Route} :
    route ∈ env.rankedRoutes settings request ↔
      route ∈ env.routesFor request settings.maxDepth :=
  (List.mergeSort_perm _ _).mem_iff

theorem candidates_error (h : ¬ (env.placeableLengths request settings.maxDepth).Nonempty) :
    ∃ reason, env.candidates settings request = .error reason := by
  have hnone : (gather (env.plans request) settings.maxCandidates ⟨[], none⟩
      (env.rankedRoutes settings request)).plans = [] := by
    refine gather_plans_eq_nil (finds_plans env request) ?_ rfl
    intro route hroute
    rw [mem_rankedRoutes] at hroute
    by_contra hne
    exact h ⟨route.length, route, hroute, rfl, hne⟩
  unfold Environment.candidates Gathered.result
  rw [hnone]
  exact ⟨_, rfl⟩

/-- The plans that are compared are the first placements of the least length that has any. -/
theorem candidates_eq_take {n : Nat} (hlimit : 1 ≤ settings.maxCandidates)
    (hleast : IsLeast (env.placeableLengths request settings.maxDepth) n) :
    env.candidates settings request =
      .ok ((env.placementsOfLength request settings.maxDepth n).take settings.maxCandidates) := by
  have hlengths : env.placeableLengths request settings.maxDepth =
      {n | ∃ route ∈ env.rankedRoutes settings request, route.length = n ∧
        env.allPlacements request route ≠ []} := by
    simp only [mem_rankedRoutes]
    rfl
  have hsorted : (env.rankedRoutes settings request).Pairwise fun a b => a.length ≤ b.length :=
    pairwise_shortestFirst _
  have hfilter : ((env.rankedRoutes settings request).filter fun route => route.length = n) =
      (env.routesFor request settings.maxDepth).filter fun route => route.length = n :=
    filter_shortestFirst _ n
  have hne := placementsOfLength_ne_nil env request hleast.1
  rw [hlengths] at hleast
  have hplans := gather_plans settings.maxCandidates (finds_plans env request) hsorted hleast
  rw [hfilter] at hplans
  unfold Environment.candidates Gathered.result
  rw [hplans, if_neg]
  · rfl
  · rw [List.isEmpty_iff, List.take_eq_nil_iff, not_or]
    exact ⟨by omega, hne⟩

theorem bestChoice_of_selectBest {plans : List Plan} {i : Nat} {best : Plan}
    (h : env.candidates settings request = .ok plans)
    (hselect : selectBest env.infrastructure request plans request.policy.goals = some i)
    (hbest : plans[i]? = some best) : env.bestChoice settings request = .ok best := by
  unfold Environment.bestChoice
  rw [h]
  dsimp only [bind, Except.bind]
  rw [hselect, Option.getD_some, hbest]
  rfl

theorem bestChoice_of_candidates {plans : List Plan}
    (h : env.candidates settings request = .ok plans) (hne : plans ≠ []) :
    ∃ i best, selectBest env.infrastructure request plans request.policy.goals = some i ∧
      plans[i]? = some best ∧ env.bestChoice settings request = .ok best := by
  obtain ⟨i, hi, hselect⟩ := exists_selectBest env.infrastructure request hne request.policy.goals
  have hbest : plans[i]? = some plans[i] := List.getElem?_eq_getElem hi
  exact ⟨i, plans[i], hselect, hbest, bestChoice_of_selectBest env request settings h hselect hbest⟩

theorem solve_of_isLeast {n : Nat} (hcompares : settings.comparesPlans request = true)
    (hlimit : 1 ≤ settings.maxCandidates)
    (hleast : IsLeast (env.placeableLengths request settings.maxDepth) n) :
    ∃ i best, selectBest env.infrastructure request
        ((env.placementsOfLength request settings.maxDepth n).take settings.maxCandidates)
        request.policy.goals = some i ∧
      ((env.placementsOfLength request settings.maxDepth n).take settings.maxCandidates)[i]? =
        some best ∧
      env.solve settings request = .ok best := by
  have hne : (env.placementsOfLength request settings.maxDepth n).take
      settings.maxCandidates ≠ [] := by
    rw [Ne, List.take_eq_nil_iff, not_or]
    exact ⟨by omega, placementsOfLength_ne_nil env request hleast.1⟩
  have hcandidates := candidates_eq_take env request settings hlimit hleast
  unfold Environment.solve
  rw [if_pos hcompares]
  exact bestChoice_of_candidates env request settings hcandidates hne

theorem comparesPlans_iff :
    settings.comparesPlans request = true ↔
      settings.optimize = true ∧ request.policy.goals ≠ [] := by
  unfold Settings.comparesPlans
  rw [Bool.and_eq_true, Bool.not_eq_true', List.isEmpty_eq_false_iff]

theorem placeable_of_solve {plan : Plan} (hcompares : settings.comparesPlans request = true)
    (hsolve : env.solve settings request = .ok plan) :
    (env.placeableLengths request settings.maxDepth).Nonempty := by
  by_contra hnone
  obtain ⟨reason, hreason⟩ := candidates_error env request settings hnone
  unfold Environment.solve Environment.bestChoice at hsolve
  rw [if_pos hcompares, hreason] at hsolve
  exact nomatch hsolve

/-- With room for all placements of the least length the limit does not matter. -/
theorem exists_solve_of_length_le {n : Nat} (hcompares : settings.comparesPlans request = true)
    (hleast : IsLeast (env.placeableLengths request settings.maxDepth) n) :
    ∃ best, ∀ limit, (env.placementsOfLength request settings.maxDepth n).length ≤ limit →
      env.solve { settings with maxCandidates := limit } request = .ok best := by
  have hne := placementsOfLength_ne_nil env request hleast.1
  obtain ⟨i, hi, hselect⟩ := exists_selectBest env.infrastructure request hne request.policy.goals
  refine ⟨(env.placementsOfLength request settings.maxDepth n)[i], ?_⟩
  intro limit hall
  have hpos : 1 ≤ limit := (List.length_pos_iff.mpr hne).trans_le hall
  obtain ⟨j, best, hj, hbest, hsolve⟩ :=
    solve_of_isLeast env request { settings with maxCandidates := limit } hcompares hpos hleast
  rw [List.take_of_length_le hall] at hj hbest
  obtain rfl : i = j := Option.some.inj (hselect.symm.trans hj)
  rw [List.getElem?_eq_getElem hi] at hbest
  rw [hsolve, ← Option.some.inj hbest]

end choice

/-- **The best of the shortest placeable routes is chosen.**  Of the routes that can be placed let
those of the least length `n` be given.  Their placements are compared, as many as the limit
allows, and the plan is the best of these; no shorter route can be placed, and every limit that
leaves out no placement leads to one and the same plan. -/
theorem solve_eq_best_of_shortest {env : Environment} {request : Request} {settings : Settings}
    {plan : Plan} (hgoals : request.policy.goals ≠ []) (hoptimize : settings.optimize = true)
    (hlimit : 1 ≤ settings.maxCandidates) (hsolve : env.solve settings request = .ok plan) :
    ∃ n, IsLeast (env.placeableLengths request settings.maxDepth) n ∧
      env.candidates settings request = .ok
        ((env.placementsOfLength request settings.maxDepth n).take settings.maxCandidates) ∧
      (∃ i, selectBest env.infrastructure request
          ((env.placementsOfLength request settings.maxDepth n).take settings.maxCandidates)
          request.policy.goals = some i ∧
        ((env.placementsOfLength request settings.maxDepth n).take settings.maxCandidates)[i]? =
          some plan) ∧
      plan.length = n ∧
      (∀ route ∈ env.routesFor request settings.maxDepth, route.length < plan.length →
        env.allPlacements request route = []) ∧
      ∃ best, ∀ limit, (env.placementsOfLength request settings.maxDepth n).length ≤ limit →
        env.solve { settings with maxCandidates := limit } request = .ok best := by
  have hcompares : settings.comparesPlans request = true :=
    (comparesPlans_iff request settings).mpr ⟨hoptimize, hgoals⟩
  have hsome := placeable_of_solve env request settings hcompares hsolve
  have hleast : IsLeast (env.placeableLengths request settings.maxDepth)
      (sInf (env.placeableLengths request settings.maxDepth)) :=
    ⟨Nat.sInf_mem hsome, fun _ h => Nat.sInf_le h⟩
  obtain ⟨i, best, hselect, hbest, hsolved⟩ :=
    solve_of_isLeast env request settings hcompares hlimit hleast
  obtain rfl : best = plan := by
    rw [hsolved] at hsolve
    exact Except.ok.inj hsolve
  have hlength := length_of_mem_placementsOfLength env request
    (List.mem_of_mem_take (List.mem_of_getElem? hbest))
  refine ⟨_, hleast, candidates_eq_take env request settings hlimit hleast, ⟨i, hselect, hbest⟩,
    hlength, ?_, exists_solve_of_length_le env request settings hcompares hleast⟩
  intro route hroute hshorter
  by_contra hne
  have hle := hleast.2 ⟨route, hroute, rfl, hne⟩
  omega

theorem sample_solve_eq_best :
    Sample.environment.solve ⟨4, true, 3⟩ Sample.request =
        .ok (Sample.planIn Sample.dear Sample.cheap) ∧
      IsLeast (Sample.environment.placeableLengths Sample.request 4) 2 ∧
      ∃ best, ∀ limit, 4 ≤ limit →
        Sample.environment.solve ⟨4, true, limit⟩ Sample.request = .ok best := by
  have hranked : Sample.environment.rankedRoutes ⟨4, true, 3⟩ Sample.request =
      Sample.environment.routesFor Sample.request 4 :=
    List.mergeSort_of_pairwise (by decide)
  have hcandidates : Sample.environment.candidates ⟨4, true, 3⟩ Sample.request =
      .ok [Sample.planIn Sample.dear Sample.dear, Sample.planIn Sample.dear Sample.cheap,
        Sample.planIn Sample.cheap Sample.dear] := by
    unfold Environment.candidates
    rw [hranked]
    rfl
  have hselect : selectBest Sample.environment.infrastructure Sample.request
      [Sample.planIn Sample.dear Sample.dear, Sample.planIn Sample.dear Sample.cheap,
        Sample.planIn Sample.cheap Sample.dear] Sample.request.policy.goals = some 1 := by
    decide +kernel
  have hsolve : Sample.environment.solve ⟨4, true, 3⟩ Sample.request =
      .ok (Sample.planIn Sample.dear Sample.cheap) := by
    obtain ⟨i, plan, hi, hplan, hchoice⟩ := bestChoice_of_candidates _ _ _ hcandidates (by simp)
    obtain rfl : 1 = i := Option.some.inj (hselect.symm.trans hi)
    obtain rfl := Option.some.inj hplan
    exact hchoice
  have hall : (Sample.environment.placementsOfLength Sample.request 4 2).length = 4 := by decide
  obtain ⟨n, hleast, -, -, hlength, -, best, hbest⟩ :=
    solve_eq_best_of_shortest (by decide) rfl (by decide) hsolve
  obtain rfl : 2 = n := hlength
  exact ⟨hsolve, hleast, best, fun limit hlimit => hbest limit (hall.trans_le hlimit)⟩

end DataRoute
