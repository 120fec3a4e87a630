import DataRoute.Proofs.Failure

/-! # Goals that do not count

A goal counts if its weight lies between zero and one and its attribute is given for some object
(`counts_iff`).  The totals of plans are the same without the goals that do not count
(`scores_withoutIgnored`), so leaving these out changes no answer as long as a goal is left.  If
none is left, plans are no longer compared, and the greedy choice takes the place of the first
placement (`bestChoice_of_ignored`).  The two take the same plan exactly if it is the greedy plan
of its route, and both report the same failure (`solve_withoutIgnored`). -/

namespace DataRoute

/-! ### Requests with other goals -/

/-- A request with other goals. -/
def Request.withGoals (request : Request) (goals : List Goal) : Request :=
  { request with policy := { request.policy with goals } }

/-- A request without the goals that do not count. -/
def Request.withoutIgnored (request : Request) (infra : Infrastructure) : Request :=
  request.withGoals (request.policy.goals.filter (Goal.counts infra))

section goals
variable (env : Environment) (settings : Settings) (request : Request) (goals : List Goal)

theorem greedyFrom_withGoals (missing : Option CapabilityKind) (route : Route) (d : Duties) :
    env.greedyFrom (request.withGoals goals) missing route d =
      env.greedyFrom request missing route d := by
  induction route generalizing d with
  | nil => rfl
  | cons leg later ih =>
      rw [Environment.greedyFrom, Environment.greedyFrom]
      simp only [ih]
      rfl

theorem plansFrom_withGoals (missing : Option CapabilityKind) (route : Route) (d : Duties)
    (room : Nat) :
    env.plansFrom (request.withGoals goals) missing route d room =
      env.plansFrom request missing route d room := by
  induction route generalizing d room with
  | nil => rfl
  | cons leg later ih =>
      rw [Environment.plansFrom, Environment.plansFrom]
      simp only [ih]
      rfl

theorem greedyChoice_withGoals :
    env.greedyChoice settings (request.withGoals goals) = env.greedyChoice settings request := by
  have hplace : env.greedyPlan (request.withGoals goals) = env.greedyPlan request :=
    funext fun route => greedyFrom_withGoals env request goals _ route _
  unfold Environment.greedyChoice
  rw [hplace]
  rfl

theorem candidates_withGoals :
    env.candidates settings (request.withGoals goals) = env.candidates settings request := by
  have hplace : env.plans (request.withGoals goals) = env.plans request :=
    funext fun route => funext fun limit => plansFrom_withGoals env request goals _ route _ _
  unfold Environment.candidates
  rw [hplace]
  rfl

end goals

/-! ### Totals -/

section totals
variable {infra : Infrastructure} {request : Request}

theorem counts_iff {goal : Goal} : goal.counts infra = true ↔
    (0.0 ≤ goal.weight ∧ goal.weight ≤ 1.0) ∧
      ∃ a ∈ infra.attributes, a.name = goal.attributeName := by
  have hkinds : (infra.objectKinds goal.attributeName).isEmpty = false ↔
      ∃ a ∈ infra.attributes, a.name = goal.attributeName := by
    rw [List.isEmpty_eq_false_iff_exists_mem]
    unfold Infrastructure.objectKinds
    simp only [List.mem_eraseDups, List.mem_map, List.mem_filter, beq_iff_eq]
    constructor
    · rintro ⟨_, a, ha, -⟩
      exact ⟨a, ha⟩
    · rintro ⟨a, ha⟩
      exact ⟨a.object, a, ha, rfl⟩
  unfold Goal.counts
  rw [Bool.and_eq_true, Bool.and_eq_true, decide_eq_true_eq, decide_eq_true_eq, Bool.not_eq_true',
    hkinds]

theorem filter_counts_eq_nil {goals : List Goal}
    (h : ∀ goal ∈ goals, goal.counts infra = false) : goals.filter (Goal.counts infra) = [] := by
  rw [List.filter_eq_nil_iff]
  intro goal hgoal
  rw [h goal hgoal]
  exact Bool.false_ne_true

theorem scores_withoutIgnored (plans : List Plan) (goals : List Goal) :
    scores infra request plans (goals.filter (Goal.counts infra)) =
      scores infra request plans goals := by
  unfold scores
  rw [List.foldl_filter]
  refine congrArg (fun add => goals.foldl add _) (funext fun totals => funext fun goal => ?_)
  unfold addGoal
  split <;> rfl

/-- The first of several zeros is the greatest value. -/
theorem bestFrom_zeros (best n : Nat) {values : List Float} (h : ∀ x ∈ values, x = 0.0) :
    bestFrom best 0.0 n values = best := by
  induction values generalizing n with
  | nil => rfl
  | cons x rest ih =>
      obtain ⟨rfl, hrest⟩ := List.forall_mem_cons.mp h
      rw [bestFrom, if_pos (by decide), ih (n + 1) hrest]

theorem selectBest_of_ignored {plans : List Plan} {goals : List Goal} (hplans : plans ≠ [])
    (hgoals : ∀ goal ∈ goals, goal.counts infra = false) :
    selectBest infra request plans goals = some 0 := by
  unfold selectBest
  rw [← scores_withoutIgnored, filter_counts_eq_nil hgoals]
  cases plans with
  | nil => exact absurd rfl hplans
  | cons plan rest =>
      refine congrArg some (bestFrom_zeros 0 1 fun x hx => ?_)
      obtain ⟨_, -, rfl⟩ := List.mem_map.mp hx
      rfl

end totals

/-! ### First placements -/

theorem firstPlan_eq_ok_iff {place : Route → Except Rejection Plan} {otherwise : Failure}
    {routes : List Route} {plan : Plan} :
    firstPlan place otherwise routes = .ok plan ↔
      routes.findSome? (fun route => (place route).toOption) = some plan := by
  induction routes with
  | nil => exact ⟨fun h => (nomatch h), fun h => (nomatch h)⟩
  | cons route rest ih =>
      rw [firstPlan, List.findSome?_cons]
      cases place route with
      | ok found =>
          rw [Except.ok.injEq]
          exact ⟨congrArg some, Option.some.inj⟩
      | error reason =>
          refine Iff.trans ?_ ih
          cases firstPlan place otherwise rest <;> simp

section gather
variable {place : Route → Nat → Except Rejection (List Plan)} {results : Route → List Plan}
  {limit : Nat}

theorem head?_gather_of_ne_nil (finds : Finds place results) {g : Gathered} (h : g.plans ≠ [])
    (routes : List Route) : (gather place limit g routes).plans.head? = g.plans.head? := by
  induction routes generalizing g with
  | nil => rfl
  | cons route rest ih =>
      rw [gather]
      split
      next => rfl
      next hmore =>
        rw [Bool.not_eq_true] at hmore
        have hroom := (isEnough_eq_false_iff.mp hmore).2
        have hadd := add_plans (finds.answers route _ (Nat.sub_pos_of_lt hroom)) g
        rw [ih (by rw [hadd]; exact List.append_ne_nil_of_left_ne_nil h _), hadd,
          List.head?_append_of_ne_nil _ h]

/-- The first plan that is gathered is the first result of the first route that has any. -/
theorem head?_gather (finds : Finds place results) (hlimit : 1 ≤ limit) {g : Gathered}
    (h : g.plans = []) (routes : List Route) :
    (gather place limit g routes).plans.head? =
      routes.findSome? fun route => (results route).head? := by
  induction routes generalizing g with
  | nil =>
      rw [gather, h]
      rfl
  | cons route rest ih =>
      have hmore : g.isEnough limit route = false := by
        rw [isEnough_eq_false_iff, h]
        exact ⟨by simp, hlimit⟩
      have hadd : (g.add (place route (limit - g.plans.length))).plans =
          (results route).take limit := by
        rw [h, List.length_nil, Nat.sub_zero, add_plans (finds.answers route _ hlimit), h,
          List.nil_append]
      rw [gather, hmore, List.findSome?_cons]
      simp only [Bool.false_eq_true, if_false]
      cases hresults : results route with
      | nil =>
          rw [hresults, List.take_nil] at hadd
          exact ih hadd
      | cons plan others =>
          have hhead : ((results route).take limit).head? = some plan := by
            rw [List.head?_take, if_neg (by omega), hresults, List.head?_cons]
          have hne : (results route).take limit ≠ [] :=
            List.ne_nil_of_mem (List.mem_of_mem_head? hhead)
          rw [← hadd] at hhead hne
          rw [head?_gather_of_ne_nil finds hne, hhead]
          rfl

end gather

section choice
variable {env : Environment} {settings : Settings} {request : Request}

/-- The first of the plans that are compared is the first placement of the first of the ranked
routes that has one. -/
theorem head?_candidates {plans : List Plan} (hlimit : 1 ≤ settings.maxCandidates)
    (h : env.candidates settings request = .ok plans) :
    plans.head? = (env.rankedRoutes settings request).findSome? fun route =>
      (env.allPlacements request route).head? := by
  unfold Environment.candidates Gathered.result at h
  split at h
  · exact nomatch h
  · obtain rfl := Except.ok.inj h
    exact head?_gather (finds_plans env request) hlimit rfl _

theorem bestChoice_of_ignored {plan : Plan} (hlimit : 1 ≤ settings.maxCandidates)
    (hgoals : ∀ goal ∈ request.policy.goals, goal.counts env.infrastructure = false)
    (h : env.bestChoice settings request = .ok plan) :
    (env.rankedRoutes settings request).findSome? (fun route =>
      (env.allPlacements request route).head?) = some plan := by
  obtain ⟨plans, hplans, -⟩ := mem_of_bestChoice h
  have hne := ne_nil_of_candidates hplans
  obtain ⟨i, best, hselect, hbest, hchoice⟩ :=
    bestChoice_of_candidates env request settings hplans hne
  rw [selectBest_of_ignored hne hgoals] at hselect
  obtain rfl := Option.some.inj hselect
  rw [hchoice] at h
  obtain rfl := Except.ok.inj h
  rw [← head?_candidates hlimit hplans, List.head?_eq_getElem?, hbest]

theorem map_leg_of_greedyPlan {route : Route} {plan : Plan}
    (h : env.greedyPlan request route = .ok plan) : plan.map PlacedLeg.leg = route :=
  map_leg_of_mem_allPlacements env request
    (List.mem_of_mem_head? (head?_allPlacements env request h))

theorem greedyChoice_eq_iff {plan : Plan}
    (h : (env.rankedRoutes settings request).findSome? (fun route =>
      (env.allPlacements request route).head?) = some plan) :
    env.greedyChoice settings request = .ok plan ↔
      env.greedyPlan request (plan.map PlacedLeg.leg) = .ok plan := by
  unfold Environment.greedyChoice
  constructor
  · intro hgreedy
    obtain ⟨route, -, hroute⟩ := exists_of_firstPlan hgreedy
    rwa [map_leg_of_greedyPlan hroute]
  · intro hgreedy
    obtain ⟨before, route, after, hranked, hroute, hbefore⟩ := List.findSome?_eq_some_iff.mp h
    obtain rfl := map_leg_of_mem_allPlacements env request (List.mem_of_mem_head? hroute)
    rw [firstPlan_eq_ok_iff, List.findSome?_eq_some_iff]
    refine ⟨before, _, after, hranked, by rw [hgreedy]; rfl, fun other hother => ?_⟩
    obtain ⟨reason, hreason⟩ :=
      exists_reason_of_allPlacements_eq_nil (List.head?_eq_none_iff.mp (hbefore other hother))
    rw [hreason]
    rfl

/-! ### The choice without the goals that do not count -/

theorem bestChoice_withoutIgnored :
    env.bestChoice settings (request.withoutIgnored env.infrastructure) =
      env.bestChoice settings request := by
  have hselect : ∀ plans, selectBest env.infrastructure
      (request.withoutIgnored env.infrastructure) plans
        (request.withoutIgnored env.infrastructure).policy.goals =
      selectBest env.infrastructure request plans request.policy.goals := by
    intro plans
    unfold selectBest
    exact congrArg best? (scores_withoutIgnored plans request.policy.goals)
  unfold Environment.bestChoice
  simp only [hselect]
  unfold Request.withoutIgnored
  rw [candidates_withGoals]
  rfl

theorem comparesPlans_withoutIgnored {infra : Infrastructure}
    (h : ∃ goal ∈ request.policy.goals, goal.counts infra = true) :
    settings.comparesPlans (request.withoutIgnored infra) = settings.comparesPlans request := by
  obtain ⟨goal, hgoal, hcounts⟩ := h
  have hleft : goal ∈ request.policy.goals.filter (Goal.counts infra) :=
    List.mem_filter.mpr ⟨hgoal, hcounts⟩
  rw [Bool.eq_iff_iff, comparesPlans_iff, comparesPlans_iff]
  exact and_congr_right fun _ =>
    ⟨fun _ => List.ne_nil_of_mem hgoal, fun _ => List.ne_nil_of_mem hleft⟩

theorem solve_withoutIgnored_of_none
    (hgoals : ∀ goal ∈ request.policy.goals, goal.counts env.infrastructure = false) :
    env.solve settings (request.withoutIgnored env.infrastructure) =
      env.greedyChoice settings request := by
  have hmode : ¬ settings.comparesPlans (request.withoutIgnored env.infrastructure) = true := by
    rw [comparesPlans_iff]
    exact fun h => h.2 (filter_counts_eq_nil hgoals)
  unfold Environment.solve
  rw [if_neg hmode]
  exact greedyChoice_withGoals env settings request _

theorem greedyChoice_of_candidates {failure : Failure} (hlimit : 1 ≤ settings.maxCandidates)
    (h : env.candidates settings request = .error failure) :
    env.greedyChoice settings request = .error failure := by
  obtain ⟨hnone, rfl⟩ := (candidates_eq_error_iff hlimit).mp h
  unfold Environment.greedyChoice
  rw [firstPlan_eq_error_iff]
  refine ⟨fun route hroute => ?_, rfl⟩
  rw [mem_rankedRoutes] at hroute
  exact exists_reason_of_allPlacements_eq_nil (hnone route hroute)

end choice

/-- **Goals that do not count.**  Leaving out the goals that do not count changes no answer if plans
are not compared anyway or a goal is left.  If none is left, the greedy choice takes the place of
the first placement: a failure stays the failure, and a plan stays the plan exactly if it is the
greedy plan of its route. -/
theorem solve_withoutIgnored (env : Environment) (settings : Settings) (request : Request) :
    (∀ goal : Goal, goal.counts env.infrastructure = true ↔
      (0.0 ≤ goal.weight ∧ goal.weight ≤ 1.0) ∧
        ∃ a ∈ env.infrastructure.attributes, a.name = goal.attributeName) ∧
    (settings.optimize = false ∨ request.policy.goals = [] ∨
        (∃ goal ∈ request.policy.goals, goal.counts env.infrastructure = true) →
      env.solve settings (request.withoutIgnored env.infrastructure) =
        env.solve settings request) ∧
    (settings.optimize = true → request.policy.goals ≠ [] → 1 ≤ settings.maxCandidates →
      (∀ goal ∈ request.policy.goals, goal.counts env.infrastructure = false) →
      (∀ failure, env.solve settings request = .error failure →
        env.solve settings (request.withoutIgnored env.infrastructure) = .error failure) ∧
      ∀ plan, env.solve settings request = .ok plan →
        (env.solve settings (request.withoutIgnored env.infrastructure) = .ok plan ↔
          env.greedyPlan request (plan.map PlacedLeg.leg) = .ok plan)) := by
  refine ⟨fun _ => counts_iff, ?_, ?_⟩
  · rintro (hoff | hnil | hleft)
    · unfold Environment.solve Settings.comparesPlans
      rw [hoff]
      exact greedyChoice_withGoals env settings request _
    · unfold Request.withoutIgnored Request.withGoals
      rw [hnil, List.filter_nil, ← hnil]
    · unfold Environment.solve
      rw [comparesPlans_withoutIgnored hleft, bestChoice_withoutIgnored]
      unfold Request.withoutIgnored
      rw [greedyChoice_withGoals]
  · intro hoptimize hsome hlimit hgoals
    have hbest : env.solve settings request = env.bestChoice settings request :=
      if_pos ((comparesPlans_iff request settings).mpr ⟨hoptimize, hsome⟩)
    rw [solve_withoutIgnored_of_none hgoals, hbest]
    refine ⟨fun failure hfailure => ?_, fun plan hplan => ?_⟩
    · exact greedyChoice_of_candidates hlimit (bestChoice_eq_error_iff.mp hfailure)
    · exact greedyChoice_eq_iff (bestChoice_of_ignored hlimit hgoals hplan)

namespace Sample

/-- The goal of the workload, one on an attribute that nobody knows, and one that weighs too
much. -/
def wishful : Request :=
  request.withGoals
    [⟨"cost", .minimize, 1.0⟩, ⟨"bandwidth", .maximize, 1.0⟩, ⟨"cost", .maximize, 1.5⟩]

/-- A workload whose actions may be applied in no cluster, and whose goals do not count. -/
def indifferent : Request :=
  strict.withGoals [⟨"bandwidth", .maximize, 1.0⟩, ⟨"cost", .maximize, 1.5⟩]

/-- Copies rows to the account where nothing is required, and serves them, in two clusters. -/
def freePlanIn (first second : Cluster) : Plan :=
  [⟨copying, [], first, some free⟩, ⟨reading, [], second, none⟩]

theorem rankedRoutes_indifferent :
    roomy.rankedRoutes .default indifferent = roomy.routesFor indifferent 4 :=
  List.mergeSort_of_pairwise (by decide)

theorem candidates_indifferent : roomy.candidates .default indifferent =
    .ok [freePlanIn dear dear, freePlanIn dear cheap, freePlanIn cheap dear,
      freePlanIn cheap cheap] := by
  unfold Environment.candidates
  rw [rankedRoutes_indifferent]
  rfl

theorem solve_indifferent : roomy.solve .default indifferent = .ok (freePlanIn dear dear) := by
  have hselect : selectBest roomy.infrastructure indifferent
      [freePlanIn dear dear, freePlanIn dear cheap, freePlanIn cheap dear, freePlanIn cheap cheap]
      indifferent.policy.goals = some 0 := by
    decide +kernel
  exact bestChoice_of_selectBest _ _ _ candidates_indifferent hselect rfl

end Sample

theorem sample_withoutIgnored :
    Sample.environment.solve .default
        (Sample.wishful.withoutIgnored Sample.environment.infrastructure) =
        Sample.environment.solve .default Sample.wishful ∧
      Sample.roomy.solve .default Sample.indifferent =
        .ok (Sample.freePlanIn Sample.dear Sample.dear) ∧
      ¬ Sample.roomy.solve .default
          (Sample.indifferent.withoutIgnored Sample.roomy.infrastructure) =
        .ok (Sample.freePlanIn Sample.dear Sample.dear) := by
  refine ⟨(solve_withoutIgnored _ _ _).2.1 (.inr (.inr ⟨_, List.mem_cons_self, by decide⟩)),
    Sample.solve_indifferent, ?_⟩
  have hkept := ((solve_withoutIgnored Sample.roomy .default Sample.indifferent).2.2 rfl (by decide)
    (by decide) (by decide)).2 _ Sample.solve_indifferent
  rw [hkept]
  exact fun h => (nomatch h)

/-- Without the goals that do not count the request fails: the greedy choice takes the first
account, which requires an action that may be applied nowhere. -/
theorem sample_ignored_goals_matter :
    Sample.roomy.solve .default Sample.indifferent =
        .ok (Sample.freePlanIn Sample.dear Sample.dear) ∧
      Sample.roomy.solve .default
          (Sample.indifferent.withoutIgnored Sample.roomy.infrastructure) =
        .error (.rejected (.noCluster .read)) := by
  refine ⟨Sample.solve_indifferent, ?_⟩
  rw [solve_withoutIgnored_of_none (by decide)]
  unfold Environment.greedyChoice
  rw [Sample.rankedRoutes_indifferent]
  rfl

end DataRoute
