import DataRoute.Proofs.Deployment
import DataRoute.Proofs.Greedy

/-! # When and why a request fails

A route serves a request if it has a greedy plan or, where plans are compared, any placement
(`Environment.Serves`).  A request fails exactly if no route serves it, and then for the reason why
the first of the ranked routes has no greedy plan (`solve_eq_error_iff`).  Both ways of choosing
report this one reason: the greedy choice keeps the first one that it meets
(`firstPlan_eq_error_iff`), and so does the search for the plans to compare (`gather_reason`),
whose first route has the reason of the greedy walk (`Leads.eq_error`).  Since a greedy plan is a
placement, comparing plans serves every request that the greedy choice serves, and with a plan that
is not longer (`comparing_serves`).  In a batch the deadline is one more reason, which no request
has on its own (`solveInTime_outcomes`). -/

namespace DataRoute

/-! ### The greedy choice -/

section first
variable {place : Route → Except Rejection Plan} {otherwise failure : Failure}

/-- The failure of a list of routes none of which can be placed: the reason of the first one, if
there is one. -/
def failureOf (place : Route → Except Rejection Plan) (otherwise : Failure) : List Route → Failure
  | [] => otherwise
  | route :: _ =>
    match place route with
    | .error reason => .rejected reason
    | .ok _ => otherwise

theorem firstPlan_eq_error_iff {routes : List Route} :
    firstPlan place otherwise routes = .error failure ↔
      (∀ route ∈ routes, ∃ reason, place route = .error reason) ∧
        failure = failureOf place otherwise routes := by
  induction routes generalizing failure with
  | nil =>
      rw [firstPlan, failureOf, Except.error.injEq, eq_comm]
      simp only [List.not_mem_nil, false_imp_iff, implies_true, true_and]
  | cons route rest ih =>
      rw [firstPlan, failureOf, List.forall_mem_cons]
      cases hplace : place route with
      | ok plan => simp
      | error reason =>
          cases hrest : firstPlan place otherwise rest with
          | ok plan =>
              -- some later route has a plan
              have hsome : ¬ ∀ route ∈ rest, ∃ reason, place route = .error reason := by
                intro hall
                rw [ih.mpr ⟨hall, rfl⟩] at hrest
                cases hrest
              simp [hsome]
          | error later =>
              have hall := (ih.mp hrest).1
              constructor
              · intro h
                exact ⟨⟨⟨reason, rfl⟩, hall⟩, (Except.error.inj h).symm⟩
              · rintro ⟨-, rfl⟩
                rfl

end first

/-! ### The plans that are compared -/

section gather
variable {place : Route → Nat → Except Rejection (List Plan)} {limit : Nat} {g : Gathered}

theorem add_reason {reason : Rejection} (h : g.reason = some reason)
    (answer : Except Rejection (List Plan)) : (g.add answer).reason = some reason := by
  cases answer with
  | ok found => exact h
  | error later =>
      unfold Gathered.add
      dsimp only
      rw [h, Option.some_or]

theorem gather_reason {reason : Rejection} (h : g.reason = some reason) (routes : List Route) :
    (gather place limit g routes).reason = some reason := by
  induction routes generalizing g with
  | nil => exact h
  | cons route rest ih =>
      rw [gather]
      split
      · exact h
      · exact ih (add_reason h _)

theorem gather_zero (routes : List Route) : gather place 0 g routes = g := by
  cases routes with
  | nil => rfl
  | cons route rest =>
      rw [gather, if_pos]
      unfold Gathered.isEnough
      rw [Nat.zero_sub, beq_self_eq_true, Bool.or_true]

end gather

section choice
variable {env : Environment} {request : Request} {settings : Settings} {failure : Failure}

/-- Whether a route serves a request: it has a greedy plan or, if plans are compared, any
placement. -/
def Environment.Serves (env : Environment) (settings : Settings) (request : Request)
    (route : Route) : Prop :=
  if settings.comparesPlans request = true then env.allPlacements request route ≠ []
  else ∃ plan, env.greedyPlan request route = .ok plan

/-- The failure of a request that no route serves. -/
def Environment.failureFor (env : Environment) (settings : Settings) (request : Request) :
    Failure :=
  failureOf (env.greedyPlan request) (.noRouteFor request) (env.rankedRoutes settings request)

theorem exists_reason_of_allPlacements_eq_nil {route : Route}
    (h : env.allPlacements request route = []) :
    ∃ reason, env.greedyPlan request route = .error reason := by
  cases hgreedy : env.greedyPlan request route with
  | error reason => exact ⟨reason, rfl⟩
  | ok plan =>
      have hhead := head?_allPlacements env request hgreedy
      rw [h] at hhead
      exact nomatch hhead

theorem exists_reason_of_not_serves {route : Route} (h : ¬ env.Serves settings request route) :
    ∃ reason, env.greedyPlan request route = .error reason := by
  unfold Environment.Serves at h
  split at h
  · exact exists_reason_of_allPlacements_eq_nil (not_not.mp h)
  · cases hgreedy : env.greedyPlan request route with
    | error reason => exact ⟨reason, rfl⟩
    | ok plan => exact absurd ⟨plan, hgreedy⟩ h

theorem mem_routesFor_of_rankedRoutes {route : Route} {rest : List Route}
    (h : env.rankedRoutes settings request = route :: rest) :
    route ∈ env.routesFor request settings.maxDepth := by
  rw [← mem_rankedRoutes, h]
  exact List.mem_cons_self

theorem candidates_of_zero (hlimit : settings.maxCandidates = 0) :
    env.candidates settings request = .error (.noRouteFor request) := by
  unfold Environment.candidates
  rw [hlimit, gather_zero]
  rfl

theorem exists_isLeast_of_placeable {depth : Nat} {route : Route}
    (hroute : route ∈ env.routesFor request depth) (hne : env.allPlacements request route ≠ []) :
    ∃ n, IsLeast (env.placeableLengths request depth) n ∧ n ≤ route.length := by
  have hlength : route.length ∈ env.placeableLengths request depth := ⟨route, hroute, rfl, hne⟩
  exact ⟨_, ⟨Nat.sInf_mem ⟨_, hlength⟩, fun _ h => Nat.sInf_le h⟩, Nat.sInf_le hlength⟩

theorem allPlacements_eq_nil_of_candidates (hlimit : 1 ≤ settings.maxCandidates)
    (h : env.candidates settings request = .error failure) :
    ∀ route ∈ env.routesFor request settings.maxDepth, env.allPlacements request route = [] := by
  intro route hroute
  by_contra hne
  obtain ⟨n, hleast, -⟩ := exists_isLeast_of_placeable hroute hne
  rw [candidates_eq_take env request settings hlimit hleast] at h
  exact nomatch h

/-- If the first of the ranked routes has no plan, the reason why there are no plans to compare is
the reason of its greedy walk. -/
theorem candidates_reason {route : Route} {rest : List Route} (hlimit : 1 ≤ settings.maxCandidates)
    (hranked : env.rankedRoutes settings request = route :: rest)
    (hroute : env.allPlacements request route = [])
    (h : env.candidates settings request = .error failure) :
    ∃ reason, env.greedyPlan request route = .error reason ∧ failure = .rejected reason := by
  obtain ⟨reason, hreason⟩ :=
    (plans_answers env request route (settings.maxCandidates - 0)).eq_error_iff.mpr hroute
  refine ⟨reason, (greedyPlan_leads_plans env request route _).eq_error hreason, ?_⟩
  have hmore : (⟨[], none⟩ : Gathered).isEnough settings.maxCandidates route = false :=
    isEnough_eq_false_iff.mpr ⟨fun _ hplan => absurd hplan (by simp), hlimit⟩
  have hkept : (gather (env.plans request) settings.maxCandidates
      ((⟨[], none⟩ : Gathered).add (.error reason)) rest).reason = some reason :=
    gather_reason rfl rest
  unfold Environment.candidates at h
  rw [hranked, gather, hmore] at h
  simp only [Bool.false_eq_true, if_false, List.length_nil] at h
  rw [hreason] at h
  unfold Gathered.result at h
  split at h
  · rw [hkept] at h
    exact (Except.error.inj h).symm
  · cases h

/-- There are no plans to compare exactly if no route can be placed. -/
theorem candidates_eq_error_iff (hlimit : 1 ≤ settings.maxCandidates) :
    env.candidates settings request = .error failure ↔
      (∀ route ∈ env.routesFor request settings.maxDepth, env.allPlacements request route = []) ∧
        failure = env.failureFor settings request := by
  have hreported : ∀ {failure}, env.candidates settings request = .error failure →
      failure = env.failureFor settings request := by
    intro failure h
    have hnone := allPlacements_eq_nil_of_candidates hlimit h
    unfold Environment.failureFor
    cases hranked : env.rankedRoutes settings request with
    | nil =>
        unfold Environment.candidates at h
        rw [hranked] at h
        exact (Except.error.inj h).symm
    | cons route rest =>
        obtain ⟨reason, hgreedy, rfl⟩ := candidates_reason hlimit hranked
          (hnone route (mem_routesFor_of_rankedRoutes hranked)) h
        rw [failureOf, hgreedy]
  constructor
  · exact fun h => ⟨allPlacements_eq_nil_of_candidates hlimit h, hreported h⟩
  · rintro ⟨hnone, rfl⟩
    have hplaceable : ¬ (env.placeableLengths request settings.maxDepth).Nonempty := by
      rintro ⟨_, route, hroute, -, hne⟩
      exact hne (hnone route hroute)
    obtain ⟨other, hother⟩ := candidates_error env request settings hplaceable
    rw [hother, hreported hother]

theorem ne_nil_of_candidates {plans : List Plan}
    (h : env.candidates settings request = .ok plans) : plans ≠ [] := by
  unfold Environment.candidates Gathered.result at h
  split at h
  · exact nomatch h
  next hsome =>
    obtain rfl := Except.ok.inj h
    exact fun hnil => hsome (List.isEmpty_iff.mpr hnil)

/-- The best plan is missing only if there is none to compare. -/
theorem bestChoice_eq_error_iff :
    env.bestChoice settings request = .error failure ↔
      env.candidates settings request = .error failure := by
  cases hcandidates : env.candidates settings request with
  | error other =>
      unfold Environment.bestChoice
      rw [hcandidates, Except.error.injEq]
      change (Except.error other : Except Failure Plan) = .error failure ↔ _
      rw [Except.error.injEq]
  | ok plans =>
      obtain ⟨_, best, -, -, hbest⟩ := bestChoice_of_candidates env request settings hcandidates
        (ne_nil_of_candidates hcandidates)
      rw [hbest]
      exact ⟨fun h => (nomatch h), fun h => (nomatch h)⟩

/-! ### The failure of a request -/

/-- A request fails exactly if no route serves it. -/
theorem solve_eq_error_iff
    (hlimit : settings.comparesPlans request = true → 1 ≤ settings.maxCandidates) :
    env.solve settings request = .error failure ↔
      (∀ route ∈ env.routesFor request settings.maxDepth, ¬ env.Serves settings request route) ∧
        failure = env.failureFor settings request := by
  unfold Environment.solve Environment.Serves
  split
  next hcompares =>
    rw [bestChoice_eq_error_iff, candidates_eq_error_iff (hlimit hcompares)]
    simp only [ne_eq, not_not]
  next =>
    unfold Environment.greedyChoice
    rw [firstPlan_eq_error_iff]
    refine and_congr_left fun _ => forall_congr' fun route => ?_
    rw [mem_rankedRoutes]
    refine imp_congr_right fun _ => ?_
    cases env.greedyPlan request route <;> simp

theorem limit_pos_of_solve (h : env.solve settings request = .error failure)
    (hother : failure ≠ .noRouteFor request) (hcompares : settings.comparesPlans request = true) :
    1 ≤ settings.maxCandidates := by
  by_contra hzero
  unfold Environment.solve at h
  rw [if_pos hcompares, bestChoice_eq_error_iff, candidates_of_zero (by omega)] at h
  exact hother (Except.error.inj h).symm

/-! ### The first of the ranked routes -/

/-- Whether a route comes first when routes are ranked: none is shorter, and of those of its length
it is found first. -/
structure Environment.RanksFirst (env : Environment) (settings : Settings) (request : Request)
    (route : Route) : Prop where
  found : ((env.routesFor request settings.maxDepth).filter
    fun other => other.length = route.length).head? = some route
  shortest : ∀ other ∈ env.routesFor request settings.maxDepth, route.length ≤ other.length

theorem ranksFirst_of_rankedRoutes {route : Route} {rest : List Route}
    (h : env.rankedRoutes settings request = route :: rest) :
    env.RanksFirst settings request route := by
  have hsorted : (route :: rest).Pairwise fun a b => a.length ≤ b.length := by
    rw [← h]
    exact pairwise_shortestFirst _
  refine ⟨?_, fun other hother => ?_⟩
  · rw [← filter_shortestFirst]
    change ((env.rankedRoutes settings request).filter _).head? = _
    rw [h, List.filter_cons, if_pos (decide_eq_true rfl), List.head?_cons]
  · rw [← mem_rankedRoutes, h] at hother
    exact length_le_of_sorted hsorted hother

/-- The failure of a request for which there are routes is the reason of the one that ranks
first. -/
theorem exists_ranksFirst_of_failure
    (hnone : ∀ route ∈ env.routesFor request settings.maxDepth,
      ¬ env.Serves settings request route)
    (hroutes : env.routesFor request settings.maxDepth ≠ []) :
    ∃ route reason, env.RanksFirst settings request route ∧
      env.greedyPlan request route = .error reason ∧
      env.failureFor settings request = .rejected reason := by
  cases hranked : env.rankedRoutes settings request with
  | nil =>
      refine absurd (List.eq_nil_iff_forall_not_mem.mpr fun route hroute => ?_) hroutes
      rw [← mem_rankedRoutes, hranked] at hroute
      exact List.not_mem_nil hroute
  | cons route rest =>
      obtain ⟨reason, hreason⟩ :=
        exists_reason_of_not_serves (hnone route (mem_routesFor_of_rankedRoutes hranked))
      refine ⟨route, reason, ranksFirst_of_rankedRoutes hranked, hreason, ?_⟩
      unfold Environment.failureFor
      rw [hranked, failureOf, hreason]

theorem failure_of_no_routes (h : env.routesFor request settings.maxDepth = []) :
    env.failureFor settings request = .noRouteFor request := by
  unfold Environment.failureFor Environment.rankedRoutes shortestFirst
  rw [h, List.mergeSort_nil]
  rfl

end choice

/-- **A request fails for the reason of its first route.**  It fails for want of a route exactly if
none is found.  Otherwise it fails because no route serves it, and the reason is why the route that
ranks first has no greedy plan, so that it is the same whether plans are compared or not. -/
theorem solve_fails_for_first_reason {env : Environment} {request : Request} {settings : Settings}
    (hlimit : 1 ≤ settings.maxCandidates) :
    (env.solve settings request = .error (.noRouteFor request) ↔
      env.routesFor request settings.maxDepth = []) ∧
    ∀ failure, env.solve settings request = .error failure → failure ≠ .noRouteFor request →
      (∃ route reason, env.RanksFirst settings request route ∧
        env.greedyPlan request route = .error reason ∧ failure = .rejected reason) ∧
      (∀ optimize other, env.solve { settings with optimize } request = .error other →
        other = failure) ∧
      ∀ route ∈ env.routesFor request settings.maxDepth,
        ¬ env.Serves settings request route := by
  have hfails : ∀ {failure}, env.solve settings request = .error failure ↔ _ :=
    solve_eq_error_iff fun _ => hlimit
  refine ⟨?_, fun failure h hother => ?_⟩
  · rw [hfails]
    constructor
    · rintro ⟨hnone, hfailure⟩
      by_contra hroutes
      obtain ⟨_, _, -, -, hrejected⟩ := exists_ranksFirst_of_failure hnone hroutes
      rw [hrejected] at hfailure
      exact nomatch hfailure
    · intro hroutes
      rw [hroutes]
      exact ⟨fun _ hroute => absurd hroute List.not_mem_nil,
        (failure_of_no_routes hroutes).symm⟩
  · obtain ⟨hnone, rfl⟩ := hfails.mp h
    have hroutes : env.routesFor request settings.maxDepth ≠ [] :=
      fun hnil => hother (failure_of_no_routes hnil)
    refine ⟨exists_ranksFirst_of_failure hnone hroutes, fun optimize other hmode => ?_, hnone⟩
    -- how routes are ranked does not depend on the way of choosing
    exact ((@solve_eq_error_iff _ _ { settings with optimize } _ fun _ => hlimit).mp hmode).2

theorem sample_fails_for_first_reason :
    Sample.environment.solve ⟨1, true, 1⟩ Sample.strict = .error (.noRouteFor Sample.strict) ∧
    Sample.environment.solve ⟨3, true, 1⟩ Sample.strict = .error (.rejected (.noCluster .read)) ∧
    (∃ route, Sample.environment.RanksFirst ⟨3, true, 1⟩ Sample.strict route ∧
      Sample.environment.greedyPlan Sample.strict route = .error (.noCluster .read)) ∧
    ∀ optimize other, Sample.environment.solve ⟨3, optimize, 1⟩ Sample.strict = .error other →
      other = .rejected (.noCluster .read) := by
  have hranked : Sample.environment.rankedRoutes ⟨3, true, 1⟩ Sample.strict =
      Sample.environment.routesFor Sample.strict 3 :=
    List.mergeSort_of_pairwise (by decide)
  have hcandidates : Sample.environment.candidates ⟨3, true, 1⟩ Sample.strict =
      .error (.rejected (.noCluster .read)) := by
    unfold Environment.candidates
    rw [hranked]
    rfl
  have hsolve : Sample.environment.solve ⟨3, true, 1⟩ Sample.strict =
      .error (.rejected (.noCluster .read)) := by
    unfold Environment.solve
    rw [if_pos (by decide)]
    exact bestChoice_eq_error_iff.mpr hcandidates
  obtain ⟨⟨route, reason, hfirst, hgreedy, hreason⟩, hmodes, -⟩ :=
    (solve_fails_for_first_reason (by decide)).2 _ hsolve (by decide)
  obtain rfl := Failure.rejected.inj hreason
  exact ⟨(solve_fails_for_first_reason (by decide)).1.mpr rfl, hsolve, ⟨route, hfirst, hgreedy⟩,
    hmodes⟩

/-! ### Comparing plans -/

/-- **Comparing plans loses no request.**  With at least one goal and room for one plan, a request
that has a plan when plans are not compared has one when they are, and it is not longer. -/
theorem comparing_serves {env : Environment} {request : Request} {settings : Settings} {plan : Plan}
    (hgoals : request.policy.goals ≠ []) (hlimit : 1 ≤ settings.maxCandidates)
    (hsolve : env.solve { settings with optimize := false } request = .ok plan) :
    ∃ best, env.solve { settings with optimize := true } request = .ok best ∧
      best.length ≤ plan.length := by
  obtain ⟨route, hroute, hplan⟩ := exists_route_of_solve hsolve
  obtain ⟨n, hleast, hle⟩ := exists_isLeast_of_placeable hroute (List.ne_nil_of_mem hplan)
  obtain ⟨_, best, -, hbest, hsolved⟩ :=
    solve_of_isLeast env request { settings with optimize := true }
      ((comparesPlans_iff request _).mpr ⟨rfl, hgoals⟩) hlimit hleast
  refine ⟨best, hsolved, ?_⟩
  rw [length_of_mem_placementsOfLength env request
      (List.mem_of_mem_take (List.mem_of_getElem? hbest)),
    length_of_mem_allPlacements env request hplan]
  exact hle

theorem sample_comparing_serves :
    Sample.environment.solve ⟨4, false, 1⟩ Sample.governed =
        .ok (Sample.planIn Sample.dear Sample.cheap) ∧
      ∃ best, Sample.environment.solve ⟨4, true, 1⟩ Sample.governed = .ok best ∧
        best.length ≤ 2 :=
  ⟨Sample.solve_governed,
    @comparing_serves _ _ ⟨4, true, 1⟩ _ (by decide) (by decide) Sample.solve_governed⟩

/-! ### Batches -/

theorem failureOf_eq (place : Route → Except Rejection Plan) (otherwise : Failure)
    (routes : List Route) : failureOf place otherwise routes = otherwise ∨
      ∃ reason, failureOf place otherwise routes = .rejected reason := by
  cases routes with
  | nil => exact .inl rfl
  | cons route rest =>
      rw [failureOf]
      cases place route with
      | ok plan => exact .inl rfl
      | error reason => exact .inr ⟨reason, rfl⟩

section batch
variable {env : Environment} {settings : Settings} {deadline : Option Nat} {clock : Nat → Nat}
  {request : Request} {requests : List Request}

/-- The deadline is no reason for which a request fails on its own. -/
theorem solve_ne_deadlineExceeded :
    env.solve settings request ≠ .error .deadlineExceeded := by
  intro h
  have hlimit := limit_pos_of_solve h nofun
  have hfailure := ((solve_eq_error_iff hlimit).mp h).2
  obtain hother | ⟨reason, hother⟩ := failureOf_eq (env.greedyPlan request) (.noRouteFor request)
    (env.rankedRoutes settings request)
  · exact nomatch hfailure.trans hother
  · exact nomatch hfailure.trans hother

theorem attempt_exceeds_iff {expired : Bool} :
    (env.attempt settings expired request).result = .error .deadlineExceeded ↔
      expired = true := by
  cases expired with
  | true => exact iff_of_true rfl rfl
  | false => exact iff_of_false solve_ne_deadlineExceeded Bool.false_ne_true

theorem solveInTime_cons : env.solveInTime settings deadline clock (request :: requests) =
    env.attempt settings (deadline.any (· ≤ clock 0)) request ::
      env.solveInTime settings deadline (fun i => clock (i + 1)) requests :=
  List.mapIdx_cons

/-- If the deadline has passed before all requests, or before none, one reading tells. -/
theorem solveInTime_eq_map {expired : Bool} (h : ∀ i, deadline.any (· ≤ clock i) = expired) :
    env.solveInTime settings deadline clock requests =
      requests.map (env.attempt settings expired) := by
  induction requests generalizing clock with
  | nil => rfl
  | cons request rest ih =>
      rw [solveInTime_cons, List.map_cons, h 0, ih fun i => h (i + 1)]

theorem solveAll_eq_map {expired : Bool} :
    env.solveAll settings expired requests = requests.map (env.attempt settings expired) := by
  unfold Environment.solveAll
  refine solveInTime_eq_map fun i => ?_
  cases expired <;> rfl

theorem map_datasetId_solveInTime :
    (env.solveInTime settings deadline clock requests).map Environment.Outcome.datasetId =
      requests.map Request.datasetId := by
  induction requests generalizing clock with
  | nil => rfl
  | cons request rest ih =>
      rw [solveInTime_cons, List.map_cons, List.map_cons, ih]
      rfl

/-- A deadline that has passed stays passed if the clock does not go back. -/
theorem any_le_of_monotone (hclock : Monotone clock) {i j : Nat} (hij : i ≤ j)
    (h : deadline.any (· ≤ clock i) = true) : deadline.any (· ≤ clock j) = true := by
  obtain ⟨time, htime, hle⟩ := (Option.any_eq_true _ _).mp h
  refine (Option.any_eq_true _ _).mpr ⟨time, htime, decide_eq_true ?_⟩
  exact (of_decide_eq_true hle).trans (hclock hij)

theorem exists_solveInTime_eq_append (hclock : Monotone clock) :
    ∃ inTime late, requests = inTime ++ late ∧
      env.solveInTime settings deadline clock requests =
        inTime.map (env.attempt settings false) ++ late.map (env.attempt settings true) := by
  induction requests generalizing clock with
  | nil => exact ⟨[], [], rfl, rfl⟩
  | cons request rest ih =>
      cases hpassed : deadline.any (· ≤ clock 0) with
      | true =>
          refine ⟨[], request :: rest, rfl, solveInTime_eq_map fun i => ?_⟩
          exact any_le_of_monotone hclock (Nat.zero_le i) hpassed
      | false =>
          obtain ⟨inTime, late, rfl, hrest⟩ := ih fun i j hij => hclock (Nat.add_le_add_right hij 1)
          refine ⟨request :: inTime, late, rfl, ?_⟩
          rw [solveInTime_cons, hpassed, hrest]
          rfl

/-- **A deadline cuts off the rest of a batch.**  Each request has an outcome, in their order.  An
outcome is a failure for the deadline exactly if the deadline has passed when the clock is read
before the request.  If the clock does not go back, the requests before some position have the
outcomes that they have on their own, and all others fail for the deadline. -/
theorem solveInTime_outcomes :
    (env.solveInTime settings deadline clock requests).map Environment.Outcome.datasetId =
      requests.map Request.datasetId ∧
    (∀ (i : Nat) outcome, (env.solveInTime settings deadline clock requests)[i]? = some outcome →
      (outcome.result = .error .deadlineExceeded ↔ ∃ time ∈ deadline, time ≤ clock i)) ∧
    (Monotone clock → ∃ inTime late, requests = inTime ++ late ∧
      env.solveInTime settings deadline clock requests =
        inTime.map (env.attempt settings false) ++ late.map (env.attempt settings true)) := by
  refine ⟨map_datasetId_solveInTime, fun i outcome houtcome => ?_, exists_solveInTime_eq_append⟩
  unfold Environment.solveInTime at houtcome
  rw [List.getElem?_mapIdx] at houtcome
  obtain ⟨request, -, rfl⟩ := Option.map_eq_some_iff.mp houtcome
  rw [attempt_exceeds_iff, Option.any_eq_true]
  simp only [decide_eq_true_eq, Option.mem_def]

end batch

end DataRoute
