import DataRoute.Proofs.Comparison
import DataRoute.Proofs.Connection
import DataRoute.Proofs.Governance

/-! # What a chosen plan upholds and where it leads

A plan for a request comes about in three stages: the policy admits offers, the search builds
routes over them, and the routes are placed.  Each stage enforces a part of the policy.  Whichever
way the plan is chosen, it is a placement of a route that was found (`exists_route_of_solve`): the
greedy choice takes the plan of one route (`exists_of_firstPlan`), and the plans that are compared
are gathered from the routes one by one (`mem_add`, `mem_gather`).  Hence the plan has what the
search gives to the legs of a route (`Spans.usable`) and what placing gives to a plan
(`permits_of_mem_allPlacements`), and upholds the policy (`solve_upholds`).  Placing keeps the legs,
so the plan also begins and ends as the route does (`solve_leads_to_destination`). -/

namespace DataRoute

/-! ### Where a plan comes from -/

section choice
variable {env : Environment} {settings : Settings} {request : Request} {plan : Plan}

theorem exists_of_firstPlan {place : Route → Except Rejection Plan} {otherwise : Failure}
    {routes : List Route} (h : firstPlan place otherwise routes = .ok plan) :
    ∃ route ∈ routes, place route = .ok plan := by
  induction routes with
  | nil => exact nomatch h
  | cons route rest ih =>
      rw [firstPlan] at h
      cases hplace : place route with
      | ok found =>
          rw [hplace] at h
          obtain rfl : found = plan := Except.ok.inj h
          exact ⟨route, List.mem_cons_self, hplace⟩
      | error reason =>
          rw [hplace] at h
          dsimp only at h
          cases hrest : firstPlan place otherwise rest with
          | error failure => rw [hrest] at h; exact nomatch h
          | ok found =>
              rw [hrest] at h
              obtain rfl : found = plan := Except.ok.inj h
              obtain ⟨other, hother, hplan⟩ := ih hrest
              exact ⟨other, List.mem_cons_of_mem _ hother, hplan⟩

theorem mem_add {g : Gathered} {answer : Except Rejection (List Plan)}
    (h : plan ∈ (g.add answer).plans) :
    plan ∈ g.plans ∨ ∃ found, answer = .ok found ∧ plan ∈ found := by
  cases answer with
  | error reason => exact .inl h
  | ok found => exact (List.mem_append.mp h).imp_right fun hplan => ⟨found, rfl, hplan⟩

theorem mem_gather {place : Route → Nat → Except Rejection (List Plan)} {limit : Nat}
    {g : Gathered} {routes : List Route} (h : plan ∈ (gather place limit g routes).plans) :
    plan ∈ g.plans ∨
      ∃ route ∈ routes, ∃ room found, place route room = .ok found ∧ plan ∈ found := by
  induction routes generalizing g with
  | nil => exact .inl h
  | cons route rest ih =>
      rw [gather] at h
      split at h
      next => exact .inl h
      next =>
        obtain hadd | ⟨other, hother, hfound⟩ := ih h
        · obtain hold | ⟨found, hfound, hplan⟩ := mem_add hadd
          · exact .inl hold
          · exact .inr ⟨route, List.mem_cons_self, _, found, hfound, hplan⟩
        · exact .inr ⟨other, List.mem_cons_of_mem _ hother, hfound⟩

theorem mem_candidates {plans : List Plan} (h : env.candidates settings request = .ok plans)
    (hplan : plan ∈ plans) : ∃ route ∈ env.rankedRoutes settings request,
      ∃ room found, env.plans request route room = .ok found ∧ plan ∈ found := by
  unfold Environment.candidates Gathered.result at h
  split at h
  · exact nomatch h
  · obtain rfl := Except.ok.inj h
    exact (mem_gather hplan).resolve_left List.not_mem_nil

theorem mem_of_bestChoice (h : env.bestChoice settings request = .ok plan) :
    ∃ plans, env.candidates settings request = .ok plans ∧ plan ∈ plans := by
  unfold Environment.bestChoice at h
  cases hplans : env.candidates settings request with
  | error failure => rw [hplans] at h; exact nomatch h
  | ok plans =>
      rw [hplans] at h
      dsimp only [bind, Except.bind] at h
      split at h
      next best hbest =>
        obtain rfl : best = plan := Except.ok.inj h
        exact ⟨plans, rfl, List.mem_of_getElem? hbest⟩
      next => exact nomatch h

/-- Whichever way a plan is chosen, it is a placement of a route that was found. -/
theorem exists_route_of_solve (h : env.solve settings request = .ok plan) :
    ∃ route ∈ env.routesFor request settings.maxDepth,
      plan ∈ env.allPlacements request route := by
  unfold Environment.solve at h
  split at h
  · obtain ⟨plans, hplans, hplan⟩ := mem_of_bestChoice h
    obtain ⟨route, hroute, room, found, hfound, hplan⟩ := mem_candidates hplans hplan
    exact ⟨route, (mem_rankedRoutes env request settings).mp hroute,
      mem_allPlacements_of_returned (.inr ⟨room, found, hfound, hplan⟩)⟩
  · obtain ⟨route, hroute, hplan⟩ := exists_of_firstPlan h
    exact ⟨route, (mem_rankedRoutes env request settings).mp hroute,
      mem_allPlacements_of_returned (.inl hplan)⟩

end choice

/-! ### What each stage enforces -/

section stages
variable {env : Environment} {request : Request}

theorem mem_offers_iff {policy : Policy} {o : Offer} :
    o ∈ env.offers policy ↔ o ∈ env.allOffers ∧ policy.deploy o.kind ≠ .forbidden ∧
      satisfies (policy.moduleRestrictions o.kind) (o.module.subject o.capability)
        env.infrastructure = true := by
  unfold Environment.offers Offer.admitted
  rw [List.mem_filter, Bool.and_eq_true, bne_iff_ne]

theorem exists_choice_of_mem_carryOut {route : Route} {d : Duties} {choices : List Choice}
    {l : PlacedLeg} (h : l ∈ carryOut request d route choices) :
    ∃ c ∈ choices, l.account = c.account ∧ l.cluster = c.cluster := by
  induction route generalizing d choices with
  | nil => exact absurd h List.not_mem_nil
  | cons leg later ih =>
      cases choices with
      | nil => exact absurd h List.not_mem_nil
      | cons choice choices =>
          rw [carryOut] at h
          rcases List.mem_cons.mp h with rfl | h
          · exact ⟨choice, List.mem_cons_self, rfl, rfl⟩
          · obtain ⟨c, hc, hl⟩ := ih h
            exact ⟨c, List.mem_cons_of_mem _ hc, hl⟩

/-- A placement uses the clusters and accounts of the registry as they are permitted, and its
route covers what is required. -/
theorem permits_of_mem_allPlacements {route : Route} {plan : Plan}
    (h : plan ∈ env.allPlacements request route) :
    env.Permits request plan ∧
      (∀ kind, request.policy.deploy kind = .required → ∃ l ∈ route, l.kind = kind) ∧
      ∀ l ∈ plan, l.cluster ∈ env.clusters ∧ ∀ a ∈ l.account, a ∈ env.storageAccounts := by
  obtain ⟨choices, hchoices, ⟨hpermits, -, hcovers⟩, rfl⟩ :=
    (mem_allPlacements_iff env request).mp h
  rw [permitsLegs_iff] at hpermits
  rw [coversRequired_iff] at hcovers
  refine ⟨hpermits, hcovers, fun l hl => ?_⟩
  obtain ⟨c, hc, haccount, hcluster⟩ := exists_choice_of_mem_carryOut hl
  rw [haccount, hcluster]
  exact ((mem_allChoices_iff.mp hchoices).2 c hc).symm

end stages

/-! ### The policy -/

/-- What a policy asks of a plan: no leg has a forbidden kind, every required kind is there, and
the module, the account and the cluster of each leg are deployed and meet the restrictions. -/
structure Environment.Upholds (env : Environment) (settings : Settings) (request : Request)
    (plan : Plan) : Prop extends env.Permits request plan where
  allowed : ∀ l ∈ plan, request.policy.deploy l.leg.kind ≠ .forbidden
  required : ∀ kind, request.policy.deploy kind = .required → ∃ l ∈ plan, l.leg.kind = kind
  eligible : ∀ l ∈ plan, l.leg.offer.module ∈ env.catalog.modules ∧
    satisfies (request.policy.moduleRestrictions l.leg.kind)
      (l.leg.offer.module.subject l.leg.capability) env.infrastructure = true
  registered : ∀ l ∈ plan, l.cluster ∈ env.clusters ∧ ∀ a ∈ l.account, a ∈ env.storageAccounts
  bounded : 1 ≤ plan.length ∧ plan.length ≤ settings.maxDepth

/-- A placement of a route over admitted offers upholds the policy. -/
theorem upholds_of_mem_allPlacements {env : Environment} {settings : Settings}
    {request : Request} {route : Route} {plan : Plan}
    (hroute : route ∈ env.routesFor request settings.maxDepth)
    (hplan : plan ∈ env.allPlacements request route) : env.Upholds settings request plan := by
  obtain ⟨hpermits, hcovers, hregistered⟩ := permits_of_mem_allPlacements hplan
  have hlegs := map_leg_of_mem_allPlacements env request hplan
  have hoffers : ∀ l ∈ plan, l.leg.offer ∈ env.offers request.policy := by
    intro l hl
    refine ((spans_of_mem_findRoutes hroute).usable l.leg ?_).1
    rw [← hlegs]
    exact List.mem_map_of_mem hl
  refine ⟨hpermits, fun l hl => ?_, fun kind hkind => ?_, fun l hl => ?_, hregistered, ?_⟩
  · exact (mem_offers_iff.mp (hoffers l hl)).2.1
  · obtain ⟨leg, hleg, hname⟩ := hcovers kind hkind
    rw [← hlegs] at hleg
    obtain ⟨l, hl, rfl⟩ := List.mem_map.mp hleg
    exact ⟨l, hl, hname⟩
  · exact ⟨module_mem_of_mem_offers (hoffers l hl), (mem_offers_iff.mp (hoffers l hl)).2.2⟩
  · rw [length_of_mem_allPlacements env request hplan]
    exact length_le_of_mem_findRoutes hroute

/-- **A chosen plan upholds the policy**, whether plans are compared or not. -/
theorem solve_upholds {env : Environment} {settings : Settings} {request : Request}
    {plan : Plan} (h : env.solve settings request = .ok plan) :
    env.Upholds settings request plan := by
  obtain ⟨route, hroute, hplan⟩ := exists_route_of_solve h
  exact upholds_of_mem_allPlacements hroute hplan

/-- Routes that are found in the order of their lengths are tried in that order. -/
theorem solve_eq_firstPlan {env : Environment} {settings : Settings} {request : Request}
    (hmode : settings.comparesPlans request = false)
    (hsorted : (env.routesFor request settings.maxDepth).Pairwise
      fun a b => decide (a.length ≤ b.length) = true) :
    env.solve settings request = firstPlan (env.greedyPlan request) (.noRouteFor request)
      (env.routesFor request settings.maxDepth) := by
  have hranked : env.rankedRoutes settings request = env.routesFor request settings.maxDepth :=
    List.mergeSort_of_pairwise hsorted
  unfold Environment.solve Environment.greedyChoice
  rw [hmode, hranked]
  rfl

namespace Sample

/-- A workload that may not write, and has to read in one of two clusters. -/
def governed : Request :=
  { request with
    policy := (request.policy.withDecision .write (.ofDeployment .forbidden)).withDecision .read
      ⟨.required, { Restrictions.none with clusters := [⟨"name", .values ["cheap"]⟩] }, .none⟩ }

theorem solve_governed : environment.solve ⟨4, false, 1⟩ governed = .ok (planIn dear cheap) := by
  rw [solve_eq_firstPlan rfl (by decide)]
  rfl

end Sample

theorem sample_upholds :
    Sample.environment.solve ⟨4, false, 1⟩ Sample.governed =
        .ok (Sample.planIn Sample.dear Sample.cheap) ∧
      Sample.environment.Upholds ⟨4, false, 1⟩ Sample.governed
        (Sample.planIn Sample.dear Sample.cheap) :=
  ⟨Sample.solve_governed, solve_upholds Sample.solve_governed⟩

/-! ### The ends of a plan -/

/-- Whether a leg may be the last one for a request: it delivers to the destination or, in a write
into a new asset without a protocol, to a store that it declares. -/
def Request.AcceptsLast (request : Request) (l : Leg) : Prop :=
  l.sink = request.destination ∨
    (request.flow = .write ∧ request.newAsset = true ∧ request.asset.interface.protocol = "" ∧
      ∃ i ∈ l.capability.declaredSinks, l.sink = .store i)

/-- Whether the destination of a request names a protocol, unless it is a new asset to be
written. -/
def Request.NamesDestination (request : Request) : Prop :=
  request.destination.isWildcard = true → request.flow = .write ∧ request.newAsset = true

/-- A leg that delivers to the destination of a request may be its last one, if the request names
its destination or the leg happens to end there. -/
theorem acceptsLast_iff {request : Request} {l : Leg} (hl : l.Delivers request.destination) :
    request.AcceptsLast l ↔ l.sink = request.destination ∨ request.NamesDestination := by
  constructor
  · rintro (hsink | ⟨hflow, hnew, -⟩)
    · exact .inl hsink
    · exact .inr fun _ => ⟨hflow, hnew⟩
  · rintro (hsink | hnames)
    · exact .inl hsink
    unfold Leg.Delivers at hl
    split at hl
    next hwild =>
      obtain ⟨hflow, hnew⟩ := hnames hwild
      unfold Request.destination at hwild
      rw [hflow] at hwild
      exact .inr ⟨hflow, hnew, Endpoint.isWildcard_store_iff.mp hwild, hl⟩
    next => exact .inl hl.1

/-- **A chosen plan leads from the source of the request to its destination.**  The first leg picks
up at the source and the last one delivers to the destination, which may stand for any store.  So
the plan ends where the request says, exactly if the request names its destination or the last leg
declares the very store without a protocol that the request asks for. -/
theorem solve_leads_to_destination {env : Environment} {settings : Settings} {request : Request}
    {plan : Plan} (h : env.solve settings request = .ok plan) :
    ∃ first last, plan.head? = some first ∧ plan.getLast? = some last ∧
      first.leg.source = request.source ∧ last.leg.Delivers request.destination ∧
      (request.AcceptsLast last.leg ↔
        last.leg.sink = request.destination ∨ request.NamesDestination) := by
  obtain ⟨route, hroute, hplan⟩ := exists_route_of_solve h
  have hspans := spans_of_mem_findRoutes hroute
  obtain ⟨_, hhead, hsource⟩ := hspans.begins
  obtain ⟨_, hlast, hdelivers⟩ := hspans.ends
  rw [← map_leg_of_mem_allPlacements env request hplan, List.head?_map,
    Option.map_eq_some_iff] at hhead
  rw [← map_leg_of_mem_allPlacements env request hplan, List.getLast?_map,
    Option.map_eq_some_iff] at hlast
  obtain ⟨first, hfirst, rfl⟩ := hhead
  obtain ⟨last, hlast, rfl⟩ := hlast
  exact ⟨first, last, hfirst, hlast, hsource, hdelivers, acceptsLast_iff hdelivers⟩

theorem sample_leads_to_destination :
    Sample.environment.solve ⟨4, false, 1⟩ Sample.governed =
        .ok (Sample.planIn Sample.dear Sample.cheap) ∧
      Sample.governed.AcceptsLast Sample.reading := by
  obtain ⟨_, last, -, hlast, -, -, haccepts⟩ := solve_leads_to_destination Sample.solve_governed
  obtain rfl := Option.some.inj hlast
  refine ⟨Sample.solve_governed, haccepts.mpr (.inr ?_)⟩
  exact fun hwild => absurd hwild (by decide)

namespace Sample

/-- A module that takes data from workloads and stores columns. -/
def writer : Module where
  name := "writer"
  version := none
  capabilities := [⟨.write, .workload, [⟨none, some parquet⟩], some ⟨flight, none⟩, []⟩]
  labels := []

/-- An environment in which columns can be written. -/
def writing : Environment := .ofParts [copier, writer] [dear] [filtered] .empty

/-- A copy of rows to a place without a protocol. -/
def copyAnywhere : Request :=
  { request with
    flow := .copy
    requested := .unspecified
    actions := []
    policy := .empty
    storageRequirements := SortedMap.empty.insert "theshire" [] }

/-- A write into an existing asset without a protocol. -/
def writeAnywhere : Request :=
  { copyAnywhere with
    flow := .write
    asset := ⟨.unspecified, none⟩
    requested := flight }

/-- Writes columns. -/
def storing : Leg := ⟨⟨writer, ⟨0, by decide⟩⟩, .api flight, .store parquet⟩

end Sample

/-- A copy to a place without a protocol, and a write into an existing asset without one, end at a
store that the request does not name. -/
theorem sample_ends_elsewhere :
    (Sample.writing.solve ⟨1, false, 1⟩ Sample.copyAnywhere =
        .ok [⟨Sample.copying, [], Sample.dear, some Sample.filtered⟩] ∧
      ¬ Sample.copyAnywhere.AcceptsLast Sample.copying) ∧
    Sample.writing.solve ⟨1, false, 1⟩ Sample.writeAnywhere =
        .ok [⟨Sample.storing, [], Sample.dear, none⟩] ∧
      ¬ Sample.writeAnywhere.AcceptsLast Sample.storing := by
  refine ⟨⟨?_, ?_⟩, ?_, ?_⟩
  · rw [solve_eq_firstPlan rfl (by decide)]
    rfl
  · rintro (hsink | ⟨hflow, -⟩)
    · exact absurd hsink (by decide)
    · exact absurd hflow (by decide)
  · rw [solve_eq_firstPlan rfl (by decide)]
    rfl
  · rintro (hsink | ⟨-, hnew, -⟩)
    · exact absurd hsink (by decide)
    · exact absurd hnew (by decide)

end DataRoute
