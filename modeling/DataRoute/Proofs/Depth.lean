import DataRoute.Proofs.Failure

/-! # The depth of the search

A search of less depth finds the routes of a deeper one that are not longer than its depth, in the
same order (`findRoutes_eq_filter`).  Ranking puts the longer routes behind the shorter ones and
keeps the order of each length, which leaves only one way to rank (`eq_of_filter_length_eq`).  So
the deeper search ranks what the other one does and goes on with longer routes
(`rankedRoutes_prefix`).  These come too late to change an answer: a plan that was chosen is chosen
again, and a reason that was reported is reported unless a longer route has a plan
(`solve_of_deeper`).  Before they are ranked, longer routes stand between the shorter ones, whose
order does not depend on the depth (`findRoutes_slice`). -/

namespace DataRoute

/-! ### Routes by depth -/

section search
variable {offers : List Offer} {source : Endpoint} {depth deeper : Nat}

/-- The routes that end with an offer at a sink, if this is known of the routes before it. -/
theorem routesVia_eq_filter
    (h : ∀ destination, findRoutes offers source depth destination =
      (findRoutes offers source deeper destination).filter fun route => route.length ≤ depth)
    (offer : Offer) (sink : Endpoint) :
    routesVia offers source depth offer sink =
      (routesVia offers source deeper offer sink).filter fun route => route.length ≤ depth + 1 := by
  unfold routesVia
  rw [List.filter_append, List.filter_flatMap]
  congr 1
  · split
    · simp
    · rfl
  · apply List.flatMap_congr
    intro i _
    rw [h, List.filter_map]
    refine congrArg _ (List.filter_congr fun before _ => ?_)
    rw [Function.comp_apply, List.length_append, List.length_singleton, decide_eq_decide]
    omega

/-- A search finds the routes of a deeper search that are not longer than its depth. -/
theorem findRoutes_eq_filter (h : depth ≤ deeper) (destination : Endpoint) :
    findRoutes offers source depth destination =
      (findRoutes offers source deeper destination).filter fun route => route.length ≤ depth := by
  induction depth generalizing deeper destination with
  | zero =>
      rw [findRoutes, eq_comm, List.filter_eq_nil_iff]
      intro route hroute
      have hpos := (length_le_of_mem_findRoutes hroute).1
      rw [decide_eq_true_eq]
      omega
  | succ depth ih =>
      obtain ⟨deeper, rfl⟩ : ∃ n, deeper = n + 1 := ⟨deeper - 1, by omega⟩
      rw [findRoutes_succ, findRoutes_succ, List.filter_flatMap]
      refine List.flatMap_congr fun offer _ => ?_
      rw [List.filter_flatMap]
      refine List.flatMap_congr fun sink _ => ?_
      exact routesVia_eq_filter (fun _ => ih (by omega) _) offer sink

end search

/-! ### Ranking -/

/-- Of the routes whose lengths meet a condition, those of one length. -/
theorem filter_length_filter (p : Nat → Bool) (routes : List Route) (n : Nat) :
    ((routes.filter fun route => p route.length).filter fun route => route.length = n) =
      if p n = true then routes.filter fun route => route.length = n else [] := by
  rw [List.filter_filter]
  split
  next hp =>
    refine List.filter_congr fun route _ => ?_
    by_cases hn : route.length = n
    · rw [hn, hp, Bool.and_true]
    · rw [decide_eq_false hn, Bool.false_and]
  next hp =>
    rw [List.filter_eq_nil_iff]
    intro route _ hroute
    rw [Bool.and_eq_true, decide_eq_true_eq] at hroute
    obtain ⟨rfl, hlength⟩ := hroute
    exact hp hlength

/-- Routes that are sorted by length are determined by the routes of each length. -/
theorem eq_of_filter_length_eq {routes others : List Route}
    (hroutes : routes.Pairwise fun a b => a.length ≤ b.length)
    (hothers : others.Pairwise fun a b => a.length ≤ b.length)
    (h : ∀ n, (routes.filter fun route => route.length = n) =
      others.filter fun route => route.length = n) : routes = others := by
  induction routes generalizing others with
  | nil =>
      refine (List.eq_nil_iff_forall_not_mem.mpr fun route hroute => ?_).symm
      have hnil := (h route.length).symm
      rw [List.filter_nil, List.filter_eq_nil_iff] at hnil
      exact hnil route hroute (decide_eq_true rfl)
  | cons route rest ih =>
      have hmem : ∀ {a : Route}, a ∈ route :: rest ↔ a ∈ others := by
        intro a
        have hlength := congrArg (a ∈ ·) (h a.length)
        simpa [List.mem_filter] using hlength
      cases others with
      | nil => exact absurd (hmem.mp List.mem_cons_self) List.not_mem_nil
      | cons other others =>
          -- the first ones are of one length, since neither is longer than the other
          have hle := length_le_of_sorted hothers (hmem.mp List.mem_cons_self)
          have hge := length_le_of_sorted hroutes (hmem.mpr List.mem_cons_self)
          have hfirst := h route.length
          rw [List.filter_cons, List.filter_cons, if_pos (decide_eq_true rfl),
            if_pos (decide_eq_true (by omega))] at hfirst
          obtain ⟨rfl, -⟩ := List.cons.inj hfirst
          congr 1
          refine ih (List.pairwise_cons.mp hroutes).2 (List.pairwise_cons.mp hothers).2 fun n => ?_
          have hn := h n
          rw [List.filter_cons, List.filter_cons] at hn
          split at hn
          · exact (List.cons.inj hn).2
          · exact hn

/-- Ranking puts the routes up to some length before the longer ones. -/
theorem shortestFirst_eq_append (routes : List Route) (n : Nat) :
    shortestFirst routes = shortestFirst (routes.filter fun route => route.length ≤ n) ++
      shortestFirst (routes.filter fun route => n < route.length) := by
  apply eq_of_filter_length_eq (pairwise_shortestFirst _)
  · refine List.pairwise_append.mpr ⟨pairwise_shortestFirst _, pairwise_shortestFirst _, ?_⟩
    intro a ha b hb
    have hshort := (List.mem_filter.mp ((List.mergeSort_perm _ _).mem_iff.mp ha)).2
    have hlong := (List.mem_filter.mp ((List.mergeSort_perm _ _).mem_iff.mp hb)).2
    rw [decide_eq_true_eq] at hshort hlong
    omega
  · intro m
    rw [List.filter_append, filter_shortestFirst, filter_shortestFirst, filter_shortestFirst,
      filter_length_filter (fun k => k ≤ n), filter_length_filter (fun k => n < k)]
    by_cases hm : m ≤ n
    · rw [if_pos (decide_eq_true hm), if_neg (by simpa using hm), List.append_nil]
    · rw [if_neg (by simpa using hm), if_pos (by simpa using hm), List.nil_append]

section choice
variable {env : Environment} {request : Request} {settings : Settings} {deeper : Nat}

theorem routesFor_eq_filter {depth : Nat} (h : depth ≤ deeper) :
    env.routesFor request depth =
      (env.routesFor request deeper).filter fun route => route.length ≤ depth :=
  findRoutes_eq_filter h request.destination

/-- A deeper search ranks the same routes first. -/
theorem rankedRoutes_prefix (env : Environment) (request : Request)
    (h : settings.maxDepth ≤ deeper) :
    env.rankedRoutes settings request <+:
      env.rankedRoutes { settings with maxDepth := deeper } request := by
  unfold Environment.rankedRoutes
  rw [routesFor_eq_filter h]
  exact ⟨_, (shortestFirst_eq_append _ _).symm⟩

/-! ### The greedy choice -/

theorem firstPlan_append {place : Route → Except Rejection Plan} {otherwise : Failure}
    {routes : List Route} {plan : Plan} (h : firstPlan place otherwise routes = .ok plan)
    (more : List Route) : firstPlan place otherwise (routes ++ more) = .ok plan := by
  induction routes with
  | nil => cases h
  | cons route rest ih =>
      rw [firstPlan] at h
      rw [List.cons_append, firstPlan]
      cases hplace : place route with
      | ok found =>
          rw [hplace] at h
          exact h
      | error reason =>
          rw [hplace] at h
          dsimp only at h ⊢
          cases hrest : firstPlan place otherwise rest with
          | error failure => rw [hrest] at h; cases h
          | ok found =>
              rw [hrest] at h
              obtain rfl : found = plan := Except.ok.inj h
              rw [ih hrest]

theorem greedyChoice_of_deeper {plan : Plan} (h : settings.maxDepth ≤ deeper)
    (hplan : env.greedyChoice settings request = .ok plan) :
    env.greedyChoice { settings with maxDepth := deeper } request = .ok plan := by
  obtain ⟨more, hmore⟩ := rankedRoutes_prefix env request h
  unfold Environment.greedyChoice at hplan ⊢
  rw [← hmore]
  exact firstPlan_append hplan more

/-! ### The plans that are compared -/

theorem isLeast_of_deeper {depth n : Nat} (h : depth ≤ deeper)
    (hleast : IsLeast (env.placeableLengths request depth) n) :
    IsLeast (env.placeableLengths request deeper) n ∧
      env.placementsOfLength request deeper n = env.placementsOfLength request depth n := by
  obtain ⟨⟨route, hroute, rfl, hne⟩, hlower⟩ := hleast
  have hdepth := (length_le_of_mem_findRoutes hroute).2
  refine ⟨⟨⟨route, ?_, rfl, hne⟩, ?_⟩, ?_⟩
  · rw [routesFor_eq_filter h] at hroute
    exact List.mem_of_mem_filter hroute
  · rintro _ ⟨other, hother, rfl, hplaced⟩
    by_cases hlong : other.length ≤ depth
    · refine hlower ⟨other, ?_, rfl, hplaced⟩
      rw [routesFor_eq_filter h]
      exact List.mem_filter.mpr ⟨hother, decide_eq_true hlong⟩
    · omega
  · unfold Environment.placementsOfLength
    rw [routesFor_eq_filter h, filter_length_filter (fun k => k ≤ depth),
      if_pos (decide_eq_true hdepth)]

theorem candidates_of_deeper {plans : List Plan} (h : settings.maxDepth ≤ deeper)
    (hplans : env.candidates settings request = .ok plans) :
    env.candidates { settings with maxDepth := deeper } request = .ok plans := by
  have hlimit : 1 ≤ settings.maxCandidates := by
    by_contra hzero
    rw [candidates_of_zero (by omega)] at hplans
    exact nomatch hplans
  obtain ⟨plan, hplan⟩ := List.exists_mem_of_ne_nil _ (ne_nil_of_candidates hplans)
  obtain ⟨route, hroute, room, found, hfound, hmem⟩ := mem_candidates hplans hplan
  have hplaced := mem_allPlacements_of_returned (.inr ⟨room, found, hfound, hmem⟩)
  obtain ⟨n, hleast, -⟩ := exists_isLeast_of_placeable
    ((mem_rankedRoutes env request settings).mp hroute) (List.ne_nil_of_mem hplaced)
  obtain ⟨hdeeper, hsame⟩ := isLeast_of_deeper h hleast
  rw [candidates_eq_take env request settings hlimit hleast] at hplans
  rw [candidates_eq_take env request { settings with maxDepth := deeper } hlimit hdeeper, hsame]
  exact hplans

theorem bestChoice_of_deeper {plan : Plan} (h : settings.maxDepth ≤ deeper)
    (hplan : env.bestChoice settings request = .ok plan) :
    env.bestChoice { settings with maxDepth := deeper } request = .ok plan := by
  obtain ⟨plans, hplans, -⟩ := mem_of_bestChoice hplan
  unfold Environment.bestChoice at hplan ⊢
  rw [candidates_of_deeper h hplans]
  rw [hplans] at hplan
  exact hplan

/-! ### Failures -/

theorem failureFor_of_deeper (h : settings.maxDepth ≤ deeper)
    (hother : env.failureFor settings request ≠ .noRouteFor request) :
    env.failureFor { settings with maxDepth := deeper } request =
      env.failureFor settings request := by
  obtain ⟨more, hmore⟩ := rankedRoutes_prefix env request h
  unfold Environment.failureFor at hother ⊢
  rw [← hmore]
  cases hranked : env.rankedRoutes settings request with
  | nil =>
      rw [hranked] at hother
      exact absurd rfl hother
  | cons route rest => rfl

end choice

/-- **A deeper search keeps its answers.**  A plan that is chosen with some depth is chosen with
every greater one.  A failure other than for want of a route stays the failure, unless there is a
plan with the greater depth. -/
theorem solve_of_deeper {env : Environment} {request : Request} {settings : Settings}
    {deeper : Nat} (h : settings.maxDepth ≤ deeper) :
    (∀ plan, env.solve settings request = .ok plan →
      env.solve { settings with maxDepth := deeper } request = .ok plan) ∧
    ∀ failure, env.solve settings request = .error failure → failure ≠ .noRouteFor request →
      (∃ plan, env.solve { settings with maxDepth := deeper } request = .ok plan) ∨
        env.solve { settings with maxDepth := deeper } request = .error failure := by
  refine ⟨fun plan hplan => ?_, fun failure hfailure hother => ?_⟩
  · unfold Environment.solve at hplan ⊢
    change (if settings.comparesPlans request = true then _ else _) = _
    split at hplan
    next hcompares =>
      rw [if_pos hcompares]
      exact bestChoice_of_deeper h hplan
    next hgreedy =>
      rw [if_neg hgreedy]
      exact greedyChoice_of_deeper h hplan
  · have hlimit := limit_pos_of_solve hfailure hother
    obtain ⟨-, rfl⟩ := (solve_eq_error_iff hlimit).mp hfailure
    cases hdeeper : env.solve { settings with maxDepth := deeper } request with
    | ok plan => exact .inl ⟨plan, rfl⟩
    | error failure =>
        obtain ⟨-, rfl⟩ :=
          (@solve_eq_error_iff _ _ { settings with maxDepth := deeper } _ hlimit).mp hdeeper
        exact .inr (by rw [failureFor_of_deeper h hother])

namespace Sample

/-- A module that serves rows. -/
def rowReader : Module where
  name := "row reader"
  version := none
  capabilities := [⟨.read, .workload, [⟨some csv, none⟩], some ⟨flight, none⟩, []⟩]
  labels := []

/-- An environment in which rows can be served as they are, or copied before. -/
def serving : Environment := .ofParts [copier, rowReader] [dear] [filtered] .empty

/-- A workload that reads rows and has to have them redacted. -/
def redacted : Request :=
  { request with
    policy := .empty
    storageRequirements := SortedMap.empty.insert "theshire" [] }

/-- Copies rows. -/
def copyingRows : Leg := { copying with sink := .store csv }

/-- Serves rows. -/
def readingRows : Leg := ⟨⟨rowReader, ⟨0, by decide⟩⟩, .store csv, .api flight⟩

/-- Redacts the rows in a copy. -/
def redactingPlan : Plan :=
  [⟨copyingRows, [⟨"Redact", []⟩], dear, some filtered⟩, ⟨readingRows, [], dear, none⟩]

theorem solve_redacted :
    serving.solve ⟨1, false, 1⟩ redacted = .error (.rejected (.unsupportedActions ["Redact"])) := by
  rw [solve_eq_firstPlan rfl (by decide)]
  rfl

end Sample

theorem sample_deeper :
    (Sample.serving.solve ⟨1, false, 1⟩ Sample.redacted =
        .error (.rejected (.unsupportedActions ["Redact"])) ∧
      ((∃ plan, Sample.serving.solve ⟨2, false, 1⟩ Sample.redacted = .ok plan) ∨
        Sample.serving.solve ⟨2, false, 1⟩ Sample.redacted =
          .error (.rejected (.unsupportedActions ["Redact"])))) ∧
    Sample.serving.solve ⟨2, false, 1⟩ Sample.redacted = .ok Sample.redactingPlan ∧
      Sample.serving.solve ⟨4, false, 1⟩ Sample.redacted = .ok Sample.redactingPlan := by
  have hplan : Sample.serving.solve ⟨2, false, 1⟩ Sample.redacted = .ok Sample.redactingPlan := by
    rw [solve_eq_firstPlan rfl (by decide)]
    rfl
  exact ⟨⟨Sample.solve_redacted,
      (@solve_of_deeper _ _ ⟨1, false, 1⟩ 2 (by decide)).2 _ Sample.solve_redacted (by decide)⟩,
    hplan, (@solve_of_deeper _ _ ⟨2, false, 1⟩ 4 (by decide)).1 _ hplan⟩

/-! ### The order of the routes -/

/-- Items that pass a test stand in some order in a list exactly if they do so among all items that
pass it. -/
theorem sublist_filter_iff_of_forall {α : Type} {p : α → Bool} {few items : List α}
    (h : ∀ a ∈ few, p a = true) : few.Sublist (items.filter p) ↔ few.Sublist items := by
  refine ⟨fun hsub => hsub.trans List.filter_sublist, fun hsub => ?_⟩
  have hfilter := hsub.filter p
  rwa [List.filter_eq_self.mpr h] at hfilter

/-- **The depth only cuts off longer routes.**  A search finds the routes of every deeper one that
are not longer than its depth, in the same order.  Routes that are short enough for two depths are
found in some order at one of them exactly if they are found in this order at the other. -/
theorem findRoutes_slice (offers : List Offer) (source destination : Endpoint) (depth : Nat) :
    (∀ deeper, depth ≤ deeper → findRoutes offers source depth destination =
      (findRoutes offers source deeper destination).filter fun route => route.length ≤ depth) ∧
    ∀ (other : Nat) (few : List Route),
      (∀ route ∈ few, route.length ≤ depth ∧ route.length ≤ other) →
      (few.Sublist (findRoutes offers source depth destination) ↔
        few.Sublist (findRoutes offers source other destination)) := by
  refine ⟨fun deeper h => findRoutes_eq_filter h destination, fun other few hfew => ?_⟩
  have hshort : ∀ route ∈ few, decide (route.length ≤ min depth other) = true := fun route hroute =>
    decide_eq_true (le_min (hfew route hroute).1 (hfew route hroute).2)
  -- both searches find what the one of the lesser depth finds
  rw [← sublist_filter_iff_of_forall hshort,
    ← findRoutes_eq_filter (min_le_left depth other) destination,
    findRoutes_eq_filter (min_le_right depth other) destination,
    sublist_filter_iff_of_forall hshort]

namespace Sample

/-- A second module that serves rows. -/
def rowMirror : Module := { rowReader with name := "row mirror" }

/-- An environment in which two modules serve rows. -/
def mirroring : Environment := .ofParts [copier, rowReader, rowMirror] [] [] .empty

/-- Serves rows from the second module. -/
def mirroringRows : Leg := ⟨⟨rowMirror, ⟨0, by decide⟩⟩, .store csv, .api flight⟩

end Sample

/-- A route by way of a copy stands between the two routes without one. -/
theorem sample_findRoutes_slice :
    findRoutes (Sample.mirroring.offers .empty) (.store Sample.csv) 2 (.api Sample.flight) =
        [[Sample.readingRows], [Sample.copyingRows, Sample.readingRows], [Sample.mirroringRows],
          [Sample.copyingRows, Sample.mirroringRows]] ∧
      findRoutes (Sample.mirroring.offers .empty) (.store Sample.csv) 1 (.api Sample.flight) =
        [[Sample.readingRows], [Sample.mirroringRows]] ∧
      [[Sample.readingRows], [Sample.mirroringRows]].Sublist
        (findRoutes (Sample.mirroring.offers .empty) (.store Sample.csv) 3
          (.api Sample.flight)) := by
  have hdeep : findRoutes (Sample.mirroring.offers .empty) (.store Sample.csv) 2
      (.api Sample.flight) = [[Sample.readingRows], [Sample.copyingRows, Sample.readingRows],
        [Sample.mirroringRows], [Sample.copyingRows, Sample.mirroringRows]] := rfl
  have hslice := findRoutes_slice (Sample.mirroring.offers .empty) (.store Sample.csv)
    (.api Sample.flight) 1
  have hshallow := hslice.1 2 (by decide)
  rw [hdeep] at hshallow
  refine ⟨hdeep, hshallow, (hslice.2 3 _ ?_).mp ?_⟩
  · exact List.forall_mem_cons.mpr ⟨by decide, List.forall_mem_singleton.mpr (by decide)⟩
  · rw [hshallow]
    exact List.Sublist.refl _

end DataRoute
