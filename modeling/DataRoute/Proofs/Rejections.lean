import DataRoute.Proofs.Reasons
import DataRoute.Proofs.SearchRecord

/-! # What a rejection says

A route is rejected for want of an account or a cluster, or at its end.  There, what is pending are
the actions of the request that no leg supports, since an account is chosen only if what it adds is
supported further on (`reason_of_greedyFrom`); and if nothing is pending, the kind that is named is
the first required one that no leg has (`firstMissing_of_missingKind?`).  Both searches reject for
the same reason, so what these reasons say is exact for both (`rejections_exact`).  A route that
deserves one of them is never placed. -/

namespace DataRoute

/-! ### Reasons at the end of a route -/

section settle
variable {missing : Option CapabilityKind} {d : Duties}

theorem settle_eq_unsupportedActions_iff {names : List String} :
    settle missing d = .error (.unsupportedActions names) ↔
      d.pending ≠ [] ∧ names = actionNames d.pending := by
  unfold settle
  cases hpending : d.pending with
  | nil => cases missing <;> simp
  | cons a rest =>
      rw [List.isEmpty_cons, if_neg Bool.false_ne_true, Except.error.injEq,
        Rejection.unsupportedActions.injEq, eq_comm]
      exact (and_iff_right (List.cons_ne_nil a rest)).symm

theorem settle_eq_missingCapability_iff {kind : CapabilityKind} :
    settle missing d = .error (.missingCapability kind) ↔ d.pending = [] ∧ missing = some kind := by
  unfold settle
  cases hpending : d.pending with
  | nil => cases missing <;> simp
  | cons a rest => simp

end settle

/-! ### The first missing kind -/

/-- Whether a kind is the first of the required ones that no leg of a route has.  Decisions stand
in the order of their kinds. -/
structure FirstMissing (request : Request) (route : Route) (kind : CapabilityKind) : Prop where
  required : request.policy.deploy kind = .required
  missing : ∀ l ∈ route, l.kind ≠ kind
  first : ∀ other, request.policy.deploy other = .required → KeyOrder.before other kind = true →
    ∃ l ∈ route, l.kind = other

theorem pairwise_requiredKinds (policy : Policy) :
    policy.requiredKinds.Pairwise fun a b => KeyOrder.before a b = true := by
  unfold Policy.requiredKinds
  rw [List.pairwise_map]
  exact policy.decisions.sorted.filter _

theorem firstMissing_of_missingKind? {request : Request} {route : Route} {kind : CapabilityKind}
    (h : missingKind? request route = some kind) : FirstMissing request route kind := by
  have hmissing := ne_of_missingKind? h
  obtain ⟨-, before, after, hkinds, hbefore⟩ := List.find?_eq_some_iff_append.mp h
  have hsorted := pairwise_requiredKinds request.policy
  refine ⟨Policy.mem_requiredKinds_iff.mp ?_, hmissing, fun other hother hlt => ?_⟩
  · rw [hkinds]
    exact List.mem_append_right _ List.mem_cons_self
  rw [← Policy.mem_requiredKinds_iff, hkinds, List.mem_append, List.mem_cons] at hother
  rw [hkinds, List.pairwise_append, List.pairwise_cons] at hsorted
  obtain hother | rfl | hother := hother
  · have hhas := hbefore other hother
    rw [Bool.not_not, List.any_eq_true] at hhas
    obtain ⟨l, hl, hkind⟩ := hhas
    exact ⟨l, hl, beq_iff_eq.mp hkind⟩
  · rw [KeyOrder.before_self] at hlt
    exact absurd hlt Bool.false_ne_true
  · -- what stands after a kind does not come before it
    have hcycle := KeyOrder.before_trans hlt (hsorted.2.1.1 other hother)
    rw [KeyOrder.before_self] at hcycle
    exact absurd hcycle Bool.false_ne_true

/-! ### Rejected routes -/

section rejects
variable {env : Environment} {request : Request} {route : Route}

/-- The names of the actions of a request that no leg of a route supports, as the request lists
them. -/
def Request.unsupportedNames (request : Request) (route : Route) : List String :=
  actionNames (request.actions.filter fun a =>
    route.all fun l => !l.capability.supportsAction a.name)

/-- Whether one of the two searches rejects a route for a reason. -/
def Environment.Rejects (env : Environment) (request : Request) (route : Route)
    (reason : Rejection) : Prop :=
  env.greedyPlan request route = .error reason ∨
    ∃ limit, env.plans request route limit = .error reason

theorem greedyPlan_of_rejects {reason : Rejection} (h : env.Rejects request route reason) :
    env.greedyPlan request route = .error reason := by
  obtain hgreedy | ⟨limit, hplans⟩ := h
  · exact hgreedy
  · exact (greedyPlan_leads_plans env request route limit).eq_error hplans

theorem unsupportedActions_of_greedyPlan {names : List String}
    (h : env.greedyPlan request route = .error (.unsupportedActions names)) :
    names = request.unsupportedNames route ∧ names ≠ [] := by
  obtain ⟨l, -, hl | hl⟩ | hend := reason_of_greedyFrom env request _ h
  · exact nomatch hl
  · exact nomatch hl
  · obtain ⟨hne, rfl⟩ := settle_eq_unsupportedActions_iff.mp hend
    exact ⟨rfl, fun hnil => hne (List.map_eq_nil_iff.mp hnil)⟩

theorem missingCapability_of_greedyPlan {kind : CapabilityKind}
    (h : env.greedyPlan request route = .error (.missingCapability kind)) :
    (∀ a ∈ request.actions, ∃ l ∈ route, l.capability.supportsAction a.name = true) ∧
      FirstMissing request route kind := by
  obtain ⟨l, -, hl | hl⟩ | hend := reason_of_greedyFrom env request _ h
  · exact nomatch hl
  · exact nomatch hl
  · obtain ⟨hnone, hmissing⟩ := settle_eq_missingCapability_iff.mp hend
    refine ⟨fun a ha => ?_, firstMissing_of_missingKind? hmissing⟩
    have hsupported := List.filter_eq_nil_iff.mp hnone a ha
    simpa using hsupported

theorem allPlacements_eq_nil_of_unsupported
    (h : ∃ a ∈ request.actions, ∀ l ∈ route, l.capability.supportsAction a.name = false) :
    env.allPlacements request route = [] := by
  obtain ⟨a, ha, hroute⟩ := h
  rw [← completions_initial]
  exact completions_eq_nil env request _ ha hroute

theorem allPlacements_eq_nil_of_missing
    (h : ∃ kind, request.policy.deploy kind = .required ∧ ∀ l ∈ route, l.kind ≠ kind) :
    env.allPlacements request route = [] := by
  obtain ⟨kind, hrequired, hroute⟩ := h
  rw [List.eq_nil_iff_forall_not_mem]
  intro plan hplan
  obtain ⟨_, -, ⟨-, -, hcovers⟩, -⟩ := (mem_allPlacements_iff env request).mp hplan
  obtain ⟨l, hl, hkind⟩ := (coversRequired_iff request).mp hcovers kind hrequired
  exact hroute l hl hkind

end rejects

/-- **Rejections are exact.**  The actions that a rejection lists are those of the request that no
leg supports, in their order, and there are some.  The kind that a rejection names is the first
required one that no leg has, and every action of the request is supported.  A route with an
unsupported action or without a required kind is not placed, with any limit.  A search that keeps
one record always finds a reason in it if it finds no plan. -/
theorem rejections_exact (env : Environment) (request : Request) (route : Route) :
    (∀ names, env.Rejects request route (.unsupportedActions names) →
      names = request.unsupportedNames route ∧ names ≠ []) ∧
    (∀ kind, env.Rejects request route (.missingCapability kind) →
      (∀ a ∈ request.actions, ∃ l ∈ route, l.capability.supportsAction a.name = true) ∧
        FirstMissing request route kind) ∧
    ((∃ a ∈ request.actions, ∀ l ∈ route, l.capability.supportsAction a.name = false) ∨
        (∃ kind, request.policy.deploy kind = .required ∧ ∀ l ∈ route, l.kind ≠ kind) →
      (∃ reason, env.greedyPlan request route = .error reason) ∧
        ∀ limit, ∃ reason, env.plans request route limit = .error reason) ∧
    ∀ limit,
      (env.search request true limit route).answer =
          (env.greedyPlan request route).map (fun plan => [plan]) ∧
        (env.search request false limit route).answer = env.plans request route limit ∧
        ∀ firstOnly, (env.search request firstOnly limit route).plans = [] →
          ∃ reason, (env.search request firstOnly limit route).reason = some reason := by
  refine ⟨fun names h => unsupportedActions_of_greedyPlan (greedyPlan_of_rejects h),
    fun kind h => missingCapability_of_greedyPlan (greedyPlan_of_rejects h), fun h => ?_,
    fun limit => ?_⟩
  · have hnone : env.allPlacements request route = [] :=
      h.elim allPlacements_eq_nil_of_unsupported allPlacements_eq_nil_of_missing
    exact ⟨exists_reason_of_allPlacements_eq_nil hnone,
      fun limit => (plans_answers env request route limit).eq_error_iff.mpr hnone⟩
  · obtain ⟨hgreedy, hgreedyReason⟩ := search_of_greedyPlan env request route limit
    obtain ⟨hplans, hplansReason⟩ := search_of_plans env request route limit
    exact ⟨hgreedy, hplans, Bool.forall_bool.mpr ⟨hplansReason, hgreedyReason⟩⟩

namespace Sample

/-- A workload that asks for a masking twice, and for a filter. -/
def masked : Request := { request with actions := [⟨"Mask", []⟩, ⟨"Filter", []⟩, ⟨"Mask", []⟩] }

/-- A workload whose rows have to be copied, transformed and deleted. -/
def demanding : Request :=
  { tolerant with
    policy := ((Policy.empty.withDecision .delete (.ofDeployment .required)).withDecision .copy
      (.ofDeployment .required)).withDecision .transform (.ofDeployment .required) }

end Sample

/-- Masking is listed twice and the filter is not; copying is required and there, transforming is
the first kind that is missing. -/
theorem sample_rejections :
    (Sample.environment.Rejects Sample.masked [Sample.reading]
        (.unsupportedActions ["Mask", "Mask"]) ∧
      ["Mask", "Mask"] = Sample.masked.unsupportedNames [Sample.reading]) ∧
    (Sample.roomy.Rejects Sample.demanding [Sample.copying] (.missingCapability .transform) ∧
      FirstMissing Sample.demanding [Sample.copying] .transform) ∧
    ∀ limit, ∃ reason,
      Sample.roomy.plans Sample.demanding [Sample.copying] limit = .error reason := by
  have hmasked : Sample.environment.Rejects Sample.masked [Sample.reading]
      (.unsupportedActions ["Mask", "Mask"]) := .inl rfl
  have hdemanding : Sample.roomy.Rejects Sample.demanding [Sample.copying]
      (.missingCapability .transform) := .inr ⟨2, rfl⟩
  exact ⟨⟨hmasked, ((rejections_exact _ _ _).1 _ hmasked).1⟩,
    ⟨hdemanding, ((rejections_exact _ _ _).2.1 _ hdemanding).2⟩,
    ((rejections_exact _ _ _).2.2.1 (.inr ⟨.delete, by decide, by decide⟩)).2⟩

end DataRoute
