import DataRoute.Proofs.Depth

/-! # Stricter policies

A policy can be made stricter in two places.  Restrictions on clusters and accounts bear on the
placements of a route.  What a placement applies where depends on the choices alone, so those that
are left under stricter restrictions are the ones that meet them (`allPlacements_of_tightened`).
Decisions and restrictions on modules bear on what is offered to the search.  Leaving out offers
before the search comes to the same as leaving out the routes that use them (`findRoutes_filter`).
In both cases the order is kept: what the stricter policy leaves is a filter of what there was
(`placements_of_tightened`, `findRoutes_of_narrowed`). -/

namespace DataRoute

/-! ### Restrictions on clusters and accounts -/

/-- A policy that requires what another one does, and whose restrictions on clusters and accounts
are met by no cluster and by no account that does not meet those of the other one. -/
structure Environment.Tightens (env : Environment) (policy stricter : Policy) : Prop where
  deploy : ∀ kind, stricter.deploy kind = policy.deploy kind
  clusters : ∀ kind, ∀ c ∈ env.clusters,
    satisfies (stricter.clusterRestrictions kind) c.subject env.infrastructure = true →
      satisfies (policy.clusterRestrictions kind) c.subject env.infrastructure = true
  accounts : ∀ kind, ∀ a ∈ env.storageAccounts,
    satisfies (stricter.storageRestrictions kind) a.subject env.infrastructure = true →
      satisfies (policy.storageRestrictions kind) a.subject env.infrastructure = true

/-- Other restrictions for one kind tighten a policy if nothing meets them that did not meet those
that they replace. -/
theorem Environment.tightens_withDecision {env : Environment} {policy : Policy}
    {kind : CapabilityKind} {d : Decision} (hdeploy : d.deploy = policy.deploy kind)
    (hclusters : ∀ c ∈ env.clusters,
      satisfies d.restrictions.clusters c.subject env.infrastructure = true →
        satisfies (policy.clusterRestrictions kind) c.subject env.infrastructure = true)
    (haccounts : ∀ a ∈ env.storageAccounts,
      satisfies d.restrictions.storageAccounts a.subject env.infrastructure = true →
        satisfies (policy.storageRestrictions kind) a.subject env.infrastructure = true) :
    env.Tightens policy (policy.withDecision kind d) := by
  refine ⟨fun other => ?_, fun other c hc hmeets => ?_, fun other a ha hmeets => ?_⟩
  · rw [Policy.deploy_withDecision]
    split
    next hkind => rw [hdeploy, beq_iff_eq.mp hkind]
    next => rfl
  · unfold Policy.clusterRestrictions at hmeets
    rw [Policy.restrictions?_withDecision] at hmeets
    split at hmeets
    next hkind => exact beq_iff_eq.mp hkind ▸ hclusters c hc hmeets
    next => exact hmeets
  · unfold Policy.storageRestrictions at hmeets
    rw [Policy.restrictions?_withDecision] at hmeets
    split at hmeets
    next hkind => exact beq_iff_eq.mp hkind ▸ haccounts a ha hmeets
    next => exact hmeets

/-- Whether the accounts and the clusters of a plan meet the restrictions of a policy. -/
def Environment.meetsRestrictions (env : Environment) (policy : Policy) (plan : Plan) : Bool :=
  plan.all fun l =>
    l.account.all (fun a =>
        satisfies (policy.storageRestrictions l.leg.kind) a.subject env.infrastructure) &&
      (satisfies (policy.clusterRestrictions l.leg.kind) l.cluster.subject env.infrastructure &&
        (l.actions.isEmpty ||
          satisfies (policy.clusterRestrictions .transform) l.cluster.subject env.infrastructure))

section placements
variable {env : Environment} {request : Request} {stricter : Policy}

theorem meetsRestrictions_iff {policy : Policy} {plan : Plan} :
    env.meetsRestrictions policy plan = true ↔ ∀ l ∈ plan,
      (∀ a ∈ l.account,
        satisfies (policy.storageRestrictions l.leg.kind) a.subject env.infrastructure = true) ∧
      satisfies (policy.clusterRestrictions l.leg.kind) l.cluster.subject
          env.infrastructure = true ∧
      (l.actions ≠ [] →
        satisfies (policy.clusterRestrictions .transform) l.cluster.subject
          env.infrastructure = true) := by
  unfold Environment.meetsRestrictions
  simp only [List.all_eq_true, Bool.and_eq_true, Option.all_eq_true, Option.mem_def,
    Bool.or_eq_true, List.isEmpty_iff, or_iff_not_imp_left, ne_eq]

theorem carryOut_withPolicy (policy : Policy) (d : Duties) (route : Route)
    (choices : List Choice) :
    carryOut { request with policy } d route choices = carryOut request d route choices := by
  induction route generalizing d choices with
  | nil => rfl
  | cons leg later ih =>
      cases choices with
      | nil => rfl
      | cons choice choices =>
          rw [carryOut, carryOut, ih]
          rfl

theorem dutiesAfter_withPolicy (policy : Policy) (d : Duties) (route : Route)
    (choices : List Choice) :
    dutiesAfter { request with policy } d route choices = dutiesAfter request d route choices := by
  induction route generalizing d choices with
  | nil => rfl
  | cons leg later ih =>
      cases choices with
      | nil => rfl
      | cons choice choices =>
          rw [dutiesAfter, dutiesAfter, ih]
          rfl

/-- A plan over the registry is permitted under stricter restrictions if it was before and meets
them. -/
theorem permits_of_tightened (h : env.Tightens request.policy stricter) {plan : Plan}
    (hplan : ∀ l ∈ plan, l.cluster ∈ env.clusters ∧ ∀ a ∈ l.account, a ∈ env.storageAccounts) :
    env.Permits { request with policy := stricter } plan ↔
      env.Permits request plan ∧ env.meetsRestrictions stricter plan = true := by
  rw [meetsRestrictions_iff]
  constructor
  · intro hstrict
    refine ⟨⟨hstrict.stored, fun l hl a ha => ?_, fun l hl => ?_⟩, fun l hl => ?_⟩
    · obtain ⟨hrequired, hmeets⟩ := hstrict.writable l hl a ha
      exact ⟨hrequired, h.accounts _ a ((hplan l hl).2 a ha) hmeets⟩
    · obtain ⟨hkind, htransform⟩ := hstrict.hosted l hl
      have hcluster := (hplan l hl).1
      exact ⟨h.clusters _ _ hcluster hkind,
        fun hactions => h.clusters _ _ hcluster (htransform hactions)⟩
    · exact ⟨fun a ha => (hstrict.writable l hl a ha).2, hstrict.hosted l hl⟩
  · rintro ⟨hpermits, hmeets⟩
    refine ⟨hpermits.stored, fun l hl a ha => ?_, fun l hl => (hmeets l hl).2⟩
    exact ⟨(hpermits.writable l hl a ha).1, (hmeets l hl).1 a ha⟩

theorem coversRequired_of_tightened (h : env.Tightens request.policy stricter) (route : Route) :
    coversRequired { request with policy := stricter } route = coversRequired request route := by
  rw [Bool.eq_iff_iff, coversRequired_iff, coversRequired_iff]
  simp only [h.deploy]

/-- Choices place a route under stricter restrictions if they did before and their plan meets
them. -/
theorem isPlacement_of_tightened (h : env.Tightens request.policy stricter) {route : Route}
    {choices : List Choice} (hchoices : choices ∈ env.allChoices route) :
    env.isPlacement { request with policy := stricter } route choices =
      (env.isPlacement request route choices &&
        env.meetsRestrictions stricter (carryOut request (.initial request) route choices)) := by
  have hregistered : ∀ l ∈ carryOut request (.initial request) route choices,
      l.cluster ∈ env.clusters ∧ ∀ a ∈ l.account, a ∈ env.storageAccounts := by
    intro l hl
    obtain ⟨c, hc, haccount, hcluster⟩ := exists_choice_of_mem_carryOut hl
    rw [haccount, hcluster]
    exact ((mem_allChoices_iff.mp hchoices).2 c hc).symm
  have hduties : Duties.initial { request with policy := stricter } = .initial request := rfl
  unfold Environment.isPlacement
  rw [hduties, carryOut_withPolicy, dutiesAfter_withPolicy, coversRequired_of_tightened h,
    Bool.eq_iff_iff]
  simp only [Bool.and_eq_true, permitsLegs_iff, permits_of_tightened h hregistered]
  tauto

/-- Stricter restrictions leave the placements that meet them. -/
theorem allPlacements_of_tightened (h : env.Tightens request.policy stricter) (route : Route) :
    env.allPlacements { request with policy := stricter } route =
      (env.allPlacements request route).filter (env.meetsRestrictions stricter) := by
  have hcarry : carryOut { request with policy := stricter }
      (.initial { request with policy := stricter }) route =
      carryOut request (.initial request) route :=
    funext fun choices => carryOut_withPolicy stricter _ route choices
  unfold Environment.allPlacements
  rw [hcarry, List.filter_map, List.filter_filter]
  refine congrArg _ (List.filter_congr fun choices hchoices => ?_)
  rw [isPlacement_of_tightened h hchoices, Bool.and_comm]
  rfl

end placements

/-- The placements of a route that a search with a limit finds; none if the route is rejected. -/
def Environment.placements (env : Environment) (request : Request) (route : Route)
    (limit : Nat) : List Plan :=
  (env.plans request route limit).toOption.getD []

theorem placements_eq_take (env : Environment) (request : Request) (route : Route) (limit : Nat) :
    env.placements request route limit = (env.allPlacements request route).take (max limit 1) := by
  have hanswers := plans_answers env request route limit
  unfold Environment.placements
  cases hplans : env.plans request route limit with
  | error reason =>
      rw [hplans] at hanswers
      have hnil : env.allPlacements request route = [] := hanswers
      rw [hnil, List.take_nil]
      rfl
  | ok found =>
      rw [hplans] at hanswers
      exact hanswers.2

theorem length_allPlacements_le {env : Environment} {request : Request} {route : Route}
    {limit : Nat} (h : ∀ n, (env.placements request route n).length ≤ limit) :
    (env.allPlacements request route).length ≤ limit := by
  have hall := h (env.allPlacements request route).length
  rwa [placements_eq_take, List.take_of_length_le (le_max_left _ _)] at hall

/-- **Stricter restrictions filter the placements.**  With a limit that leaves out no placement of
a route under the policy, the placements under a policy with stricter restrictions on clusters and
accounts are those that meet these, in the same order. -/
theorem placements_of_tightened {env : Environment} {request : Request} {stricter : Policy}
    (h : env.Tightens request.policy stricter) (route : Route) {limit : Nat}
    (hlimit : ∀ n, (env.placements request route n).length ≤ limit) :
    env.placements { request with policy := stricter } route limit =
      (env.placements request route limit).filter (env.meetsRestrictions stricter) := by
  have hall := length_allPlacements_le hlimit
  have hkept := List.length_filter_le (env.meetsRestrictions stricter)
    (env.allPlacements request route)
  rw [placements_eq_take, placements_eq_take, allPlacements_of_tightened h,
    List.take_of_length_le (by omega), List.take_of_length_le (by omega)]

namespace Sample

/-- Actions may only be applied in the cheap cluster. -/
def applyCheaply : Decision :=
  ⟨.allowed, { Restrictions.none with clusters := [⟨"name", .values ["cheap"]⟩] }, .none⟩

/-- Copies and redacts in one cluster and reads in another, by way of the account where nothing is
required. -/
def freelyIn (copies reads : Cluster) : Plan :=
  [⟨copying, [⟨"Redact", []⟩], copies, some free⟩, ⟨reading, [], reads, none⟩]

theorem tightens_applyCheaply :
    roomy.Tightens tolerant.policy (tolerant.policy.withDecision .transform applyCheaply) :=
  Environment.tightens_withDecision rfl (fun _ _ _ => rfl) (fun _ _ _ => rfl)

theorem length_placements_tolerant (n : Nat) :
    (roomy.placements tolerant [copying, reading] n).length ≤ 8 := by
  rw [placements_eq_take]
  exact (List.length_take_le' _ _).trans (by decide)

end Sample

/-- By way of the account that requires a filter both legs have to run in the cheap cluster. -/
theorem sample_tightened :
    (Sample.roomy.placements Sample.tolerant [Sample.copying, Sample.reading] 8).length = 8 ∧
      Sample.roomy.placements { Sample.tolerant with
            policy := Sample.tolerant.policy.withDecision .transform Sample.applyCheaply }
          [Sample.copying, Sample.reading] 8 =
        [Sample.planIn Sample.cheap Sample.cheap, Sample.freelyIn Sample.cheap Sample.dear,
          Sample.freelyIn Sample.cheap Sample.cheap] := by
  refine ⟨rfl, ?_⟩
  rw [placements_of_tightened Sample.tightens_applyCheaply [Sample.copying, Sample.reading]
    Sample.length_placements_tolerant]
  rfl

/-! ### Decisions and restrictions on modules -/

/-- A policy that forbids more kinds than another one, and has more restrictions on the modules of
the kinds that it does not forbid. -/
def Policy.Narrows (policy narrower : Policy) : Prop :=
  ∀ kind, narrower.deploy kind = .forbidden ∨ narrower.deploy kind = policy.deploy kind ∧
    policy.moduleRestrictions kind ⊆ narrower.moduleRestrictions kind

theorem Policy.Narrows.trans {policy narrower narrowest : Policy} (h : policy.Narrows narrower)
    (h' : narrower.Narrows narrowest) : policy.Narrows narrowest := by
  intro kind
  obtain hforbidden | ⟨hdeploy', hmodules'⟩ := h' kind
  · exact .inl hforbidden
  · obtain hforbidden | ⟨hdeploy, hmodules⟩ := h kind
    · exact .inl (hdeploy'.trans hforbidden)
    · exact .inr ⟨hdeploy'.trans hdeploy, List.Subset.trans hmodules hmodules'⟩

/-- A decision narrows a policy if it forbids its kind or adds restrictions on its modules. -/
theorem Policy.narrows_withDecision {policy : Policy} {kind : CapabilityKind} {d : Decision}
    (h : d.deploy = .forbidden ∨ d.deploy = policy.deploy kind ∧
      policy.moduleRestrictions kind ⊆ d.restrictions.modules) :
    policy.Narrows (policy.withDecision kind d) := by
  intro other
  unfold Policy.moduleRestrictions
  rw [Policy.deploy_withDecision, Policy.restrictions?_withDecision]
  split
  next hkind =>
    rw [beq_iff_eq.mp hkind]
    exact h
  next => exact .inr ⟨rfl, List.Subset.refl _⟩

/-- Whether an offer stands in a list of offers: one of them is of the same module and has the same
position there. -/
def Offer.isListed (offers : List Offer) (o : Offer) : Bool :=
  offers.any fun other =>
    other.module.name == o.module.name && other.position.val == o.position.val

section offers
variable {env : Environment} {policy narrower : Policy}

theorem satisfies_of_subset {restrictions others : List Restriction} {subject : Subject}
    {infra : Infrastructure} (h : restrictions ⊆ others)
    (hothers : satisfies others subject infra = true) :
    satisfies restrictions subject infra = true := by
  unfold satisfies at hothers ⊢
  rw [List.all_eq_true] at hothers ⊢
  exact fun r hr => hothers r (h hr)

theorem admitted_of_narrowed (h : policy.Narrows narrower) {o : Offer}
    (ho : o.admitted env narrower = true) : o.admitted env policy = true := by
  unfold Offer.admitted at ho ⊢
  rw [Bool.and_eq_true, bne_iff_ne] at ho ⊢
  obtain hforbidden | ⟨hdeploy, hmodules⟩ := h o.kind
  · exact absurd hforbidden ho.1
  · exact ⟨hdeploy ▸ ho.1, satisfies_of_subset hmodules ho.2⟩

/-- A narrower policy leaves some of the offers, in their order. -/
theorem offers_of_narrowed (h : policy.Narrows narrower) :
    env.offers narrower = (env.offers policy).filter (Offer.admitted env narrower) := by
  unfold Environment.offers
  rw [List.filter_filter]
  refine List.filter_congr fun o _ => ?_
  cases ho : o.admitted env narrower with
  | false => rfl
  | true => rw [admitted_of_narrowed h ho, Bool.and_self]

/-- Since modules have distinct names, an offer is listed if it is admitted. -/
theorem isListed_offers {o : Offer} (ho : o ∈ env.offers policy) :
    o.isListed (env.offers narrower) = o.admitted env narrower := by
  rw [Bool.eq_iff_iff]
  unfold Offer.isListed
  rw [List.any_eq_true]
  constructor
  · rintro ⟨other, hother, hsame⟩
    rw [Bool.and_eq_true, beq_iff_eq, beq_iff_eq] at hsame
    obtain ⟨hname, hposition⟩ := hsame
    have hmodule : other.module = o.module :=
      List.inj_on_of_nodup_map env.catalog.distinct (module_mem_of_mem_offers hother)
        (module_mem_of_mem_offers ho) hname
    obtain ⟨m, position⟩ := o
    obtain ⟨_, other⟩ := other
    obtain rfl := hmodule
    obtain rfl := Fin.ext hposition
    exact (List.mem_filter.mp hother).2
  · intro hadmitted
    refine ⟨o, List.mem_filter.mpr ⟨(List.mem_filter.mp ho).1, hadmitted⟩, ?_⟩
    rw [beq_self_eq_true, beq_self_eq_true]
    rfl

end offers

/-! ### Routes over some of the offers -/

/-- Whether every leg of a route uses an offer that is kept. -/
def Route.keeps (keep : Offer → Bool) (route : Route) : Bool := route.all fun l => keep l.offer

section search
variable {offers : List Offer} {source : Endpoint} (keep : Offer → Bool)

theorem keeps_concat (before : Route) (l : Leg) :
    Route.keeps keep (before ++ [l]) = (before.keeps keep && keep l.offer) := by
  unfold Route.keeps
  rw [List.all_append, List.all_cons, List.all_nil, Bool.and_true]

theorem routesVia_filter {depth : Nat} {offer : Offer} (hoffer : keep offer = true)
    (h : ∀ destination, findRoutes (offers.filter keep) source depth destination =
      (findRoutes offers source depth destination).filter (Route.keeps keep)) (sink : Endpoint) :
    routesVia (offers.filter keep) source depth offer sink =
      (routesVia offers source depth offer sink).filter (Route.keeps keep) := by
  unfold routesVia
  rw [List.filter_append, List.filter_flatMap]
  congr 1
  · split
    · simp [Route.keeps, hoffer]
    · rfl
  · apply List.flatMap_congr
    intro i _
    rw [h, List.filter_map]
    refine congrArg _ (List.filter_congr fun before _ => ?_)
    rw [Function.comp_apply, keeps_concat, hoffer, Bool.and_true]

theorem filter_routesVia_eq_nil {depth : Nat} {offer : Offer} (hoffer : keep offer = false)
    (sink : Endpoint) :
    (routesVia offers source depth offer sink).filter (Route.keeps keep) = [] := by
  rw [List.filter_eq_nil_iff]
  intro route hroute
  obtain ⟨-, rfl⟩ | ⟨i, -, before, -, rfl⟩ := mem_routesVia_iff.mp hroute
  · simp [Route.keeps, hoffer]
  · rw [keeps_concat, hoffer, Bool.and_false]
    exact Bool.false_ne_true

/-- The search over some of the offers finds the routes that use no others, in their order. -/
theorem findRoutes_filter (depth : Nat) (destination : Endpoint) :
    findRoutes (offers.filter keep) source depth destination =
      (findRoutes offers source depth destination).filter (Route.keeps keep) := by
  induction depth generalizing destination with
  | zero => rfl
  | succ depth ih =>
      rw [findRoutes_succ, findRoutes_succ, flatMap_filter, List.filter_flatMap]
      refine List.flatMap_congr fun offer _ => ?_
      rw [List.filter_flatMap]
      split
      next hoffer => exact List.flatMap_congr fun sink _ => routesVia_filter keep hoffer ih sink
      next hoffer =>
        rw [eq_comm, List.flatMap_eq_nil_iff]
        exact fun sink _ => filter_routesVia_eq_nil keep (Bool.eq_false_iff.mpr hoffer) sink

end search

/-- **A narrower policy filters the routes.**  Forbidding kinds and adding restrictions on modules
before the search leaves the routes all of whose offers are still listed, in the same order. -/
theorem findRoutes_of_narrowed {policy narrower : Policy} (h : policy.Narrows narrower)
    (env : Environment) (source destination : Endpoint) (depth : Nat) :
    findRoutes (env.offers narrower) source depth destination =
      (findRoutes (env.offers policy) source depth destination).filter
        (Route.keeps (Offer.isListed (env.offers narrower))) := by
  rw [offers_of_narrowed h, findRoutes_filter, ← offers_of_narrowed h]
  refine List.filter_congr fun route hroute => ?_
  unfold Route.keeps
  rw [Bool.eq_iff_iff, List.all_eq_true, List.all_eq_true]
  refine forall₂_congr fun l hl => ?_
  rw [isListed_offers ((spans_of_mem_findRoutes hroute).usable l hl).1]

namespace Sample

/-- Rows are not copied, and only the module that serves rows may serve. -/
def serveOnly : Policy :=
  (Policy.empty.withDecision .copy (.ofDeployment .forbidden)).withDecision .read
    ⟨.allowed, { Restrictions.none with modules := [⟨"name", .values ["row reader"]⟩] }, .none⟩

theorem narrows_serveOnly : Policy.empty.Narrows serveOnly :=
  .trans (Policy.narrows_withDecision (.inl rfl))
    (Policy.narrows_withDecision (.inr ⟨rfl, List.nil_subset _⟩))

end Sample

theorem sample_narrowed :
    findRoutes (Sample.serving.offers .empty) (.store Sample.csv) 2 (.api Sample.flight) =
        [[Sample.readingRows], [Sample.copyingRows, Sample.readingRows]] ∧
      findRoutes (Sample.serving.offers Sample.serveOnly) (.store Sample.csv) 2
        (.api Sample.flight) = [[Sample.readingRows]] := by
  refine ⟨rfl, ?_⟩
  rw [findRoutes_of_narrowed Sample.narrows_serveOnly]
  rfl

end DataRoute
