import DataRoute.Proofs.Deployment

/-! # Data that do not matter to a request

Some of an environment is never looked at when a request is solved: accounts in regions where
nothing may be written, modules that offer nothing under the policy, and attributes that neither a
goal nor a restriction mentions.  Each place that reads such data is shown to read them through a
test that leaves them out: look-ups of attributes through the name (`attribute?_mentionedIn`),
offers through the policy (`offers_relevantTo`), choices of accounts through the region
(`accountChoices_relevantTo`).  What remains of an environment therefore gives the same answers, and
so does every environment of which the same remains (`solve_relevantTo`). -/

namespace DataRoute

/-! ### What matters to a request -/

/-- Whether one of these restrictions is on a property of this name. -/
def Restrictions.mention (r : Restrictions) (name : String) : Bool :=
  (r.clusters ++ r.modules ++ r.storageAccounts).any fun x => x.property == name

/-- Whether a policy has a goal for an attribute of this name, or a restriction on it. -/
def Policy.mentions (p : Policy) (name : String) : Bool :=
  p.goals.any (fun goal => goal.attributeName == name) ||
    p.decisions.entries.any fun e => e.2.restrictions.mention name

/-- The attributes that a policy mentions, and all metrics. -/
def Infrastructure.mentionedIn (infra : Infrastructure) (p : Policy) : Infrastructure :=
  { infra with attributes := infra.attributes.filter fun a => p.mentions a.name }

/-- Whether a policy admits a capability of a module. -/
def Environment.offersModule (env : Environment) (policy : Policy) (m : Module) : Bool :=
  (Offer.ofModule m).any (Offer.admitted env policy)

/-- Some of the modules of a catalog. -/
def Catalog.filter (catalog : Catalog) (keep : Module → Bool) : Catalog :=
  ⟨catalog.modules.filter keep, catalog.distinct.sublist (List.filter_sublist.map _)⟩

/-- What remains of an environment without the modules that offer nothing, the accounts in regions
where nothing may be written, and the attributes that are not mentioned. -/
def Environment.relevantTo (env : Environment) (request : Request) : Environment where
  catalog := env.catalog.filter (env.offersModule request.policy)
  clusters := env.clusters
  storageAccounts := env.storageAccounts.filter fun a => (request.requiredIn? a.region).isSome
  infrastructure := env.infrastructure.mentionedIn request.policy

/-! ### Attributes -/

section attributes
variable (infra : Infrastructure) {p : Policy} {name : String}

theorem find?_mentionedIn (hname : p.mentions name = true) (test : Attribute → Bool) :
    (infra.mentionedIn p).attributes.find? (fun a => a.name == name && test a) =
      infra.attributes.find? fun a => a.name == name && test a := by
  unfold Infrastructure.mentionedIn
  rw [List.find?_filter]
  refine congrArg (List.find? · infra.attributes) (funext fun a => ?_)
  cases hsame : a.name == name with
  | false => simp
  | true => simp [beq_iff_eq.mp hsame, hname]

theorem attribute?_mentionedIn (hname : p.mentions name = true) (object : ObjectKind)
    (instanceName : String) :
    (infra.mentionedIn p).attribute? name object instanceName =
      infra.attribute? name object instanceName := by
  unfold Infrastructure.attribute?
  simp only [Bool.and_assoc]
  exact find?_mentionedIn infra hname _

theorem between?_mentionedIn (hname : p.mentions name = true) (x y : Region) :
    (infra.mentionedIn p).between? name x y = infra.between? name x y := by
  unfold Infrastructure.between?
  simp only [Bool.and_assoc]
  exact find?_mentionedIn infra hname _

theorem objectKinds_mentionedIn (hname : p.mentions name = true) :
    (infra.mentionedIn p).objectKinds name = infra.objectKinds name := by
  unfold Infrastructure.objectKinds Infrastructure.mentionedIn
  rw [List.filter_filter]
  refine congrArg (fun items : List Attribute => (items.map Attribute.object).eraseDups) ?_
  refine List.filter_congr fun a _ => ?_
  cases hsame : a.name == name with
  | false => rfl
  | true => rw [beq_iff_eq.mp hsame, hname, Bool.true_and]

/-- A restriction reads attributes of its own property only. -/
theorem satisfies_mentionedIn {restrictions : List Restriction}
    (h : ∀ r ∈ restrictions, p.mentions r.property = true) (subject : Subject) :
    satisfies restrictions subject (infra.mentionedIn p) =
      satisfies restrictions subject infra := by
  unfold satisfies
  rw [Bool.eq_iff_iff, List.all_eq_true, List.all_eq_true]
  refine forall₂_congr fun r hr => ?_
  unfold Restriction.satisfiedBy Infrastructure.propertyOf Infrastructure.value?
  rw [attribute?_mentionedIn infra (h r hr)]

end attributes

theorem mentions_of_mem_restrictions {p : Policy} {kind : CapabilityKind} {r : Restriction}
    (hr : r ∈ p.clusterRestrictions kind ++ p.moduleRestrictions kind
      ++ p.storageRestrictions kind) : p.mentions r.property = true := by
  unfold Policy.clusterRestrictions Policy.moduleRestrictions Policy.storageRestrictions
    Policy.restrictions? at hr
  cases hd : p.decision? kind with
  | none =>
      rw [hd] at hr
      exact absurd hr List.not_mem_nil
  | some d =>
      rw [hd] at hr
      have hentry : (kind, d) ∈ p.decisions.entries := SortedMap.get?_eq_some_iff.mp hd
      unfold Policy.mentions Restrictions.mention
      simp only [Bool.or_eq_true, List.any_eq_true, beq_iff_eq]
      exact .inr ⟨_, hentry, r, hr, rfl⟩

/-! ### Offers and routes -/

section stages
variable (env : Environment) (request : Request)

theorem admitted_relevantTo :
    Offer.admitted (env.relevantTo request) request.policy = Offer.admitted env request.policy := by
  funext o
  unfold Offer.admitted
  exact congrArg (_ && ·)
    (satisfies_mentionedIn env.infrastructure (fun _ hr => mentions_of_mem_restrictions
      (List.mem_append_left _ (List.mem_append_right _ hr))) _)

/-- A module that offers nothing has no part in the list of offers. -/
theorem offers_relevantTo :
    (env.relevantTo request).offers request.policy = env.offers request.policy := by
  unfold Environment.offers Environment.allOffers
  rw [admitted_relevantTo, List.filter_flatMap, List.filter_flatMap]
  change (env.catalog.modules.filter (env.offersModule request.policy)).flatMap _ = _
  rw [flatMap_filter]
  refine List.flatMap_congr fun m _ => ?_
  split
  next => rfl
  next hnone =>
    unfold Environment.offersModule at hnone
    rw [List.any_eq_true] at hnone
    rw [eq_comm, List.filter_eq_nil_iff]
    exact fun o ho hadmitted => hnone ⟨o, ho, hadmitted⟩

theorem routesFor_relevantTo (depth : Nat) :
    (env.relevantTo request).routesFor request depth = env.routesFor request depth := by
  unfold Environment.routesFor
  rw [offers_relevantTo]

/-! ### Placements -/

theorem storageFits_relevantTo (leg : Leg) (later : Route) (applied : List String) :
    (env.relevantTo request).storageFits request leg later applied =
      env.storageFits request leg later applied := by
  funext a
  have hsatisfies : satisfies (request.policy.storageRestrictions leg.kind) a.subject
      (env.infrastructure.mentionedIn request.policy) =
      satisfies (request.policy.storageRestrictions leg.kind) a.subject env.infrastructure :=
    satisfies_mentionedIn _
      (fun _ hr => mentions_of_mem_restrictions (List.mem_append_right _ hr)) _
  unfold Environment.storageFits
  cases request.requiredIn? a.region with
  | none => rfl
  | some required => exact congrArg (· && _) hsatisfies

/-- An account in a region where nothing may be written is no choice. -/
theorem accountChoices_relevantTo (leg : Leg) (later : Route) (applied : List String) :
    (env.relevantTo request).accountChoices request leg later applied =
      env.accountChoices request leg later applied := by
  have hfits : (env.relevantTo request).storageAccounts.filter
      (env.storageFits request leg later applied) =
      env.storageAccounts.filter (env.storageFits request leg later applied) := by
    unfold Environment.relevantTo
    rw [List.filter_filter]
    refine List.filter_congr fun a _ => ?_
    unfold Environment.storageFits
    cases request.requiredIn? a.region with
    | none => rfl
    | some required => rw [Option.isSome_some, Bool.and_true]
  unfold Environment.accountChoices
  rw [storageFits_relevantTo, hfits]

theorem clusterChoices_relevantTo (kind : CapabilityKind) (carriesActions : Bool) :
    (env.relevantTo request).clusterChoices request kind carriesActions =
      env.clusterChoices request kind carriesActions := by
  have hsatisfies : ∀ kind (c : Cluster),
      satisfies (request.policy.clusterRestrictions kind) c.subject
        (env.infrastructure.mentionedIn request.policy) =
      satisfies (request.policy.clusterRestrictions kind) c.subject env.infrastructure :=
    fun kind c => satisfies_mentionedIn _ (fun _ hr => mentions_of_mem_restrictions
      (List.mem_append_left _ (List.mem_append_left _ hr))) _
  unfold Environment.clusterChoices
  refine List.filter_congr fun c _ => ?_
  unfold Environment.clusterFits Environment.relevantTo
  rw [hsatisfies, hsatisfies]

theorem greedyFrom_relevantTo (missing : Option CapabilityKind) (route : Route) (d : Duties) :
    (env.relevantTo request).greedyFrom request missing route d =
      env.greedyFrom request missing route d := by
  induction route generalizing d with
  | nil => rfl
  | cons leg later ih =>
      rw [Environment.greedyFrom, Environment.greedyFrom, accountChoices_relevantTo]
      simp only [clusterChoices_relevantTo, ih]

theorem plansFrom_relevantTo (missing : Option CapabilityKind) (route : Route) (d : Duties)
    (room : Nat) :
    (env.relevantTo request).plansFrom request missing route d room =
      env.plansFrom request missing route d room := by
  induction route generalizing d room with
  | nil => rfl
  | cons leg later ih =>
      rw [Environment.plansFrom, Environment.plansFrom, accountChoices_relevantTo]
      simp only [clusterChoices_relevantTo, ih]

/-! ### Totals -/

section totals
variable (infra : Infrastructure)

theorem goalValue_mentionedIn {p : Policy} {goal : Goal}
    (hgoal : p.mentions goal.attributeName = true) (kinds : List ObjectKind) (plan : Plan) :
    goalValue (infra.mentionedIn p) request goal kinds plan =
      goalValue infra request goal kinds plan := by
  -- an attribute has the same metric, so it contributes the same
  have hcontribution :
      contribution (infra.mentionedIn p) goal.directive = contribution infra goal.directive := rfl
  unfold goalValue touchedAttributes legAttributes
  simp only [attribute?_mentionedIn infra hgoal, between?_mentionedIn infra hgoal, hcontribution]

theorem addGoal_mentionedIn {p : Policy} {goal : Goal}
    (hgoal : p.mentions goal.attributeName = true) (plans : List Plan) (totals : List Float) :
    addGoal (infra.mentionedIn p) request plans totals goal =
      addGoal infra request plans totals goal := by
  have hvalue := goalValue_mentionedIn request infra hgoal (infra.objectKinds goal.attributeName)
  unfold addGoal Goal.counts
  rw [objectKinds_mentionedIn infra hgoal]
  simp only [funext hvalue]

theorem scores_mentionedIn (plans : List Plan) :
    scores (infra.mentionedIn request.policy) request plans request.policy.goals =
      scores infra request plans request.policy.goals := by
  unfold scores
  refine List.foldl_ext _ _ _ fun totals goal hgoal => ?_
  refine addGoal_mentionedIn request infra ?_ plans totals
  unfold Policy.mentions
  rw [Bool.or_eq_true, List.any_eq_true]
  exact .inl ⟨goal, hgoal, beq_self_eq_true _⟩

end totals

/-! ### Answers -/

variable (settings : Settings)

theorem rankedRoutes_relevantTo :
    (env.relevantTo request).rankedRoutes settings request = env.rankedRoutes settings request :=
  congrArg shortestFirst (routesFor_relevantTo env request settings.maxDepth)

theorem greedyChoice_relevantTo :
    (env.relevantTo request).greedyChoice settings request = env.greedyChoice settings request := by
  have hplace : (env.relevantTo request).greedyPlan request = env.greedyPlan request :=
    funext fun route => greedyFrom_relevantTo env request _ route _
  unfold Environment.greedyChoice
  rw [hplace, rankedRoutes_relevantTo]

theorem candidates_relevantTo :
    (env.relevantTo request).candidates settings request = env.candidates settings request := by
  have hplace : (env.relevantTo request).plans request = env.plans request :=
    funext fun route => funext fun limit => plansFrom_relevantTo env request _ route _ _
  unfold Environment.candidates
  rw [hplace, rankedRoutes_relevantTo]

theorem bestChoice_relevantTo :
    (env.relevantTo request).bestChoice settings request = env.bestChoice settings request := by
  have hselect : ∀ plans, selectBest (env.relevantTo request).infrastructure request plans
      request.policy.goals = selectBest env.infrastructure request plans request.policy.goals :=
    fun plans => congrArg best? (scores_mentionedIn request env.infrastructure plans)
  unfold Environment.bestChoice
  simp only [hselect, candidates_relevantTo]

theorem solve_of_relevantTo :
    (env.relevantTo request).solve settings request = env.solve settings request := by
  unfold Environment.solve
  rw [bestChoice_relevantTo, greedyChoice_relevantTo]

end stages

/-- **Irrelevant data have no influence.**  Without the accounts in regions where nothing may be
written, the modules that offer nothing and the attributes that neither a goal nor a restriction
mentions, an environment gives the same answer to a request, be it a plan or a failure; and two
environments of which the same remains give the same answer. -/
theorem solve_relevantTo (env : Environment) (settings : Settings) (request : Request) :
    (env.relevantTo request).solve settings request = env.solve settings request ∧
      ∀ other : Environment, other.relevantTo request = env.relevantTo request →
        other.solve settings request = env.solve settings request := by
  refine ⟨solve_of_relevantTo env request settings, fun other hsame => ?_⟩
  rw [← solve_of_relevantTo other, hsame, solve_of_relevantTo]

namespace Sample

/-- The environment with another closed account, a module that may not be used, and attributes that
nobody asks for. -/
def cluttered : Environment :=
  .ofParts [copier, writer, reader] [dear, cheap]
    [closed, ⟨"shut", none, "mordor", none, none, []⟩, filtered]
    ⟨[⟨"bandwidth", none, none, "9", .cluster, some "dear", []⟩,
      ⟨"cost", none, none, "5", .cluster, some "dear", []⟩,
      ⟨"cost", none, none, "3", .cluster, some "cheap", []⟩,
      ⟨"distance", none, none, "7", .regionPair, none, ["theshire", "neverland"]⟩], []⟩

end Sample

theorem sample_relevantTo :
    Sample.cluttered.relevantTo Sample.governed = Sample.environment.relevantTo Sample.governed ∧
      Sample.cluttered.solve ⟨4, false, 1⟩ Sample.governed =
        .ok (Sample.planIn Sample.dear Sample.cheap) := by
  have hsame : Sample.cluttered.relevantTo Sample.governed =
      Sample.environment.relevantTo Sample.governed := rfl
  refine ⟨hsame, ?_⟩
  rw [(solve_relevantTo Sample.environment ⟨4, false, 1⟩ Sample.governed).2 _ hsame]
  exact Sample.solve_governed

end DataRoute
