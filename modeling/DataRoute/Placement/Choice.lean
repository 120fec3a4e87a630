import DataRoute.Placement

/-! # Choices of accounts and clusters

What a placement is, said without a search. For each leg of a route there is one choice of an
account, or of none, and of a cluster. `carryOut` gives the plan that a list of choices leads to,
whether or not it is permitted, and `isPlacement` says when it is. `allPlacements` lists the plans
of all permitted choices in the order of the registry, by accounts before clusters and by earlier
legs before later ones. -/

namespace DataRoute

/-- The choice of an account, or of none, and of a cluster for one leg. -/
structure Choice where
  account : Option StorageAccount
  cluster : Cluster

/-- Every list of choices for a route, in the order of the registry. -/
def Environment.allChoices (env : Environment) : Route → List (List Choice)
  | [] => [[]]
  | _ :: later =>
    (none :: env.storageAccounts.map some).flatMap fun account =>
      env.clusters.flatMap fun cluster =>
        (allChoices env later).map fun choices => ⟨account, cluster⟩ :: choices

/-- The plan that a list of choices leads to: at each leg, what the account's region requires is
added to the duties and the leg applies what it can. -/
def carryOut (request : Request) : Duties → Route → List Choice → Plan
  | duties, leg :: later, choice :: choices =>
    let due := duties.require (request.requiredBy choice.account)
    ⟨leg, due.assigned leg, choice.cluster, choice.account⟩
      :: carryOut request (due.after leg) later choices
  | _, _, _ => []

/-- The duties that are left when a list of choices has been carried out. -/
def dutiesAfter (request : Request) : Duties → Route → List Choice → Duties
  | duties, leg :: later, choice :: choices =>
    let due := duties.require (request.requiredBy choice.account)
    dutiesAfter request (due.after leg) later choices
  | duties, _, _ => duties

/-- Whether an account may take the data of legs of a kind: writing in its region is permitted,
and it meets the restrictions. -/
def Environment.permitsAccount (env : Environment) (request : Request) (kind : CapabilityKind)
    (account : StorageAccount) : Bool :=
  (request.requiredIn? account.region).isSome &&
    satisfies (request.policy.storageRestrictions kind) account.subject env.infrastructure

/-- Whether the account and the cluster of a placed leg are permitted; `later` is the rest of the
route. -/
def Environment.permitsLeg (env : Environment) (request : Request) (l : PlacedLeg)
    (later : Route) : Bool :=
  (l.account.isSome == needsStorage request l.leg later) &&
    l.account.all (env.permitsAccount request l.leg.kind) &&
    env.clusterFits request l.leg.kind (!l.actions.isEmpty) l.cluster

/-- Whether the accounts and clusters of every leg of a plan are permitted. -/
def Environment.permitsLegs (env : Environment) (request : Request) : Plan → Bool
  | [] => true
  | l :: later => env.permitsLeg request l (later.map PlacedLeg.leg) &&
      permitsLegs env request later

/-- Whether every required kind is the kind of some leg. -/
def coversRequired (request : Request) (route : Route) : Bool :=
  request.policy.requiredKinds.all fun kind => route.any fun l => l.kind == kind

/-- Whether a list of choices places a route: each leg is permitted, no action is left over, and
every required kind is there. -/
def Environment.isPlacement (env : Environment) (request : Request) (route : Route)
    (choices : List Choice) : Bool :=
  env.permitsLegs request (carryOut request (.initial request) route choices) &&
    (dutiesAfter request (.initial request) route choices).pending.isEmpty &&
    coversRequired request route

/-- The plans of all permitted choices, in the order of the registry. -/
def Environment.allPlacements (env : Environment) (request : Request) (route : Route) :
    List Plan :=
  ((env.allChoices route).filter (env.isPlacement request route)).map
    (carryOut request (.initial request) route)

end DataRoute
