import DataRoute.Route

/-! # Placing routes

A plan places every leg of a route: on a cluster, with a storage account for the data it leaves
in a store, and with the governance actions it applies. Walking the route from its source,
`Duties` are the actions that are still to be applied and the names of those that have been; each
action is applied by the first leg that can. `greedyPlan` takes the first account and the first
cluster that fit each leg, and `plans` lists every choice up to a limit, in the order of the
registry. When there is none, the first reason met is reported. -/

namespace DataRoute

/-! ### Plans -/

/-- A leg with the actions it applies, the cluster it runs on and the account it writes to. -/
structure PlacedLeg where
  leg : Leg
  actions : List Action
  cluster : Cluster
  account : Option StorageAccount

/-- A placed route. -/
abbrev Plan := List PlacedLeg

/-- Why a route cannot be placed. -/
inductive Rejection where
  | noStorageAccount (kind : CapabilityKind)
  | noCluster (kind : CapabilityKind)
  | unsupportedActions (names : List String)
  | missingCapability (kind : CapabilityKind)
deriving DecidableEq, Repr

namespace Plan

/-- The names of the clusters, leg by leg. -/
def clusterNames (p : Plan) : List String := p.map fun l => l.cluster.name

/-- The names of the accounts along a plan. -/
def accountNames (p : Plan) : List String :=
  (p.filterMap PlacedLeg.account).map StorageAccount.name

/-- The legs of a plan with their clusters. -/
def text (p : Plan) : String :=
  " | ".intercalate (p.map fun l => l.leg.text ++ "@" ++ l.cluster.name)

end Plan

def PlacedLeg.encode (l : PlacedLeg) : Json :=
  .object (l.leg.members ++ [("actions", .array (l.actions.map Action.encode)),
      ("cluster", l.cluster.encode)]
    ++ Json.optionalMember "storageAccount" (l.account.map StorageAccount.encode))

def Plan.encode (p : Plan) : Json := .object [("dataPath", .array (p.map PlacedLeg.encode))]

/-! ### Duties along a route -/

/-- The actions that are still to be applied, and the names of those that have been. -/
structure Duties where
  pending : List Action
  applied : List String

namespace Duties

/-- The duties at the source of a request's routes. -/
def initial (request : Request) : Duties := ⟨request.actions, []⟩

/-- Whether an action of this name is pending or has been applied. -/
def knows (d : Duties) (name : String) : Bool :=
  d.applied.contains name || d.pending.any fun a => a.name == name

/-- Adds an action unless it is known. -/
def add (d : Duties) (a : Action) : Duties :=
  if d.knows a.name then d else { d with pending := d.pending ++ [a] }

/-- The duties after an account has been chosen: what its region requires is added. -/
def require (d : Duties) (required : List Action) : Duties := required.foldl add d

/-- The pending actions that a leg applies. -/
def assigned (d : Duties) (leg : Leg) : List Action :=
  d.pending.filter fun a => leg.capability.supportsAction a.name

/-- The duties after a leg. -/
def after (d : Duties) (leg : Leg) : Duties :=
  ⟨d.pending.filter fun a => !leg.capability.supportsAction a.name,
    d.applied ++ actionNames (d.assigned leg)⟩

end Duties

/-! ### Candidates -/

/-- Whether a leg leaves data in a store that has to be found: its sink is a store, and it is not
the last leg of a route that ends where the asset is stored already. -/
def needsStorage (request : Request) (leg : Leg) (later : Route) : Bool :=
  !leg.sink.isApi && !(later.isEmpty && request.endsAtExistingAsset)

/-- Whether an account can take the data of a leg: writing in its region is permitted, it meets
the restrictions, and each action its region requires has been applied or is supported by this
leg or a later one. -/
def Environment.storageFits (env : Environment) (request : Request) (leg : Leg) (later : Route)
    (applied : List String) (account : StorageAccount) : Bool :=
  match request.requiredIn? account.region with
  | none => false
  | some required =>
    satisfies (request.policy.storageRestrictions leg.kind) account.subject env.infrastructure
      && required.all fun a => applied.contains a.name ||
        (leg :: later).any fun l => l.capability.supportsAction a.name

/-- The accounts that a leg may use; a leg that needs none has the one choice of none. -/
def Environment.accountChoices (env : Environment) (request : Request) (leg : Leg)
    (later : Route) (applied : List String) : List (Option StorageAccount) :=
  if needsStorage request leg later then
    (env.storageAccounts.filter (env.storageFits request leg later applied)).map some
  else [none]

/-- Whether a cluster can run a leg of a kind; a leg that applies actions has to meet the
restrictions on transforming too. -/
def Environment.clusterFits (env : Environment) (request : Request) (kind : CapabilityKind)
    (carriesActions : Bool) (cluster : Cluster) : Bool :=
  satisfies (request.policy.clusterRestrictions kind) cluster.subject env.infrastructure
    && (!carriesActions ||
      satisfies (request.policy.clusterRestrictions .transform) cluster.subject
        env.infrastructure)

/-- The clusters that can run a leg of a kind. -/
def Environment.clusterChoices (env : Environment) (request : Request) (kind : CapabilityKind)
    (carriesActions : Bool) : List Cluster :=
  env.clusters.filter (env.clusterFits request kind carriesActions)

/-- The actions that a choice of account adds. -/
def Request.requiredBy (request : Request) (account : Option StorageAccount) : List Action :=
  match account with
  | some a => (request.requiredIn? a.region).getD []
  | none => []

/-- The first required kind that no leg of a route has. -/
def missingKind? (request : Request) (route : Route) : Option CapabilityKind :=
  request.policy.requiredKinds.find? fun kind => !route.any fun l => l.kind == kind

/-- What is wrong at the end of a route: actions that are still pending, or a required kind that
is missing. -/
def settle (missing : Option CapabilityKind) (duties : Duties) : Except Rejection Unit :=
  if duties.pending.isEmpty then
    match missing with
    | some kind => .error (.missingCapability kind)
    | none => .ok ()
  else .error (.unsupportedActions (actionNames duties.pending))

/-! ### Greedy placement -/

/-- The first of a list of choices, or the reason why there is none. -/
def firstChoice {α : Type} (choices : List α) (otherwise : Rejection) : Except Rejection α :=
  match choices with
  | [] => .error otherwise
  | a :: _ => .ok a

/-- Places the legs of a route one after the other, each with its first choices. -/
def Environment.greedyFrom (env : Environment) (request : Request)
    (missing : Option CapabilityKind) : Route → Duties → Except Rejection Plan
  | [], duties => do
    settle missing duties
    return []
  | leg :: later, duties => do
    let account ← firstChoice (env.accountChoices request leg later duties.applied)
      (.noStorageAccount leg.kind)
    let due := duties.require (request.requiredBy account)
    let actions := due.assigned leg
    let cluster ← firstChoice (env.clusterChoices request leg.kind (!actions.isEmpty))
      (.noCluster leg.kind)
    let rest ← greedyFrom env request missing later (due.after leg)
    return ⟨leg, actions, cluster, account⟩ :: rest

/-- The plan with the first choices all along a route. -/
def Environment.greedyPlan (env : Environment) (request : Request) (route : Route) :
    Except Rejection Plan :=
  env.greedyFrom request (missingKind? request route) route (.initial request)

/-! ### All placements -/

/-- Tries choices in order until there is no more room for results. What is found for the choices
is joined; if there is nothing for any of them, the first reason counts. -/
def tryEach {α β ε : Type} (explore : α → Nat → Except ε (List β)) (otherwise : ε) :
    List α → Nat → Except ε (List β)
  | [], _ => .error otherwise
  | a :: rest, room =>
    match explore a room with
    | .error reason =>
      match tryEach explore otherwise rest room with
      | .ok found => .ok found
      | .error _ => .error reason
    | .ok found =>
      if room ≤ found.length then .ok found
      else match tryEach explore otherwise rest (room - found.length) with
        | .ok more => .ok (found ++ more)
        | .error _ => .ok found

/-- The placements of the legs of a route, at most as many as there is room for. -/
def Environment.plansFrom (env : Environment) (request : Request)
    (missing : Option CapabilityKind) : Route → Duties → Nat → Except Rejection (List Plan)
  | [], duties, _ => do
    settle missing duties
    return [[]]
  | leg :: later, duties, room =>
    tryEach (fun account room =>
        let due := duties.require (request.requiredBy account)
        let actions := due.assigned leg
        tryEach (fun cluster room => do
            let rests ← plansFrom env request missing later (due.after leg) room
            return rests.map fun rest => ⟨leg, actions, cluster, account⟩ :: rest)
          (.noCluster leg.kind) (env.clusterChoices request leg.kind (!actions.isEmpty)) room)
      (.noStorageAccount leg.kind) (env.accountChoices request leg later duties.applied) room

/-- The placements of a route, at most `limit` of them and at least one. -/
def Environment.plans (env : Environment) (request : Request) (route : Route) (limit : Nat) :
    Except Rejection (List Plan) :=
  env.plansFrom request (missingKind? request route) route (.initial request) (max limit 1)

end DataRoute
