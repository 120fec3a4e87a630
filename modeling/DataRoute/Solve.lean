import DataRoute.Score
import DataRoute.Settings

/-! # Solving requests

The plan for a request is chosen among the placements of its routes. Without goals, or when plans
are not to be compared, it is the greedy plan of the first route that has one, shorter routes
before longer ones. Otherwise the plans of the shortest routes that can be placed are compared and
the best is taken. -/

namespace DataRoute

/-! ### Failures -/

/-- Why there is no plan for a dataset. -/
inductive Failure where
  | noRoute (source destination : Endpoint)
  | rejected (reason : Rejection)
  | deadlineExceeded
deriving DecidableEq, Repr

namespace Failure

/-- The failure when no route serves a request. -/
def noRouteFor (request : Request) : Failure := noRoute request.source request.destination

/-- Whether a failure means that there is no plan, and not that none was looked for. -/
def isNoPlan : Failure → Bool
  | deadlineExceeded => false
  | _ => true

/-- The quoted names of a list of actions. -/
def actionList (names : List String) : String :=
  "[" ++ ", ".intercalate (names.map fun n => "ActionName(" ++ Text.quote n ++ ")") ++ "]"

/-- What keeps a route from being placed. -/
def reasonText : Rejection → String
  | .noStorageAccount kind => "no storage account satisfies " ++ kind.name ++ " restrictions"
  | .noCluster kind => "no cluster satisfies " ++ kind.name ++ " restrictions"
  | .unsupportedActions names => "unsupported governance actions " ++ actionList names
  | .missingCapability kind => "required capability " ++ kind.name ++ " is not deployed"

/-- The text of a failure for a dataset. -/
def message (datasetId : String) : Failure → String
  | noRoute source destination =>
    "no data path could be constructed for " ++ datasetId ++ ": no modules connect "
      ++ source.text ++ " to " ++ destination.text
  | rejected reason =>
    "no data path could be constructed for " ++ datasetId ++ ": " ++ reasonText reason
  | deadlineExceeded => "deadline exceeded before solving " ++ datasetId

end Failure

/-! ### The search -/

/-- Routes by length, those of one length in their order. -/
def shortestFirst (routes : List Route) : List Route :=
  routes.mergeSort fun a b => a.length ≤ b.length

/-- The first plan over a list of routes, or the first reason why there is none. -/
def firstPlan (place : Route → Except Rejection Plan) (otherwise : Failure) :
    List Route → Except Failure Plan
  | [] => .error otherwise
  | route :: rest =>
    match place route with
    | .ok plan => .ok plan
    | .error reason =>
      match firstPlan place otherwise rest with
      | .ok plan => .ok plan
      | .error _ => .error (.rejected reason)

/-- What a search for the plans to compare has gathered: plans, and the first reason why a route
has none. -/
structure Gathered where
  plans : List Plan
  reason : Option Rejection

namespace Gathered

/-- Whether a route is left out, and those after it: it is longer than the plans that there are,
or there are as many as are wanted. -/
def isEnough (g : Gathered) (limit : Nat) (route : Route) : Bool :=
  g.plans.getLast?.any (fun plan => plan.length < route.length) || limit - g.plans.length == 0

/-- Takes in the plans of a route, or the reason why it has none. -/
def add (g : Gathered) : Except Rejection (List Plan) → Gathered
  | .ok plans => { g with plans := g.plans ++ plans }
  | .error reason => { g with reason := g.reason.or (some reason) }

/-- The plans to compare, or why there are none. -/
def result (g : Gathered) (otherwise : Failure) : Except Failure (List Plan) :=
  if g.plans.isEmpty then .error ((g.reason.map Failure.rejected).getD otherwise)
  else .ok g.plans

end Gathered

/-- Gathers the plans of a list of routes, shorter ones first, until there are enough. -/
def gather (place : Route → Nat → Except Rejection (List Plan)) (limit : Nat) :
    Gathered → List Route → Gathered
  | g, [] => g
  | g, route :: rest =>
    if g.isEnough limit route then g
    else gather place limit (g.add (place route (limit - g.plans.length))) rest

/-- Whether the plans for a request are compared: that is asked for, and there are goals. -/
def Settings.comparesPlans (settings : Settings) (request : Request) : Bool :=
  settings.optimize && !request.policy.goals.isEmpty

namespace Environment

variable (env : Environment)

/-- The routes for a request, shorter ones first. -/
def rankedRoutes (settings : Settings) (request : Request) : List Route :=
  shortestFirst (env.routesFor request settings.maxDepth)

/-- The greedy plan of the first route that has one. -/
def greedyChoice (settings : Settings) (request : Request) : Except Failure Plan :=
  firstPlan (env.greedyPlan request) (.noRouteFor request) (env.rankedRoutes settings request)

/-- The plans that are compared for a request: those of the shortest routes that have any. -/
def candidates (settings : Settings) (request : Request) : Except Failure (List Plan) :=
  (gather (env.plans request) settings.maxCandidates ⟨[], none⟩
    (env.rankedRoutes settings request)).result (.noRouteFor request)

/-- The best of the plans that are compared. -/
def bestChoice (settings : Settings) (request : Request) : Except Failure Plan := do
  let plans ← env.candidates settings request
  match plans[(selectBest env.infrastructure request plans request.policy.goals).getD 0]? with
  | some plan => return plan
  | none => throw (.noRouteFor request)

/-- The plan for a request. -/
def solve (settings : Settings) (request : Request) : Except Failure Plan :=
  if settings.comparesPlans request then env.bestChoice settings request
  else env.greedyChoice settings request

/-- What became of one dataset. -/
structure Outcome where
  datasetId : String
  result : Except Failure Plan

/-- What becomes of one request; no plan is looked for once the deadline has passed. -/
def attempt (settings : Settings) (expired : Bool) (request : Request) : Outcome :=
  ⟨request.datasetId, if expired then .error .deadlineExceeded else env.solve settings request⟩

/-- What becomes of a list of requests, each on its own. The clock is read before each of them, and
shows `clock i` before the one at position `i`. -/
def solveInTime (settings : Settings) (deadline : Option Nat) (clock : Nat → Nat)
    (requests : List Request) : List Outcome :=
  requests.mapIdx fun i request => env.attempt settings (deadline.any (· ≤ clock i)) request

/-- What becomes of a list of requests whose deadline passes before the first or after the last. -/
def solveAll (settings : Settings) (expired : Bool) (requests : List Request) : List Outcome :=
  env.solveInTime settings (if expired then some 0 else none) (fun _ => 0) requests

end Environment

end DataRoute
