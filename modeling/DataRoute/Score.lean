import DataRoute.Neighbours
import DataRoute.Placement

/-! # Scores

Plans are compared by weighted goals. For each goal, every object that a plan touches contributes
the value of the goal's attribute: on the scale of its metric if there is one, and turned round if
low values are wanted, so that more is better. A plan that touches an object without a value gets
the least value of its rivals. `selectBest` is the position of the best plan; of equals the
earliest wins. -/

namespace DataRoute

variable (infra : Infrastructure) (request : Request)

/-! ### The regions of a plan -/

/-- The regions that data pass through: where the dataset is, the cluster and the account of each
leg, and for a read where the workload runs. -/
def itinerary (plan : Plan) : List Region :=
  request.asset.geography.toList
    ++ plan.flatMap (fun l => l.cluster.region :: (l.account.map StorageAccount.region).toList)
    ++ if request.flow == .read then (request.workloadCluster.map Cluster.region).toList else []

/-- The pairs of regions between which data move; what stays in a region makes no hop. -/
def hops (plan : Plan) : List (Region × Region) :=
  neighbours (withoutRuns (itinerary request plan))

/-! ### Values -/

/-- What one object contributes; more is better for either directive. -/
def contribution (directive : Directive) (a : Attribute) : Option Float := do
  let value ← a.numeric
  return match infra.normalized a, directive with
    | some x, .minimize => 1.0 - x
    | some x, .maximize => x
    | none, .minimize => -value
    | none, .maximize => value

/-- The attributes of a goal on what a leg touches, as far as the attribute is given for that
kind of object. -/
def legAttributes (name : String) (kinds : List ObjectKind) (l : PlacedLeg) :
    List (Option Attribute) :=
  (if kinds.contains .cluster then [infra.attribute? name .cluster l.cluster.name] else [])
    ++ (if kinds.contains .module then [infra.attribute? name .module l.leg.offer.module.name]
      else [])
    ++ (if kinds.contains .storageAccount then
        (l.account.map fun a => infra.attribute? name .storageAccount a.name).toList
      else [])

/-- The attributes of a goal on everything that a plan touches. -/
def touchedAttributes (name : String) (kinds : List ObjectKind) (plan : Plan) :
    List (Option Attribute) :=
  plan.flatMap (legAttributes infra name kinds)
    ++ if kinds.contains .regionPair then
        (hops request plan).map fun (x, y) => infra.between? name x y
      else []

/-- The sum of a list of contributions, from the left; `none` if one is missing. -/
def sumAll : Float → List (Option Float) → Option Float
  | total, [] => some total
  | _, none :: _ => none
  | total, some x :: rest => sumAll (total + x) rest

/-- The value of a plan for a goal: the sum over everything it touches. -/
def goalValue (goal : Goal) (kinds : List ObjectKind) (plan : Plan) : Option Float :=
  sumAll 0.0 ((touchedAttributes infra request goal.attributeName kinds plan).map fun a =>
    a.bind (contribution infra goal.directive))

/-! ### Totals -/

/-- The lesser of two values; what is no number is passed over. -/
def lesser (x y : Float) : Float :=
  if x.isNaN then y else if y.isNaN then x else if y < x then y else x

/-- The least of a list of values. -/
def least? : List Float → Option Float
  | [] => none
  | x :: rest => some (rest.foldl lesser x)

/-- Whether a goal counts: its weight lies between zero and one, and its attribute is given for
some kind of object. -/
def Goal.counts (goal : Goal) : Bool :=
  0.0 ≤ goal.weight && goal.weight ≤ 1.0 && !(infra.objectKinds goal.attributeName).isEmpty

/-- Adds the values for one goal to the totals; a plan without a value gets the least one. -/
def addGoalValues (goal : Goal) (values : List (Option Float)) (totals : List Float) :
    List Float :=
  match least? (values.filterMap id) with
  | none => totals
  | some worst => List.zipWith (fun total v => total + goal.weight * v.getD worst) totals values

/-- Adds one goal to the totals of a list of plans. -/
def addGoal (plans : List Plan) (totals : List Float) (goal : Goal) : List Float :=
  if goal.counts infra then
    let kinds := infra.objectKinds goal.attributeName
    addGoalValues goal (plans.map (goalValue infra request goal kinds)) totals
  else totals

/-- The total of each plan over a list of goals. -/
def scores (plans : List Plan) (goals : List Goal) : List Float :=
  goals.foldl (addGoal infra request plans) (plans.map fun _ => 0.0)

/-! ### Selection -/

/-- The position of the greatest value after a best one so far; a value replaces it unless it is
at most as great. -/
def bestFrom (best : Nat) (top : Float) : Nat → List Float → Nat
  | _, [] => best
  | n, x :: rest => if x ≤ top then bestFrom best top (n + 1) rest else bestFrom n x (n + 1) rest

/-- The position of the greatest value, of equals the earliest. -/
def best? : List Float → Option Nat
  | [] => none
  | x :: rest => some (bestFrom 0 x 1 rest)

/-- The position of the best plan. -/
def selectBest (plans : List Plan) (goals : List Goal) : Option Nat :=
  best? (scores infra request plans goals)

end DataRoute
