import DataRoute.Environment
import DataRoute.Request

/-! # Routes

A route is a chain of legs from a source to a destination; each leg is one use of a capability of
a module. `offers` lists the capabilities that a policy admits, and `findRoutes` the routes over
them. The search runs backwards from the destination: a leg that reaches it either picks up at the
source, or is reached in turn by shorter routes to one of its own source interfaces. -/

namespace DataRoute

/-! ### Offers -/

/-- One capability of one module. -/
structure Offer where
  module : Module
  position : Fin module.capabilities.length

namespace Offer

def capability (o : Offer) : Capability := o.module.capabilities.get o.position

def kind (o : Offer) : CapabilityKind := o.capability.kind

/-- Every capability of a module, in order. -/
def ofModule (m : Module) : List Offer :=
  (List.finRange m.capabilities.length).map fun position => ⟨m, position⟩

/-- Whether a policy admits an offer: its kind is not forbidden and its module meets the
restrictions for that kind. -/
def admitted (env : Environment) (policy : Policy) (o : Offer) : Bool :=
  policy.deploy o.kind != .forbidden &&
    satisfies (policy.moduleRestrictions o.kind) (o.module.subject o.capability)
      env.infrastructure

end Offer

/-- Every capability of every module of an environment, in the order of the registry. -/
def Environment.allOffers (env : Environment) : List Offer :=
  env.catalog.modules.flatMap Offer.ofModule

/-- The capabilities that a policy admits, in the order of the registry. -/
def Environment.offers (env : Environment) (policy : Policy) : List Offer :=
  env.allOffers.filter (Offer.admitted env policy)

/-! ### Legs and routes -/

/-- One use of a capability: where it picks data up and where it delivers them. -/
structure Leg where
  offer : Offer
  source : Endpoint
  sink : Endpoint

namespace Leg

def capability (l : Leg) : Capability := l.offer.capability

def kind (l : Leg) : CapabilityKind := l.offer.kind

/-- The module, the kind and the two endpoints of a leg. -/
def text (l : Leg) : String :=
  l.offer.module.name ++ "[" ++ l.kind.name ++ "] " ++ l.source.text ++ " -> " ++ l.sink.text

def members (l : Leg) : Json.Members :=
  [("source", l.source.encode), ("sink", l.sink.encode), ("module", .text l.offer.module.name),
    ("capabilityIndex", .int l.offer.position.val)]

def encode (l : Leg) : Json := .object l.members

end Leg

/-- A chain of legs, from the source on. -/
abbrev Route := List Leg

/-! ### Search -/

/-- The routes of at most `depth` legs from a source to a destination over a list of offers.
Offers are taken in order, and for each one the direct leg comes before the longer routes that
end with it. -/
def findRoutes (offers : List Offer) (source : Endpoint) : Nat → Endpoint → List Route
  | 0, _ => []
  | depth + 1, destination =>
    offers.flatMap fun offer =>
      (offer.capability.sinksTowards destination).flatMap fun sink =>
        (if offer.capability.supportsSource source then [[Leg.mk offer source sink]] else [])
          ++ offer.capability.sourceInterfaces.flatMap fun interface =>
            (findRoutes offers source depth (.store interface)).map fun before =>
              before ++ [Leg.mk offer (.store interface) sink]

/-- The routes that a policy admits for a request. -/
def Environment.routesFor (env : Environment) (request : Request) (depth : Nat) : List Route :=
  findRoutes (env.offers request.policy) request.source depth request.destination

end DataRoute
