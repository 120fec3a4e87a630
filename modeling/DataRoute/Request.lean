import DataRoute.Policy

/-! # Requests

A request says where a dataset is, what a workload does with it and through which interface, the
governance actions that have to be applied on the way, and where data may be written, with the
actions that writing there requires. `Request.source` and `Request.destination` are the ends of
the routes that serve it. -/

namespace DataRoute

/-- What a workload does with a dataset. -/
inductive Flow where
  | read
  | write
  | copy
deriving DecidableEq, Repr

namespace Flow

def name : Flow → String
  | read => "read"
  | write => "write"
  | copy => "copy"

def variants : List (String × Flow) := [read, write, copy].map fun f => (f.name, f)

def decode : Decoder Flow := Json.asVariant variants

end Flow

/-- How and where a dataset is stored. -/
structure Asset where
  interface : Interface
  geography : Option Region
deriving DecidableEq, Repr

/-- Everything that is asked about one dataset. -/
structure Request where
  datasetId : String
  flow : Flow
  asset : Asset
  /-- The interface of the workload, or the destination of a copy. -/
  requested : Interface
  /-- Whether a write creates the asset. -/
  newAsset : Bool
  actions : List Action
  policy : Policy
  workloadCluster : Option Cluster
  /-- The regions where data may be written, with the actions that each requires. -/
  storageRequirements : SortedMap Region (List Action)

namespace Request

/-- Where routes for a request begin. -/
def source (r : Request) : Endpoint :=
  match r.flow with
  | .read => .store r.asset.interface
  | .write => .api r.requested
  | .copy => .store r.asset.interface

/-- Where routes for a request end. -/
def destination (r : Request) : Endpoint :=
  match r.flow with
  | .read => .api r.requested
  | .write => .store r.asset.interface
  | .copy => .store r.requested

/-- Whether a route ends where the asset is stored already, so that no storage has to be found
for its last leg. -/
def endsAtExistingAsset (r : Request) : Bool := r.flow == .write && !r.newAsset

/-- The actions that writing in a region requires; `none` where nothing may be written. -/
def requiredIn? (r : Request) (region : Region) : Option (List Action) :=
  r.storageRequirements.get? region

end Request

/-! ### JSON -/

def Asset.decode : Decoder Asset := Json.asRecord ⟨"DataDetails", 2⟩ fun fields =>
  Asset.mk <$> fields.required 0 "interface" Interface.decode
    <*> fields.optional 1 "geography" Json.asText

def Asset.encode (a : Asset) : Json :=
  .object (("interface", a.interface.encode)
    :: Json.optionalMember "geography" (a.geography.map .text))

def Request.decode : Decoder Request := Json.asRecord ⟨"DataInfo", 9⟩ fun fields =>
  Request.mk <$> fields.required 0 "datasetId" Json.asText
    <*> fields.withDefault 1 "flow" .read Flow.decode
    <*> fields.required 2 "details" Asset.decode
    <*> fields.required 3 "requestedInterface" Interface.decode
    <*> fields.withDefault 4 "newAsset" false Json.asBool
    <*> fields.withDefault 5 "actions" [] (Json.asList Action.decode)
    <*> fields.withDefault 6 "configuration" .empty Policy.decode
    <*> fields.optional 7 "workloadCluster" Cluster.decode
    <*> fields.withDefault 8 "storageRequirements" .empty
      (Json.asSortedMap id (Json.asList Action.decode))

def Request.encode (r : Request) : Json :=
  .object ([("datasetId", .text r.datasetId), ("flow", .text r.flow.name),
      ("details", r.asset.encode), ("requestedInterface", r.requested.encode),
      ("newAsset", .bool r.newAsset), ("actions", .array (r.actions.map Action.encode)),
      ("configuration", r.policy.encode)]
    ++ Json.optionalMember "workloadCluster" (r.workloadCluster.map Cluster.encode)
    ++ [("storageRequirements",
      r.storageRequirements.encode id fun actions => .array (actions.map Action.encode))])

end DataRoute
