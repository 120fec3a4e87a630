import DataRoute.Interface

/-! # Modules and their capabilities

A module is a deployable unit with a list of capabilities. A capability is one thing a module can
do with data: its kind, the level at which it is deployed, the pairs of interfaces it reads from
and writes to, the interface it offers to workloads, and the governance actions it can apply. -/

namespace DataRoute

/-! ### Kinds -/

/-- What a capability does with data. A kind that has no constructor of its own keeps its name. -/
inductive CapabilityKind where
  | read
  | write
  | copy
  | transform
  | delete
  | other (name : String)
deriving DecidableEq, Repr

namespace CapabilityKind

/-- The kinds with a constructor of their own, in their order. -/
def registered : List CapabilityKind := [read, write, copy, transform, delete]

def name : CapabilityKind → String
  | read => "read"
  | write => "write"
  | copy => "copy"
  | transform => "transform"
  | delete => "delete"
  | other n => n

def ofName (n : String) : CapabilityKind :=
  (registered.find? fun k => k.name == n).getD (other n)

@[simp] theorem name_ofName (n : String) : (ofName n).name = n := by
  unfold ofName
  cases h : registered.find? fun k => k.name == n with
  | none => rfl
  | some k => simpa using List.find?_some h

/-- The place of a kind among the registered ones; the others come after them. -/
def rank : CapabilityKind → Nat
  | read => 0
  | write => 1
  | copy => 2
  | transform => 3
  | delete => 4
  | other _ => 5

end CapabilityKind

/-- The level at which a capability is deployed. -/
inductive CapabilityScope where
  | asset
  | workload
  | cluster
  | other (name : String)
deriving DecidableEq, Repr

namespace CapabilityScope

def name : CapabilityScope → String
  | asset => "asset"
  | workload => "workload"
  | cluster => "cluster"
  | other n => n

def ofName (n : String) : CapabilityScope :=
  if n = "asset" then asset
  else if n = "workload" then workload
  else if n = "cluster" then cluster
  else other n

def isOther : CapabilityScope → Bool
  | other _ => true
  | _ => false

@[simp] theorem name_ofName (n : String) : (ofName n).name = n := by
  unfold ofName
  split
  · subst n; rfl
  · split
    · subst n; rfl
    · split
      · subst n; rfl
      · rfl

end CapabilityScope

/-! ### Actions -/

/-- A governance action: what it is called, and its arguments, which are carried along. Actions
are compared by name only. -/
structure Action where
  name : String
  arguments : Json.Members
deriving Repr

/-- The names of a list of actions. -/
def actionNames (actions : List Action) : List String := actions.map Action.name

/-! ### Capabilities -/

/-- One pair of interfaces that a capability connects. -/
structure Passage where
  source : Option Interface
  sink : Option Interface
deriving DecidableEq, Repr

/-- The interface that a capability offers to workloads. -/
structure ServedApi where
  interface : Interface
  address : Option String
deriving DecidableEq, Repr

/-- One thing a module can do with data. -/
structure Capability where
  kind : CapabilityKind
  scope : CapabilityScope
  passages : List Passage
  api : Option ServedApi
  actions : List Action
deriving Repr

namespace Capability

/-- Whether a capability can apply an action of this name. -/
def supportsAction (c : Capability) (name : String) : Bool := c.actions.any fun a => a.name == name

def declaredSources (c : Capability) : List Interface := c.passages.filterMap Passage.source

def declaredSinks (c : Capability) : List Interface := c.passages.filterMap Passage.sink

/-- The declared source interfaces, each once, in the order of declaration. -/
def sourceInterfaces (c : Capability) : List Interface := c.declaredSources.eraseDups

/-- Whether the api of a capability matches an interface. -/
def servesApi (c : Capability) (i : Interface) : Bool :=
  match c.api with
  | some api => api.interface.compatible i
  | none => false

/-- Whether a capability can deliver to an endpoint: a store matches a declared sink, an api the
api of the capability. -/
def supportsSink (c : Capability) : Endpoint → Bool
  | .store i => c.declaredSinks.any fun sink => sink.compatible i
  | .api i => c.servesApi i

/-- Whether a capability can pick up from an endpoint. -/
def supportsSource (c : Capability) : Endpoint → Bool
  | .store i => c.declaredSources.any fun source => source.compatible i
  | .api i => c.servesApi i

/-- The endpoints through which a capability can reach a destination: the destination itself if
it supports it, and each declared sink if the destination stands for any store. -/
def sinksTowards (c : Capability) (destination : Endpoint) : List Endpoint :=
  if destination.isWildcard then c.declaredSinks.eraseDups.map .store
  else if c.supportsSink destination then [destination]
  else []

end Capability

/-- A deployable unit. -/
structure Module where
  name : String
  version : Option String
  capabilities : List Capability
  labels : Json.Members
deriving Repr

/-! ### JSON -/

def CapabilityKind.decode : Decoder CapabilityKind := fun v => CapabilityKind.ofName <$> v.asText

def CapabilityScope.decode : Decoder CapabilityScope := fun v =>
  CapabilityScope.ofName <$> v.asText

/-- Reads an action; every member other than its name is an argument. -/
def Action.decode : Decoder Action := Json.asOpenRecord "Action" fun members =>
  ((fun name => Action.mk name (members.without ["name"]))
    <$> (Json.Fields.named members).required 0 "name" Json.asText : Json.Part Action).result

def Action.encode (a : Action) : Json := .object (("name", .text a.name) :: a.arguments)

def Passage.decode : Decoder Passage := Json.asRecord ⟨"ModuleInOut", 2⟩ fun fields =>
  Passage.mk <$> fields.optional 0 "source" Interface.decode
    <*> fields.optional 1 "sink" Interface.decode

def Passage.encode (p : Passage) : Json :=
  .object (Json.optionalMember "source" (p.source.map Interface.encode)
    ++ Json.optionalMember "sink" (p.sink.map Interface.encode))

/-- Reads a served api: its address, and then the interface from the other members. -/
def ServedApi.decode : Decoder ServedApi := Json.asOpenRecord "ModuleApi" fun members => do
  let address ← ((Json.Fields.named members).optional 1 "endpoint" Json.asText).result
  let interface ← (Interface.read (.named members)).result
  .ok ⟨interface, address⟩

def ServedApi.encode (a : ServedApi) : Json :=
  .object (a.interface.members ++ Json.optionalMember "endpoint" (a.address.map .text))

def Capability.decode : Decoder Capability := Json.asRecord ⟨"Capability", 5⟩ fun fields =>
  Capability.mk <$> fields.required 0 "capability" CapabilityKind.decode
    <*> fields.withDefault 1 "scope" .asset CapabilityScope.decode
    <*> fields.withDefault 2 "supportedInterfaces" [] (Json.asList Passage.decode)
    <*> fields.optional 3 "api" ServedApi.decode
    <*> fields.withDefault 4 "actions" [] (Json.asList Action.decode)

def Capability.encode (c : Capability) : Json :=
  .object ([("capability", .text c.kind.name), ("scope", .text c.scope.name),
      ("supportedInterfaces", .array (c.passages.map Passage.encode))]
    ++ Json.optionalMember "api" (c.api.map ServedApi.encode)
    ++ [("actions", .array (c.actions.map Action.encode))])

def Module.decode : Decoder Module := Json.asRecord ⟨"Module", 4⟩ fun fields =>
  Module.mk <$> fields.required 0 "name" Json.asText
    <*> fields.optional 1 "version" Json.asText
    <*> fields.withDefault 2 "capabilities" [] (Json.asList Capability.decode)
    <*> fields.withDefault 3 "labels" [] Json.asMembers

def Module.encode (m : Module) : Json :=
  .object ([("name", .text m.name)]
    ++ Json.optionalMember "version" (m.version.map .text)
    ++ [("capabilities", .array (m.capabilities.map Capability.encode))]
    ++ (if m.labels.isEmpty then [] else [("labels", .object m.labels)]))

end DataRoute
