import DataRoute.Capability
import DataRoute.Infrastructure
import DataRoute.Json.Path

/-! # Placement restrictions

A restriction names a property and says what its value has to be: a number in a range, one of a
list of texts, or just present. The value is that of the infrastructure attribute of that name,
or else what the property leads to in the object itself. `Subject` is an object as restrictions
see it. -/

namespace DataRoute

/-- What the value of a property has to be; an empty list of texts allows any. -/
inductive Constraint where
  | range (range : Range)
  | values (allowed : List String)
  | present
deriving Repr

/-- A property and a constraint on its value. -/
structure Restriction where
  property : String
  constraint : Constraint
deriving Repr

/-! ### Subjects -/

/-- An object that restrictions are about: its kind, its name and its own properties. -/
structure Subject where
  kind : ObjectKind
  name : String
  property : String → Option Json

/-- What follows a given beginning of a text. -/
def dropLeading (leading text : String) : Option String :=
  if leading.toList.isPrefixOf text.toList then
    some (String.ofList (text.toList.drop leading.length))
  else none

/-- A cluster: its name, its region and zone, and whatever else its metadata hold. -/
def Cluster.subject (c : Cluster) : Subject where
  kind := .cluster
  name := c.name
  property path :=
    if path = "name" then some (.text c.name)
    else if path = "metadata.region" then some (.text c.region)
    else if path = "metadata.zone" then c.zone.map .text
    else (dropLeading "metadata." path).bind c.metadata.lookupPath

/-- A storage account: its fields, and whatever else it holds. -/
def StorageAccount.subject (a : StorageAccount) : Subject where
  kind := .storageAccount
  name := a.name
  property path :=
    if path = "name" then some (.text a.name)
    else if path = "id" then a.id.map .text
    else if path = "region" then some (.text a.region)
    else if path = "endpoint" then a.address.map .text
    else if path = "secretRef" then a.secretRef.map .text
    else a.extra.lookupPath path

/-- A module with one of its capabilities: name and version of the module, kind and scope of the
capability, and the labels of the module with or without a leading `labels.`. -/
def Module.subject (m : Module) (c : Capability) : Subject where
  kind := .module
  name := m.name
  property path :=
    if path = "name" then some (.text m.name)
    else if path = "version" then m.version.map .text
    else if path = "capabilities.capability" then some (.text c.kind.name)
    else if path = "capabilities.scope" then some (.text c.scope.name)
    else m.labels.lookupPath ((dropLeading "labels." path).getD path)

/-! ### Evaluation -/

/-- The number a value stands for; a text may hold any number, infinities among them. -/
def Json.numericValue : Json → Option Float
  | .text s => numberOfText s
  | v => v.toFloat?

/-- The value of a property: that of the attribute of the subject, or else the subject's own. A
`null` is no value. -/
def Infrastructure.propertyOf (infra : Infrastructure) (subject : Subject) (property : String) :
    Option Json :=
  match infra.value? property subject.kind subject.name with
  | some value => some (.text value)
  | none => match subject.property property with
    | some .null => none
    | value => value

/-- Whether a value meets a constraint. -/
def Constraint.admits : Constraint → Json → Bool
  | range r, v => v.numericValue.any r.contains
  | values allowed, v => allowed.isEmpty || v.scalarText?.any allowed.contains
  | present, _ => true

/-- Whether a subject meets a restriction; a property without a value fails. -/
def Restriction.satisfiedBy (r : Restriction) (subject : Subject) (infra : Infrastructure) :
    Bool :=
  (infra.propertyOf subject r.property).any r.constraint.admits

/-- Whether a subject meets every restriction of a list. -/
def satisfies (restrictions : List Restriction) (subject : Subject) (infra : Infrastructure) :
    Bool :=
  restrictions.all fun r => r.satisfiedBy subject infra

/-! ### JSON -/

/-- The restriction with a property, allowed values and a range: the range counts if there is
one, and without values any value will do. -/
def Restriction.make (property : String) (allowed : List String) (range : Option Range) :
    Restriction :=
  match range with
  | some r => ⟨property, .range r⟩
  | none => if allowed.isEmpty then ⟨property, .present⟩ else ⟨property, .values allowed⟩

def Restriction.decode : Decoder Restriction :=
  Json.asRecord ⟨"RestrictionRepr", 3⟩ fun fields =>
    Restriction.make <$> fields.required 0 "property" Json.asText
      <*> fields.withDefault 1 "values" [] (Json.asList Json.asText)
      <*> fields.optional 2 "range" Range.decode

def Constraint.members : Constraint → Json.Members
  | range r => [("range", r.encode)]
  | values allowed => Json.listMember "values" .text allowed
  | present => []

def Restriction.encode (r : Restriction) : Json :=
  .object (("property", .text r.property) :: r.constraint.members)

end DataRoute
