import DataRoute.Range
import DataRoute.Site

/-! # Infrastructure attributes

Attributes are named values kept apart from the objects they describe: the cost of a cluster, the
bandwidth of an account, the distance between two regions. A metric declares the scale of the
attributes that refer to it. `Infrastructure.attribute?` and `Infrastructure.between?` find the
attribute of an object and of a pair of regions, and `Infrastructure.normalized` its value on the
scale of its metric. -/

namespace DataRoute

/-- The kind of object that an attribute describes. -/
inductive ObjectKind where
  | module
  | cluster
  | storageAccount
  | regionPair
deriving DecidableEq, Repr

namespace ObjectKind

def name : ObjectKind → String
  | module => "fybrikmodule"
  | cluster => "cluster"
  | storageAccount => "fybrikstorageaccount"
  | regionPair => "inter-region"

def variants : List (String × ObjectKind) :=
  [module, cluster, storageAccount, regionPair].map fun k => (k.name, k)

def decode : Decoder ObjectKind := Json.asVariant variants

end ObjectKind

/-- The value of an attribute for one object, or for one pair of regions. -/
structure Attribute where
  name : String
  description : Option String
  metric : Option String
  value : String
  object : ObjectKind
  instanceName : Option String
  arguments : List String
deriving DecidableEq, Repr

/-- What the values of a metric are. -/
inductive MetricKind where
  | numeric
  | text
  | boolean
deriving DecidableEq, Repr

namespace MetricKind

def name : MetricKind → String
  | numeric => "numeric"
  | text => "string"
  | boolean => "bool"

def variants : List (String × MetricKind) :=
  [numeric, text, boolean].map fun k => (k.name, k)

end MetricKind

/-- A unit and a scale that attributes share. -/
structure Metric where
  name : String
  kind : MetricKind
  units : Option String
  scale : Option Range
deriving Repr

/-- The attributes and metrics of an installation. -/
structure Infrastructure where
  attributes : List Attribute
  metrics : List Metric
deriving Repr

/-- The number that a text stands for, blanks around it aside. -/
def numberOfText (text : String) : Option Float := (Decimal.readFloat (Text.trim text)).toOption

/-- The value of an attribute as a finite number. -/
def Attribute.numeric (a : Attribute) : Option Float :=
  (numberOfText a.value).filter Float.isFinite

/-- Whether an attribute is about the connection of two regions, in either direction. -/
def Attribute.connects (a : Attribute) (x y : Region) : Bool :=
  match a.arguments with
  | [s, t] => (s == x && t == y) || (s == y && t == x)
  | _ => false

namespace Infrastructure

def empty : Infrastructure := ⟨[], []⟩

def isEmpty (infra : Infrastructure) : Bool := infra.attributes.isEmpty

/-- The first attribute of a name for an object. -/
def attribute? (infra : Infrastructure) (name : String) (object : ObjectKind)
    (instanceName : String) : Option Attribute :=
  infra.attributes.find? fun a =>
    a.name == name && a.object == object && a.instanceName == some instanceName

/-- The text of the first attribute of a name for an object. -/
def value? (infra : Infrastructure) (name : String) (object : ObjectKind)
    (instanceName : String) : Option String :=
  (infra.attribute? name object instanceName).map Attribute.value

/-- The first attribute of a name for a pair of regions, in either direction. -/
def between? (infra : Infrastructure) (name : String) (x y : Region) : Option Attribute :=
  infra.attributes.find? fun a =>
    a.name == name && a.object == .regionPair && a.connects x y

/-- The kinds of object that an attribute is given for, each once, in order of appearance. -/
def objectKinds (infra : Infrastructure) (name : String) : List ObjectKind :=
  ((infra.attributes.filter fun a => a.name == name).map Attribute.object).eraseDups

/-- The metric of a name; of several the last counts. -/
def metric? (infra : Infrastructure) (name : String) : Option Metric :=
  infra.metrics.reverse.find? fun m => m.name == name

/-- The scale of the metric that an attribute refers to, if it is bounded on both sides. -/
def scale? (infra : Infrastructure) (a : Attribute) : Option Range := do
  let metric ← infra.metric? (← a.metric)
  metric.scale.filter Range.isBounded

/-- The value of an attribute on the scale of its metric. -/
def normalized (infra : Infrastructure) (a : Attribute) : Option Float := do
  let scale ← infra.scale? a
  scale.normalize (← a.numeric)

end Infrastructure

/-! ### JSON -/

def Attribute.decode : Decoder Attribute :=
  Json.asRecord ⟨"InfrastructureElement", 7⟩ fun fields =>
    Attribute.mk <$> fields.required 0 "attribute" Json.asText
      <*> fields.optional 1 "description" Json.asText
      <*> fields.optional 2 "metricName" Json.asText
      <*> fields.required 3 "value" Json.asText
      <*> fields.required 4 "object" ObjectKind.decode
      <*> fields.optional 5 "instance" Json.asText
      <*> fields.withDefault 6 "arguments" [] (Json.asList Json.asText)

def Attribute.encode (a : Attribute) : Json :=
  .object ([("attribute", .text a.name)]
    ++ Json.optionalMember "description" (a.description.map .text)
    ++ Json.optionalMember "metricName" (a.metric.map .text)
    ++ [("value", .text a.value), ("object", .text a.object.name)]
    ++ Json.optionalMember "instance" (a.instanceName.map .text)
    ++ Json.listMember "arguments" .text a.arguments)

def Metric.decode : Decoder Metric := Json.asRecord ⟨"InfrastructureMetric", 4⟩ fun fields =>
  Metric.mk <$> fields.required 0 "name" Json.asText
    <*> fields.required 1 "type" (Json.asVariant MetricKind.variants)
    <*> fields.optional 2 "units" Json.asText
    <*> fields.optional 3 "scale" Range.decode

def Metric.encode (m : Metric) : Json :=
  .object ([("name", .text m.name), ("type", .text m.kind.name)]
    ++ Json.optionalMember "units" (m.units.map .text)
    ++ Json.optionalMember "scale" (m.scale.map Range.encode))

def Infrastructure.decode : Decoder Infrastructure :=
  Json.asRecord ⟨"Infrastructure", 2⟩ fun fields =>
    Infrastructure.mk <$> fields.withDefault 0 "attributes" [] (Json.asList Attribute.decode)
      <*> fields.withDefault 1 "metrics" [] (Json.asList Metric.decode)

def Infrastructure.encode (infra : Infrastructure) : Json :=
  .object [("attributes", .array (infra.attributes.map Attribute.encode)),
    ("metrics", .array (infra.metrics.map Metric.encode))]

end DataRoute
