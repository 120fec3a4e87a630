import DataRoute.Json.Schema

/-! # Schemas of the documents

The schemas that documents are checked against before they are read: snapshots of an
environment, catalogs of modules, and infrastructure attributes. The members of a record stand
in the order of their names. -/

namespace DataRoute.Document

open Schema

/-- A text of at least one character. -/
def someText : Schema := .text 1

/-- Any text. -/
def anyText : Schema := .text 0

/-- Any object. -/
def anyRecord : Schema := .record [] []

def interfaceSchema : Schema :=
  .record [("dataformat", anyText), ("protocol", someText)] ["protocol"]

def actionSchema : Schema := .record [("name", someText)] ["name"]

def passageSchema : Schema :=
  .record [("sink", interfaceSchema), ("source", interfaceSchema)] []

def capabilitySchema : Schema :=
  .record [("actions", .list actionSchema), ("api", interfaceSchema), ("capability", someText),
    ("scope", anyText), ("supportedInterfaces", .list passageSchema)] ["capability"]

def moduleSchema : Schema :=
  .record [("capabilities", .list capabilitySchema), ("labels", anyRecord), ("name", someText),
    ("version", anyText)] ["name", "capabilities"]

def clusterSchema : Schema :=
  .record [("metadata", .record [("region", anyText), ("zone", anyText)] ["region"]),
    ("name", someText)] ["name", "metadata"]

def storageAccountSchema : Schema :=
  .record [("endpoint", anyText), ("id", anyText), ("name", someText), ("region", someText),
    ("secretRef", anyText)] ["name", "region"]

def rangeSchema : Schema := .record [("max", .number), ("min", .number)] []

def attributeSchema : Schema :=
  .record [("arguments", .list anyText), ("attribute", someText), ("description", anyText),
    ("instance", anyText), ("metricName", anyText),
    ("object", .choice ["fybrikmodule", "cluster", "fybrikstorageaccount", "inter-region"]),
    ("value", anyText)] ["attribute", "value", "object"]

def metricSchema : Schema :=
  .record [("name", someText), ("scale", rangeSchema),
    ("type", .choice ["numeric", "string", "bool"]), ("units", anyText)] ["name", "type"]

def infrastructureSchema : Schema :=
  .record [("attributes", .list attributeSchema), ("metrics", .list metricSchema)] []

/-- A snapshot of an environment. -/
def environmentSchema : Schema :=
  .record [("clusters", .list clusterSchema), ("infrastructure", infrastructureSchema),
    ("modules", .list moduleSchema), ("storageAccounts", .list storageAccountSchema)] []

/-- A catalog of modules. -/
def catalogSchema : Schema := .record [("modules", .list moduleSchema)] ["modules"]

/-- The kinds of document. -/
inductive Kind where
  | environment
  | catalog
  | infrastructure
deriving DecidableEq, Repr

namespace Kind

/-- The schema of a kind of document. -/
def schema : Kind → Schema
  | environment => environmentSchema
  | catalog => catalogSchema
  | infrastructure => infrastructureSchema

def schemaName : Kind → String
  | environment => "Environment"
  | catalog => "ModuleCatalog"
  | infrastructure => "Infrastructure"

/-- What a kind of document is called. -/
def title : Kind → String
  | environment => "environment"
  | catalog => "module catalog"
  | infrastructure => "infrastructure"

end Kind

end DataRoute.Document
