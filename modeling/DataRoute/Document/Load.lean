import DataRoute.Document.Schema
import DataRoute.Environment
import DataRoute.Json.Reading

/-! # Loading documents

A document is read as JSON, checked against the schema of its kind, and only then decoded; the
first of these steps that fails is reported. `File` is what is found where a document is looked
for. -/

namespace DataRoute.Document

/-- What is found at a path. -/
inductive File where
  | contents (text : String)
  | missing
  | directory
  | unreachable
deriving DecidableEq, Repr

/-- Why a document cannot be loaded. -/
inductive LoadError where
  | opening
  | reading
  | parsing
  | schema (kind : Kind) (violations : List Schema.Violation)
  | decoding (kind : Kind) (cause : DecodeError)
  | catalog (fault : Catalog.Fault)

/-- The text of a load error about the document at a path. -/
def LoadError.message (path : String) : LoadError → String
  | opening => "opening " ++ path
  | reading => "reading " ++ path
  | parsing => "parsing " ++ path
  | schema kind violations =>
    path ++ " failed " ++ kind.schemaName ++ " schema validation:\n"
      ++ "\n".intercalate (violations.map Schema.Violation.message)
  | decoding kind _ => "decoding " ++ kind.title ++ " " ++ path
  | catalog fault => fault.message

/-- The value of a file, checked against the schema of a kind of document. -/
def readChecked (kind : Kind) : File → Except LoadError Json
  | .missing => .error .opening
  | .unreachable => .error .opening
  | .directory => .error .parsing
  | .contents text =>
    match Json.read? text with
    | none => .error .parsing
    | some value =>
      if kind.schema.accepts value then .ok value
      else .error (.schema kind (kind.schema.violations value))

/-- Decodes the value of a file after its schema has been checked. -/
def loadAs {α : Type} (kind : Kind) (decode : Decoder α) (file : File) : Except LoadError α := do
  let value ← readChecked kind file
  match decode value with
  | .ok a => .ok a
  | .error cause => .error (.decoding kind cause)

/-- Loads a catalog of modules, whose names have to be distinct and not blank. -/
def loadCatalog (file : File) : Except LoadError Catalog := do
  let modules ← loadAs .catalog Catalog.decodeModules file
  match Catalog.ofDocument modules with
  | .ok catalog => .ok catalog
  | .error fault => .error (.catalog fault)

/-- Loads infrastructure attributes; where there is no file there are none. -/
def loadInfrastructure (file : File) : Except LoadError Infrastructure :=
  match file with
  | .missing => .ok .empty
  | .unreachable => .error .reading
  | present => loadAs .infrastructure Infrastructure.decode present

/-- Loads a snapshot of an environment. -/
def loadEnvironment (file : File) : Except LoadError Environment :=
  loadAs .environment Environment.decode file

end DataRoute.Document
