import DataRoute.Json.Value

/-! # Records in JSON

How records, texts, lists and named variants are read from JSON values, and what is said of a
value that does not fit.

A record is written as an object, or as the list of its fields in their order. When several
fields are at fault one of them is reported: a member whose value does not fit before a member
that is missing, of two such members the one whose key comes first, and of two missing members
the one declared first. `Part` carries that choice, so a record is read by applying its
constructor to the parts. -/

namespace DataRoute

/-- What a value was expected to be. -/
inductive Expected where
  | string
  | boolean
  | real
  | sequence
  | map
  | unit
  | variant
  | record (name : String)
deriving DecidableEq, Repr

/-- The text of an expectation. -/
def Expected.text : Expected → String
  | .string => "a string"
  | .boolean => "a boolean"
  | .real => "f64"
  | .sequence => "a sequence"
  | .map => "a map"
  | .unit => "unit"
  | .variant => "string or map"
  | .record name => "struct " ++ name

/-- Why a value does not fit a type. -/
inductive DecodeError where
  | wrongType (found : Json) (expected : Expected)
  | missingField (name : String)
  | duplicateField (name : String)
  | unknownVariant (found : String) (known : List String)
  | notOneMember
  | missingItem (position : Nat) (record : String) (size : Nat)
  | extraItems (length : Nat)
  | unreadableWeight (text : String) (fault : Decimal.FloatFault)
  | notAWeight (found : Json)
deriving Repr

/-- A name between grave accents. -/
def ticked (name : String) : String := "\x60" ++ name ++ "\x60"

/-- What a value is called in a message. -/
def Json.described : Json → String
  | .null => "null"
  | .bool b => "boolean " ++ ticked (if b then "true" else "false")
  | .int n => "integer " ++ ticked (Json.integerText n)
  | .float x => "floating point " ++ ticked (Decimal.floatText x)
  | .text s => "string " ++ Text.quote s
  | .array _ => "sequence"
  | .object _ => "map"

/-- The variants a name is expected to be one of. -/
def knownVariants : List String → String
  | [a] => ticked a
  | [a, b] => ticked a ++ " or " ++ ticked b
  | names => "one of " ++ ", ".intercalate (names.map ticked)

def DecodeError.message : DecodeError → String
  | .wrongType found expected =>
    "invalid type: " ++ found.described ++ ", expected " ++ expected.text
  | .missingField name => "missing field " ++ ticked name
  | .duplicateField name => "duplicate field " ++ ticked name
  | .unknownVariant found known =>
    "unknown variant " ++ ticked found ++ ", expected " ++ knownVariants known
  | .notOneMember => "invalid value: map, expected map with a single key"
  | .missingItem position record size =>
    "invalid length " ++ toString position ++ ", expected struct " ++ record ++ " with "
      ++ toString size ++ (if size = 1 then " element" else " elements")
  | .extraItems length =>
    "invalid length " ++ toString length ++ ", expected fewer elements in array"
  | .unreadableWeight text fault => "invalid weight '" ++ text ++ "': " ++ fault.message
  | .notAWeight found => "invalid weight " ++ found.compact

/-- A way to read a value of a type. -/
abbrev Decoder (α : Type) := Json → Except DecodeError α

namespace Json

/-! ### Plain values -/

def asText : Decoder String
  | text s => .ok s
  | v => .error (.wrongType v .string)

def asBool : Decoder Bool
  | bool b => .ok b
  | v => .error (.wrongType v .boolean)

/-- A binary number; integers are rounded to one. -/
def asReal (v : Json) : Except DecodeError Float :=
  match v.toFloat? with
  | some x => .ok x
  | none => .error (.wrongType v .real)

/-- A value that may be `null`. -/
def asOption {α : Type} (decode : Decoder α) : Decoder (Option α)
  | null => .ok none
  | v => (decode v).map some

/-- A list; the first item that does not fit is reported. -/
def asList {α : Type} (decode : Decoder α) : Decoder (List α)
  | array items => items.mapM decode
  | v => .error (.wrongType v .sequence)

def asMembers : Decoder Members
  | object members => .ok members
  | v => .error (.wrongType v .map)

/-- Finds a variant by its name. -/
def variantNamed {α : Type} (variants : List (String × α)) (name : String) :
    Except DecodeError α :=
  match variants.lookup name with
  | some a => .ok a
  | none => .error (.unknownVariant name (variants.map Prod.fst))

/-- A variant, written as its name or as an object whose only member has that name and the value
`null`. -/
def asVariant {α : Type} (variants : List (String × α)) : Decoder α
  | text name => variantNamed variants name
  | object [(name, content)] => do
    let a ← variantNamed variants name
    match content with
    | null => .ok a
    | v => .error (.wrongType v .unit)
  | object _ => .error .notOneMember
  | v => .error (.wrongType v .variant)

/-! ### Records -/

/-- What is wrong with a part of a record: the error, and the key of the member whose value is at
fault, if it is there. -/
structure Fault where
  key : Option String
  error : DecodeError

/-- Of two faults the one that is reported; `a` belongs to the field declared first. -/
def Fault.first (a b : Fault) : Fault :=
  match a.key, b.key with
  | some k, some l => if l < k then b else a
  | none, some _ => b
  | _, none => a

/-- A part of a record, or what is wrong with it. -/
def Part (α : Type) := Except Fault α

namespace Part

/-- Joins two parts; a fault in both is decided by `Fault.first`. -/
def join {α β : Type} (f : Part (α → β)) (x : Part α) : Part β :=
  match f, x with
  | .ok g, .ok a => .ok (g a)
  | .ok _, .error e => .error e
  | .error d, .ok _ => .error d
  | .error d, .error e => .error (d.first e)

instance : Applicative Part where
  pure a := .ok a
  seq f x := join f (x ())

/-- The value of a part, or the error that is reported. -/
def result {α : Type} : Part α → Except DecodeError α
  | .ok a => .ok a
  | .error e => .error e.error

end Part

/-- The name of a record and the number of its fields. -/
structure RecordType where
  name : String
  size : Nat

/-- Where the fields of a record stand. -/
inductive Fields where
  | named (members : Members)
  | listed (record : RecordType) (items : List Json)

namespace Fields

variable {α : Type}

/-- The value of a member, with the key kept for a fault. -/
def member (name : String) (decode : Decoder α) (v : Json) : Part α :=
  match decode v with
  | .ok a => .ok a
  | .error e => .error ⟨some name, e⟩

/-- An item of a list of fields. -/
def item (decode : Decoder α) (v : Json) : Part α :=
  match decode v with
  | .ok a => .ok a
  | .error e => .error ⟨none, e⟩

/-- A field that has to be there. -/
def required (fields : Fields) (position : Nat) (name : String) (decode : Decoder α) : Part α :=
  match fields with
  | named members =>
    match members.lookup name with
    | some v => member name decode v
    | none => .error ⟨none, .missingField name⟩
  | listed record items =>
    match items[position]? with
    | some v => item decode v
    | none => .error ⟨none, .missingItem position record.name record.size⟩

/-- A field with a value for the case that it is left out. -/
def withDefault (fields : Fields) (position : Nat) (name : String) (default : α)
    (decode : Decoder α) : Part α :=
  match fields with
  | named members =>
    match members.lookup name with
    | some v => member name decode v
    | none => .ok default
  | listed _ items =>
    match items[position]? with
    | some v => item decode v
    | none => .ok default

/-- A field that may be left out or be `null`. -/
def optional (fields : Fields) (position : Nat) (name : String) (decode : Decoder α) :
    Part (Option α) :=
  fields.withDefault position name none (asOption decode)

/-- A field with a second name; an object that has both is refused at the second. -/
def withAlias (fields : Fields) (position : Nat) (name second : String) (default : α)
    (decode : Decoder α) : Part α :=
  match fields with
  | named members =>
    match members.lookup name, members.lookup second with
    | some v, none => member name decode v
    | none, some v => member second decode v
    | none, none => .ok default
    | some v, some _ =>
      Part.join ((fun a _ => a) <$> member name decode v)
        (.error ⟨some second, .duplicateField name⟩ : Part Unit)
  | listed _ _ => fields.withDefault position name default decode

end Fields

/-- Reads a record from an object or from the list of its fields. -/
def asRecord {α : Type} (record : RecordType) (read : Fields → Part α) : Decoder α
  | object members => (read (.named members)).result
  | array items => do
    let a ← (read (.listed record items)).result
    if record.size < items.length then .error (.extraItems items.length) else .ok a
  | v => .error (.wrongType v (.record record.name))

/-- Reads a record that keeps the members it does not name; it is written as an object only. -/
def asOpenRecord {α : Type} (name : String) (read : Members → Except DecodeError α) : Decoder α
  | object members => read members
  | v => .error (.wrongType v (.record name))

/-- The members that a record does not name. -/
def Members.without (members : Members) (names : List String) : Members :=
  members.filter fun m => !names.contains m.1

/-! ### Writing -/

/-- A member that is left out when there is no value. -/
def optionalMember (name : String) (value : Option Json) : Members :=
  match value with
  | some v => [(name, v)]
  | none => []

/-- A member that is left out when the list is empty. -/
def listMember {α : Type} (name : String) (encode : α → Json) (values : List α) : Members :=
  if values.isEmpty then [] else [(name, array (values.map encode))]

end Json

end DataRoute
