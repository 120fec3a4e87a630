import DataRoute.Json.Value

/-! # Schemas of JSON documents

`Schema` is the part of the schema language that the documents of this library use: texts with a
least length, texts from a list of choices, numbers, lists and records. `Schema.violations` lists
everything in a value that does not fit, depth first, each with the address of the value at
fault. -/

namespace DataRoute

/-- A shape that a JSON value can be checked against. Members of a record that it does not name
are free. -/
inductive Schema where
  | text (minLength : Nat)
  | choice (allowed : List String)
  | number
  | list (items : Schema)
  | record (members : List (String × Schema)) (required : List String)

namespace Schema

/-- What is wrong with a value. -/
inductive Complaint where
  | missing (name : String)
  | notOfType (found : Json) (type : String)
  | tooShort (found : Json) (minLength : Nat)
  | notAmong (found : Json) (allowed : List String)

def Complaint.message : Complaint → String
  | .missing name => Json.stringText name ++ " is a required property"
  | .notOfType found type => found.compact ++ " is not of type " ++ Json.stringText type
  | .tooShort found minLength =>
    found.compact ++ " is shorter than " ++ toString minLength
      ++ (if minLength = 1 then " character" else " characters")
  | .notAmong found allowed =>
    found.compact ++ " is not one of " ++ (Json.array (allowed.map .text)).compact

/-- A complaint and the address of the value it is about, from the root down. -/
structure Violation where
  address : List String
  complaint : Complaint

/-- The text of a violation: the address as a pointer and the complaint. -/
def Violation.message (v : Violation) : String :=
  String.join (v.address.map fun segment => "/" ++ segment) ++ ": " ++ v.complaint.message

/-- A violation below a member or an item. -/
def Violation.below (segment : String) (v : Violation) : Violation :=
  { v with address := segment :: v.address }

/-- A complaint about the value itself. -/
def here (complaint : Complaint) : List Violation := [⟨[], complaint⟩]

/-- The violations of a list of items that share a check, from a position on. -/
def itemViolations (check : Json → List Violation) : Nat → List Json → List Violation
  | _, [] => []
  | n, v :: rest =>
    (check v).map (Violation.below (toString n)) ++ itemViolations check (n + 1) rest

mutual

/-- Everything in a value that does not fit the schema. -/
def violations : Schema → Json → List Violation
  | text minLength, .text s =>
    if s.length < minLength then here (.tooShort (.text s) minLength) else []
  | text _, v => here (.notOfType v "string")
  | choice allowed, .text s =>
    if allowed.contains s then [] else here (.notAmong (.text s) allowed)
  | choice allowed, v => here (.notAmong v allowed) ++ here (.notOfType v "string")
  | number, .int _ => []
  | number, .float _ => []
  | number, v => here (.notOfType v "number")
  | list items, .array values => itemViolations (violations items) 0 values
  | list _, v => here (.notOfType v "array")
  | record members required, .object found =>
    memberViolations members found
      ++ (required.filter fun name => (found.lookup name).isNone).flatMap
          fun name => here (.missing name)
  | record _ _, v => here (.notOfType v "object")

/-- The violations in the members that the schema names and the object has. -/
def memberViolations : List (String × Schema) → Json.Members → List Violation
  | [], _ => []
  | (name, schema) :: rest, found =>
    (match found.lookup name with
      | some v => (violations schema v).map (Violation.below name)
      | none => []) ++ memberViolations rest found

end

/-- Whether a value fits the schema. -/
def accepts (schema : Schema) (value : Json) : Bool := (schema.violations value).isEmpty

end Schema

end DataRoute
