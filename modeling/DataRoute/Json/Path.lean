import DataRoute.Json.Value

/-! # Dotted paths

A dotted path names a value inside an object: its first segment is a key, and each further
segment is a key under an object and a position under an array. `Members.lookupPath` splits the
text at its dots and follows the segments with `follow`. An address says the same without a text:
it is a list of keys and positions, and `at?` finds the value there. -/

namespace DataRoute.Json

/-! ### Addresses -/

/-- One step into a value: to the member of a key, or to the item at a position. -/
inductive Step where
  | key (name : String)
  | position (index : Decimal.Count)
deriving DecidableEq, Repr

/-- The value one step below another. -/
def Step.below? : Step → Json → Option Json
  | key name, object members => members.lookup name
  | position index, array items => items[index.val]?
  | _, _ => none

/-- The value at an address. -/
def at? : List Step → Json → Option Json
  | [], v => some v
  | step :: rest, v => (step.below? v).bind (at? rest)

/-- The segment that a step is written as. -/
def Step.text : Step → String
  | key name => name
  | position index => String.ofList (Nat.toDigits 10 index.val)

/-- The dotted path of an address. -/
def dotted (address : List Step) : String := ".".intercalate (address.map Step.text)

/-! ### Paths -/

/-- The step that a segment stands for below a value: a key under an object and a position under
an array. -/
def stepBelow? (segment : String) : Json → Option Step
  | object _ => some (.key segment)
  | array _ => (Decimal.readCount segment).toOption.map .position
  | _ => none

/-- The value one segment below another. -/
def child? (segment : String) (v : Json) : Option Json :=
  (stepBelow? segment v).bind fun step => step.below? v

/-- The value at the end of a list of segments. -/
def follow : List String → Json → Option Json
  | [], v => some v
  | segment :: rest, v => (child? segment v).bind (follow rest)

/-- The texts between the dots of a text; `read` is what has been read since the last dot, in
reverse. -/
def segmentsFrom (read : List Char) : List Char → List String
  | [] => [String.ofList read.reverse]
  | c :: rest =>
    if c = '.' then String.ofList read.reverse :: segmentsFrom [] rest
    else segmentsFrom (c :: read) rest

/-- The segments of a dotted path. -/
def segments (path : String) : List String := segmentsFrom [] path.toList

/-- The value a dotted path leads to among the members of an object. -/
def Members.lookupPath (members : Members) (path : String) : Option Json :=
  follow (segments path) (object members)

@[simp] theorem follow_nil (v : Json) : follow [] v = some v := rfl

theorem follow_cons (segment : String) (rest : List String) (v : Json) :
    follow (segment :: rest) v = (child? segment v).bind (follow rest) := rfl

end DataRoute.Json
