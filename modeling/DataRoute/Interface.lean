import DataRoute.Json.Record

/-! # Interfaces and endpoints

An interface is a way to get at data: a protocol and, if it is known, a data format. Two
interfaces match if their protocols agree and their formats do not disagree
(`Interface.compatible_iff`). An endpoint is a place where data is picked up or delivered through
an interface: a physical store, or the interface that a module offers to workloads. -/

namespace DataRoute

/-- A protocol and a data format; no format, or an empty one, stands for any. -/
structure Interface where
  protocol : String
  format : Option String
deriving DecidableEq, Repr

namespace Interface

/-- The interface without a protocol. -/
def unspecified : Interface := ⟨"", none⟩

/-- The format that is asked for, if there is one. -/
def format? (i : Interface) : Option String := i.format.filter fun f => !f.isEmpty

/-- Whether two interfaces match: equal protocols, and equal formats unless one has none. -/
def compatible (i j : Interface) : Bool :=
  i.protocol == j.protocol &&
    match i.format?, j.format? with
    | some f, some g => f == g
    | _, _ => true

theorem compatible_iff {i j : Interface} :
    i.compatible j = true ↔
      i.protocol = j.protocol ∧ ∀ f g, i.format? = some f → j.format? = some g → f = g := by
  unfold compatible
  cases hf : i.format? <;> cases hg : j.format? <;> simp

@[simp] theorem compatible_self (i : Interface) : i.compatible i = true := by
  rw [compatible_iff]
  refine ⟨rfl, fun f g hf hg => ?_⟩
  rw [hf] at hg
  exact Option.some.inj hg

/-- The protocol, and the format after a slash. -/
def text (i : Interface) : String :=
  match i.format? with
  | some f => i.protocol ++ "/" ++ f
  | none => i.protocol

/-! ### JSON -/

def read (fields : Json.Fields) : Json.Part Interface :=
  Interface.mk <$> fields.required 0 "protocol" Json.asText
    <*> fields.optional 1 "dataformat" Json.asText

def decode : Decoder Interface := Json.asRecord ⟨"Interface", 2⟩ read

def members (i : Interface) : Json.Members :=
  ("protocol", .text i.protocol) :: Json.optionalMember "dataformat" (i.format.map .text)

def encode (i : Interface) : Json := .object i.members

end Interface

/-- A place where data is picked up or delivered. -/
inductive Endpoint where
  | store (interface : Interface)
  | api (interface : Interface)
deriving DecidableEq, Repr

namespace Endpoint

def interface : Endpoint → Interface
  | store i => i
  | api i => i

/-- Whether an endpoint is offered to workloads rather than a physical store. -/
def isApi : Endpoint → Bool
  | store _ => false
  | api _ => true

/-- Whether an endpoint stands for any physical store: a store without a protocol, as a new asset
has whose format the writing module chooses. -/
def isWildcard : Endpoint → Bool
  | store i => i.protocol.isEmpty
  | api _ => false

theorem isWildcard_store_iff {i : Interface} : (store i).isWildcard = true ↔ i.protocol = "" := by
  simp [isWildcard]

/-- The interface; that of an api is marked. -/
def text : Endpoint → String
  | store i => i.text
  | api i => "api:" ++ i.text

/-! ### JSON -/

/-- The endpoint with an interface, offered to workloads or not. -/
def make (interface : Interface) (isApi : Bool) : Endpoint :=
  if isApi then api interface else store interface

def decode : Decoder Endpoint := Json.asRecord ⟨"Node", 2⟩ fun fields =>
  make <$> fields.required 0 "interface" Interface.decode
    <*> fields.withDefault 1 "virtual" false Json.asBool

def encode (e : Endpoint) : Json :=
  .object [("interface", e.interface.encode), ("virtual", .bool e.isApi)]

end Endpoint

end DataRoute
