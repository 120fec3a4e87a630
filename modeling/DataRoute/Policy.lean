import DataRoute.Restriction
import DataRoute.SortedMap

/-! # Policies

A policy is what an administrator has decided for one request: for each kind of capability whether
it must, must not or may be deployed, and where, and the weighted goals by which plans are
compared. A kind without a decision is allowed everywhere. -/

namespace DataRoute

/-! ### Decisions -/

/-- Whether a kind of capability is required, forbidden or allowed. -/
inductive Deployment where
  | required
  | forbidden
  | allowed
deriving DecidableEq, Repr

namespace Deployment

def name : Deployment → String
  | required => "True"
  | forbidden => "False"
  | allowed => "Unknown"

def variants : List (String × Deployment) :=
  [required, forbidden, allowed].map fun d => (d.name, d)

def decode : Decoder Deployment := Json.asVariant variants

end Deployment

/-- Restrictions on clusters, modules and storage accounts. -/
structure Restrictions where
  clusters : List Restriction
  modules : List Restriction
  storageAccounts : List Restriction
deriving Repr

def Restrictions.none : Restrictions := ⟨[], [], []⟩

/-- Why a decision was taken. -/
structure Justification where
  id : String
  policySet : Option String
  description : Option String
  version : Option String
deriving DecidableEq, Repr

def Justification.none : Justification := ⟨"", .none, .none, .none⟩

/-- What is decided for one kind of capability. -/
structure Decision where
  deploy : Deployment
  restrictions : Restrictions
  justification : Justification
deriving Repr

/-- The decision that says nothing but whether to deploy. -/
def Decision.ofDeployment (d : Deployment) : Decision := ⟨d, .none, .none⟩

/-! ### Goals -/

/-- Whether low or high values are wanted. -/
inductive Directive where
  | minimize
  | maximize
deriving DecidableEq, Repr

namespace Directive

def name : Directive → String
  | minimize => "min"
  | maximize => "max"

def variants : List (String × Directive) := [minimize, maximize].map fun d => (d.name, d)

def decode : Decoder Directive := Json.asVariant variants

end Directive

/-- A wanted direction of one infrastructure attribute, and how much it weighs. -/
structure Goal where
  attributeName : String
  directive : Directive
  weight : Float
deriving Repr

/-- The weight of a goal that names none. -/
def Goal.defaultWeight : Float := 1.0

/-! ### Policies -/

/-- Kinds of capability stand in the order of their registration, and the others after them by
name. -/
def CapabilityKind.before (a b : CapabilityKind) : Bool :=
  a.rank < b.rank || (a.rank == b.rank && a.name < b.name)

theorem CapabilityKind.eq_of_rank_name {a b : CapabilityKind} (hr : a.rank = b.rank)
    (hn : a.name = b.name) : a = b := by
  cases a <;> cases b <;> simp_all [CapabilityKind.rank, CapabilityKind.name]

instance : KeyOrder CapabilityKind where
  before := CapabilityKind.before
  before_self a := by simp [CapabilityKind.before]
  before_trans {a b c} h₁ h₂ := by
    simp only [CapabilityKind.before, Bool.or_eq_true, decide_eq_true_eq, Bool.and_eq_true,
      beq_iff_eq] at h₁ h₂ ⊢
    rcases h₁ with h₁ | ⟨e₁, l₁⟩ <;> rcases h₂ with h₂ | ⟨e₂, l₂⟩
    · exact .inl (Nat.lt_trans h₁ h₂)
    · exact .inl (e₂ ▸ h₁)
    · exact .inl (e₁ ▸ h₂)
    · exact .inr ⟨e₁.trans e₂, String.lt_trans l₁ l₂⟩
  eq_of_neither {a b} h₁ h₂ := by
    simp only [CapabilityKind.before, Bool.or_eq_false_iff, decide_eq_false_iff_not, Nat.not_lt,
      Bool.and_eq_false_iff, beq_eq_false_iff_ne, String.not_lt] at h₁ h₂
    have hr : a.rank = b.rank := Nat.le_antisymm h₂.1 h₁.1
    refine CapabilityKind.eq_of_rank_name hr ?_
    exact String.le_antisymm (h₂.2.resolve_left fun h => h hr.symm)
      (h₁.2.resolve_left fun h => h hr)

/-- Decisions by kind of capability, and goals in their order. -/
structure Policy where
  decisions : SortedMap CapabilityKind Decision
  goals : List Goal

namespace Policy

/-- The policy that decides nothing. -/
def empty : Policy := ⟨.empty, []⟩

/-- The decision for a kind. -/
def decision? (p : Policy) (kind : CapabilityKind) : Option Decision := p.decisions.get? kind

/-- Whether a kind is required, forbidden or allowed. -/
def deploy (p : Policy) (kind : CapabilityKind) : Deployment :=
  match p.decision? kind with
  | some d => d.deploy
  | none => .allowed

/-- The restrictions for a kind. -/
def restrictions? (p : Policy) (kind : CapabilityKind) : Option Restrictions :=
  (p.decision? kind).map Decision.restrictions

def clusterRestrictions (p : Policy) (kind : CapabilityKind) : List Restriction :=
  ((p.restrictions? kind).getD .none).clusters

def moduleRestrictions (p : Policy) (kind : CapabilityKind) : List Restriction :=
  ((p.restrictions? kind).getD .none).modules

def storageRestrictions (p : Policy) (kind : CapabilityKind) : List Restriction :=
  ((p.restrictions? kind).getD .none).storageAccounts

/-- The kinds that every plan has to contain, in order. -/
def requiredKinds (p : Policy) : List CapabilityKind :=
  (p.decisions.entries.filter fun e => e.2.deploy == .required).map Prod.fst

theorem mem_requiredKinds_iff {p : Policy} {kind : CapabilityKind} :
    kind ∈ p.requiredKinds ↔ p.deploy kind = .required := by
  have hget : ∀ d, p.decision? kind = some d ↔ (kind, d) ∈ p.decisions.entries := fun d =>
    SortedMap.get?_eq_some_iff
  rw [requiredKinds, deploy, List.mem_map]
  constructor
  · rintro ⟨⟨k, d⟩, hmem, rfl⟩
    obtain ⟨hmem, hd⟩ := List.mem_filter.1 hmem
    rw [(hget d).2 hmem]
    simpa using hd
  · intro h
    split at h
    next d hd => exact ⟨(kind, d), List.mem_filter.2 ⟨(hget d).1 hd, by simp [h]⟩, rfl⟩
    next => exact absurd h (by decide)

/-- The policy with a decision for one more kind, or another decision for it. -/
def withDecision (p : Policy) (kind : CapabilityKind) (d : Decision) : Policy :=
  { p with decisions := p.decisions.insert kind d }

theorem decision?_withDecision (p : Policy) (kind other : CapabilityKind) (d : Decision) :
    (p.withDecision kind d).decision? other = if other == kind then some d else p.decision? other :=
  SortedMap.get?_insert _ _ _ _

theorem deploy_withDecision (p : Policy) (kind other : CapabilityKind) (d : Decision) :
    (p.withDecision kind d).deploy other = if other == kind then d.deploy else p.deploy other := by
  unfold deploy
  rw [decision?_withDecision]
  cases other == kind <;> rfl

theorem restrictions?_withDecision (p : Policy) (kind other : CapabilityKind) (d : Decision) :
    (p.withDecision kind d).restrictions? other =
      if other == kind then some d.restrictions else p.restrictions? other := by
  unfold restrictions?
  rw [decision?_withDecision]
  cases other == kind <;> rfl

/-- The policy with one more goal. -/
def withGoal (p : Policy) (g : Goal) : Policy := { p with goals := p.goals ++ [g] }

end Policy

/-! ### JSON -/

/-- Reads restrictions; those on storage accounts have two names. -/
def Restrictions.decode : Decoder Restrictions :=
  Json.asRecord ⟨"Restrictions", 3⟩ fun fields =>
    Restrictions.mk <$> fields.withDefault 0 "clusters" [] (Json.asList Restriction.decode)
      <*> fields.withDefault 1 "modules" [] (Json.asList Restriction.decode)
      <*> fields.withAlias 2 "storageAccounts" "storageaccounts" []
        (Json.asList Restriction.decode)

def Restrictions.encode (r : Restrictions) : Json :=
  .object (Json.listMember "clusters" Restriction.encode r.clusters
    ++ Json.listMember "modules" Restriction.encode r.modules
    ++ Json.listMember "storageAccounts" Restriction.encode r.storageAccounts)

def Justification.decode : Decoder Justification :=
  Json.asRecord ⟨"DecisionPolicy", 4⟩ fun fields =>
    Justification.mk <$> fields.withDefault 0 "ID" "" Json.asText
      <*> fields.optional 1 "policySetID" Json.asText
      <*> fields.optional 2 "description" Json.asText
      <*> fields.optional 3 "version" Json.asText

def Justification.encode (j : Justification) : Json :=
  .object ([("ID", .text j.id)]
    ++ Json.optionalMember "policySetID" (j.policySet.map .text)
    ++ Json.optionalMember "description" (j.description.map .text)
    ++ Json.optionalMember "version" (j.version.map .text))

def Decision.decode : Decoder Decision := Json.asRecord ⟨"Decision", 3⟩ fun fields =>
  Decision.mk <$> fields.withDefault 0 "deploy" .allowed Deployment.decode
    <*> fields.withDefault 1 "restrictions" .none Restrictions.decode
    <*> fields.withDefault 2 "policy" .none Justification.decode

def Decision.encode (d : Decision) : Json :=
  .object [("deploy", .text d.deploy.name), ("restrictions", d.restrictions.encode),
    ("policy", d.justification.encode)]

/-- Reads a weight: a number, a text that holds one, or a blank text for the default. -/
def Goal.decodeWeight : Decoder Float
  | .text s =>
    if Text.isBlankText s then .ok Goal.defaultWeight
    else match Decimal.readFloat (Text.trim s) with
      | .ok x => .ok x
      | .error fault => .error (.unreadableWeight s fault)
  | v => match v.toFloat? with
    | some x => .ok x
    | none => .error (.notAWeight v)

def Goal.decode : Decoder Goal := Json.asRecord ⟨"AttributeOptimization", 3⟩ fun fields =>
  Goal.mk <$> fields.required 0 "attribute" Json.asText
    <*> fields.required 1 "directive" Directive.decode
    <*> fields.withDefault 2 "weight" Goal.defaultWeight Goal.decodeWeight

def Goal.encode (g : Goal) : Json :=
  .object [("attribute", .text g.attributeName), ("directive", .text g.directive.name),
    ("weight", .ofFloat g.weight)]

/-- Reads a map with texts for keys; the first value that does not fit is reported. -/
def Json.asSortedMap {κ α : Type} [KeyOrder κ] (key : String → κ) (decode : Decoder α) :
    Decoder (SortedMap κ α) := fun v => do
  let members ← v.asMembers
  let entries ← members.mapM fun (k, value) => do return (key k, ← decode value)
  return SortedMap.ofList entries

/-- Writes a map with texts for keys. -/
def SortedMap.encode {κ α : Type} [KeyOrder κ] (key : κ → String) (encode : α → Json)
    (m : SortedMap κ α) : Json :=
  .object (m.entries.map fun e => (key e.1, encode e.2))

def Policy.decode : Decoder Policy := Json.asRecord ⟨"EvaluatorOutput", 2⟩ fun fields =>
  Policy.mk
    <$> fields.withDefault 0 "decisions" .empty
      (Json.asSortedMap CapabilityKind.ofName Decision.decode)
    <*> fields.withDefault 1 "optimization" [] (Json.asList Goal.decode)

def Policy.encode (p : Policy) : Json :=
  .object (("decisions", p.decisions.encode CapabilityKind.name Decision.encode)
    :: Json.listMember "optimization" Goal.encode p.goals)

end DataRoute
