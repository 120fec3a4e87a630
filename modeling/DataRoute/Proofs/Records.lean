import Mathlib
import DataRoute.Environment
import DataRoute.Request

/-! # What records are read as

A field of a record is read from the value that stands for it: the member of its name, or the item
at its position if the record is given as a list (`Json.part`).  What a field is read as depends on
that value alone (`Required`, `Defaulted`), and a record is read if each of its fields is
(`asRecord_eq_ok_iff`).  For every type of the library one lemma says in these terms which values
are read as which element of it, `Module.decode_eq_ok_iff` and its likes, and later statements about
reading rest on those lemmas and not on the readers. -/

namespace DataRoute

theorem exists_of_forall₂_right {α β : Type} {R : α → β → Prop} {l : List α} {m : List β}
    (h : List.Forall₂ R l m) {b : β} (hb : b ∈ m) : ∃ a ∈ l, R a b := by
  induction h with
  | nil => cases hb
  | cons hab _ ih =>
    rcases List.mem_cons.1 hb with rfl | hb
    · exact ⟨_, List.mem_cons_self, hab⟩
    · obtain ⟨a, ha, hR⟩ := ih hb
      exact ⟨a, List.mem_cons_of_mem _ ha, hR⟩

namespace Json

/-! ### Binds and lists -/

section lists
variable {α β : Type} {decode : Decoder α} {v : Json}

theorem bind_eq_ok_iff {x : Except DecodeError α} {f : α → Except DecodeError β} {b : β} :
    x >>= f = .ok b ↔ ∃ a, x = .ok a ∧ f a = .ok b := by
  cases x with
  | error e => simp [bind, Except.bind]
  | ok a => simp [bind, Except.bind]

theorem mapM_eq_ok_iff {f : α → Except DecodeError β} {l : List α} {m : List β} :
    l.mapM f = .ok m ↔ List.Forall₂ (fun a b => f a = .ok b) l m := by
  induction l generalizing m with
  | nil => cases m <;> simp [pure, Except.pure]
  | cons a l ih => cases m <;> simp [bind_eq_ok_iff, pure, Except.pure, ih]

theorem asList_eq_ok_iff {l : List α} : asList decode v = .ok l ↔
    ∃ items, v = .array items ∧ List.Forall₂ (fun w a => decode w = .ok a) items l := by
  cases v <;> simp [asList, mapM_eq_ok_iff]

theorem exists_of_mem_asList {l : List α} {a : α} (h : asList decode v = .ok l) (ha : a ∈ l) :
    ∃ w ∈ v.items, decode w = .ok a := by
  obtain ⟨items, rfl, hitems⟩ := asList_eq_ok_iff.mp h
  exact exists_of_forall₂_right hitems ha

end lists

/-! ### Parts of records -/

namespace Part
variable {α β : Type}

@[simp] theorem map_eq_pure_iff {f : α → β} {p : Part α} {b : β} :
    f <$> p = pure b ↔ ∃ a, p = pure a ∧ f a = b := by
  constructor
  · intro h
    cases p <;> cases h
    exact ⟨_, rfl, rfl⟩
  · rintro ⟨a, rfl, rfl⟩
    rfl

@[simp] theorem seq_eq_pure_iff {f : Part (α → β)} {p : Part α} {b : β} :
    f <*> p = pure b ↔ ∃ g, f = pure g ∧ ∃ a, p = pure a ∧ g a = b := by
  constructor
  · intro h
    cases f <;> cases p <;> cases h
    exact ⟨_, rfl, _, rfl, rfl⟩
  · rintro ⟨g, rfl, a, rfl, rfl⟩
    rfl

@[simp] theorem result_eq_ok_iff {p : Part α} {a : α} : p.result = .ok a ↔ p = pure a := by
  constructor
  · intro h
    cases p <;> cases h
    rfl
  · rintro rfl
    rfl

end Part

/-- The value that stands for a field: the member of its name, or the item at its position. -/
def part (position : Nat) (name : String) : Json → Option Json
  | object members => members.lookup name
  | array items => items[position]?
  | _ => none

/-- Whether a value has the form of a record: an object, or a list of no more than its fields. -/
def IsRecord (size : Nat) : Json → Prop
  | object _ => True
  | array items => items.length ≤ size
  | _ => False

/-- The fields of a record that a value has the form of. -/
def fields (record : RecordType) : Json → Fields
  | object members => .named members
  | array items => .listed record items
  | _ => .listed record []

/-- The value that stands for a field. -/
def Fields.find? (position : Nat) (name : String) : Fields → Option Json
  | named members => members.lookup name
  | listed _ items => items[position]?

@[simp] theorem find?_fields (record : RecordType) (position : Nat) (name : String) (v : Json) :
    (v.fields record).find? position name = v.part position name := by
  cases v <;> rfl

@[simp] theorem find?_named (members : Members) (position : Nat) (name : String) :
    (Fields.named members).find? position name = members.lookup name := rfl

@[simp] theorem part_object (members : Members) (position : Nat) (name : String) :
    (object members).part position name = members.lookup name := rfl

@[simp] theorem isRecord_object (members : Members) (size : Nat) :
    (object members).IsRecord size := trivial

/-! ### Fields -/

section fields
variable {α : Type} {decode : Decoder α} {a : α}

/-- A field that has to be there is read as a value. -/
def Required (decode : Decoder α) (part : Option Json) (a : α) : Prop :=
  ∃ v, part = some v ∧ decode v = .ok a

/-- A field that may be left out is read as a value. -/
def Defaulted (default : α) (decode : Decoder α) (part : Option Json) (a : α) : Prop :=
  (part = none ∧ a = default) ∨ Required decode part a

/-- A field that may be left out or be `null` is read as a value, or as none. -/
def Optional (decode : Decoder α) (part : Option Json) : Option α → Prop
  | none => part = none ∨ part = some .null
  | some a => ∃ v, part = some v ∧ v ≠ .null ∧ decode v = .ok a

theorem asOption_of_ne_null {v : Json} (h : v ≠ .null) :
    asOption decode v = (decode v).map some := by
  cases v with
  | null => exact absurd rfl h
  | _ => rfl

theorem defaulted_asOption_iff {part : Option Json} {a : Option α} :
    Defaulted none (asOption decode) part a ↔ Optional decode part a := by
  cases part with
  | none => cases a <;> simp [Defaulted, Required, Optional]
  | some v =>
    by_cases hnull : v = .null
    · subst hnull
      cases a <;> simp [Defaulted, Required, Optional, asOption]
    · cases hv : decode v <;> cases a <;>
        simp [Defaulted, Required, Optional, asOption_of_ne_null, hnull, hv, Except.map]

namespace Fields
variable {fields : Fields} {position : Nat} {name second : String} {default : α}

theorem member_eq_pure_iff {v : Json} : member name decode v = pure a ↔ decode v = .ok a := by
  unfold member
  constructor <;> intro h
  · split at h <;> cases h
    assumption
  · rw [h]
    rfl

theorem item_eq_pure_iff {v : Json} : item decode v = pure a ↔ decode v = .ok a := by
  unfold item
  constructor <;> intro h
  · split at h <;> cases h
    assumption
  · rw [h]
    rfl

@[simp] theorem required_eq_pure_iff : fields.required position name decode = pure a ↔
    Required decode (fields.find? position name) a := by
  unfold Required
  cases fields with
  | named members =>
    simp only [required, find?]
    cases members.lookup name with
    | none =>
      refine iff_of_false (fun h => by cases h) ?_
      rintro ⟨_, h, -⟩
      cases h
    | some v => simp only [member_eq_pure_iff, Option.some.injEq, exists_eq_left']
  | listed record items =>
    simp only [required, find?]
    cases items[position]? with
    | none =>
      refine iff_of_false (fun h => by cases h) ?_
      rintro ⟨_, h, -⟩
      cases h
    | some v => simp only [item_eq_pure_iff, Option.some.injEq, exists_eq_left']

theorem ok_eq_pure_iff {b : α} : (Except.ok b : Part α) = pure a ↔ a = b :=
  ⟨fun h => by cases h; rfl, fun h => h ▸ rfl⟩

@[simp] theorem withDefault_eq_pure_iff :
    fields.withDefault position name default decode = pure a ↔
      Defaulted default decode (fields.find? position name) a := by
  unfold Defaulted Required
  cases fields with
  | named members =>
    simp only [withDefault, find?]
    cases members.lookup name with
    | none =>
      simp only [true_and, reduceCtorEq, false_and, exists_false, or_false]
      exact ok_eq_pure_iff
    | some v => simp [member_eq_pure_iff]
  | listed record items =>
    simp only [withDefault, find?]
    cases items[position]? with
    | none =>
      simp only [true_and, reduceCtorEq, false_and, exists_false, or_false]
      exact ok_eq_pure_iff
    | some v => simp [item_eq_pure_iff]

@[simp] theorem optional_eq_pure_iff {a : Option α} :
    fields.optional position name decode = pure a ↔
      Optional decode (fields.find? position name) a :=
  withDefault_eq_pure_iff.trans defaulted_asOption_iff

theorem withAlias_eq_pure (h : fields.withAlias position name second default decode = pure a) :
    Defaulted default decode (fields.find? position name) a ∨
      Defaulted default decode (fields.find? position second) a := by
  cases fields with
  | listed record items => exact .inl (withDefault_eq_pure_iff.1 h)
  | named members =>
    simp only [withAlias] at h
    split at h
    next v hv _ => exact .inl (.inr ⟨v, hv, member_eq_pure_iff.1 h⟩)
    next v _ hv => exact .inr (.inr ⟨v, hv, member_eq_pure_iff.1 h⟩)
    next hn _ => exact .inl (.inl ⟨hn, ok_eq_pure_iff.1 h⟩)
    next v w hv hw =>
      revert h
      cases member name decode v <;> intro h <;> cases h

/-- A field whose second name is not used is one with a default. -/
theorem withAlias_eq_withDefault (h : (fields.find? position second) = none) :
    fields.withAlias position name second default decode =
      fields.withDefault position name default decode := by
  cases fields with
  | listed record items => rfl
  | named members =>
    have h : members.lookup second = none := h
    simp only [withAlias, withDefault, h]
    cases members.lookup name <;> rfl

end Fields

end fields

/-! ### Records -/

section records
variable {α : Type} {v : Json} {x : α}

theorem asRecord_eq_ok_iff {record : RecordType} {read : Fields → Part α} :
    asRecord record read v = .ok x ↔ v.IsRecord record.size ∧ read (v.fields record) = pure x := by
  cases v with
  | object members => simp [asRecord, IsRecord, fields]
  | array items =>
    simp only [asRecord, IsRecord, fields, ← Part.result_eq_ok_iff]
    cases hread : (read (.listed record items)).result with
    | error e => exact iff_of_false (fun h => by cases h) fun h => by cases h.2
    | ok y =>
      by_cases hlong : record.size < items.length
      · refine iff_of_false (by simp [hlong, bind, Except.bind]) fun h => ?_
        exact absurd hlong (Nat.not_lt.2 h.1)
      · simp [hlong, Nat.not_lt.1 hlong, bind, Except.bind]
  | _ => simp [asRecord, IsRecord]

theorem asOpenRecord_eq_ok_iff {name : String} {read : Members → Except DecodeError α} :
    asOpenRecord name read v = .ok x ↔
      ∃ members : Members, v = .object members ∧ read members = .ok x := by
  cases v <;> simp [asOpenRecord]

end records
end Json

open Json

/-! ### The records of the library -/

section
variable {v : Json}

theorem Interface.read_eq_pure_iff {fields : Fields} {i : Interface} :
    Interface.read fields = pure i ↔
      Required asText (fields.find? 0 "protocol") i.protocol ∧
        Optional asText (fields.find? 1 "dataformat") i.format := by
  cases i
  simp [Interface.read]

theorem Interface.decode_eq_ok_iff {i : Interface} : Interface.decode v = .ok i ↔
    v.IsRecord 2 ∧ Required asText (v.part 0 "protocol") i.protocol ∧
      Optional asText (v.part 1 "dataformat") i.format := by
  simp [Interface.decode, asRecord_eq_ok_iff, Interface.read_eq_pure_iff]

theorem Passage.decode_eq_ok_iff {p : Passage} : Passage.decode v = .ok p ↔
    v.IsRecord 2 ∧ Optional Interface.decode (v.part 0 "source") p.source ∧
      Optional Interface.decode (v.part 1 "sink") p.sink := by
  cases p
  simp [Passage.decode, asRecord_eq_ok_iff]

theorem ServedApi.decode_eq_ok_iff {a : ServedApi} : ServedApi.decode v = .ok a ↔
    ∃ members : Members, v = .object members ∧
      Optional asText (members.lookup "endpoint") a.address ∧
      Required asText (members.lookup "protocol") a.interface.protocol ∧
      Optional asText (members.lookup "dataformat") a.interface.format := by
  cases a
  simp [ServedApi.decode, asOpenRecord_eq_ok_iff, Interface.read_eq_pure_iff, bind_eq_ok_iff]

theorem Action.decode_eq_ok_iff {a : Action} : Action.decode v = .ok a ↔
    ∃ members : Members, v = .object members ∧ Required asText (members.lookup "name") a.name ∧
      members.without ["name"] = a.arguments := by
  cases a
  simp [Action.decode, asOpenRecord_eq_ok_iff]

theorem Capability.decode_eq_ok_iff {c : Capability} : Capability.decode v = .ok c ↔
    v.IsRecord 5 ∧ Required CapabilityKind.decode (v.part 0 "capability") c.kind ∧
      Defaulted .asset CapabilityScope.decode (v.part 1 "scope") c.scope ∧
      Defaulted [] (asList Passage.decode) (v.part 2 "supportedInterfaces") c.passages ∧
      Optional ServedApi.decode (v.part 3 "api") c.api ∧
      Defaulted [] (asList Action.decode) (v.part 4 "actions") c.actions := by
  cases c
  simp [Capability.decode, asRecord_eq_ok_iff, and_assoc]

theorem Module.decode_eq_ok_iff {m : Module} : Module.decode v = .ok m ↔
    v.IsRecord 4 ∧ Required asText (v.part 0 "name") m.name ∧
      Optional asText (v.part 1 "version") m.version ∧
      Defaulted [] (asList Capability.decode) (v.part 2 "capabilities") m.capabilities ∧
      Defaulted [] asMembers (v.part 3 "labels") m.labels := by
  cases m
  simp [Module.decode, asRecord_eq_ok_iff, and_assoc]

theorem Cluster.Metadata.decode_eq_ok_iff {m : Metadata} : Metadata.decode v = .ok m ↔
    ∃ members : Members, v = .object members ∧ Required asText (members.lookup "region") m.region ∧
      Optional asText (members.lookup "zone") m.zone ∧
      members.without ["region", "zone"] = m.extra := by
  cases m
  simp [Metadata.decode, asOpenRecord_eq_ok_iff]

theorem Cluster.decode_eq_ok_iff {c : Cluster} : Cluster.decode v = .ok c ↔
    v.IsRecord 2 ∧ Required asText (v.part 0 "name") c.name ∧
      Required Metadata.decode (v.part 1 "metadata") ⟨c.region, c.zone, c.metadata⟩ := by
  cases c
  simp only [Cluster.decode, asRecord_eq_ok_iff, ofMetadata, Part.seq_eq_pure_iff,
    Part.map_eq_pure_iff, Fields.required_eq_pure_iff, find?_fields, existsAndEq, and_true,
    Cluster.mk.injEq]
  refine and_congr_right fun _ => ⟨?_, ?_⟩
  · rintro ⟨⟨region, zone, extra⟩, hname, hmetadata, -, rfl, rfl, rfl⟩
    exact ⟨hname, hmetadata⟩
  · rintro ⟨hname, hmetadata⟩
    exact ⟨_, hname, hmetadata, trivial, rfl, rfl, rfl⟩

theorem StorageAccount.decode_eq_ok_iff {a : StorageAccount} : StorageAccount.decode v = .ok a ↔
    ∃ members : Members, v = .object members ∧ Required asText (members.lookup "name") a.name ∧
      Optional asText (members.lookup "id") a.id ∧
      Required asText (members.lookup "region") a.region ∧
      Optional asText (members.lookup "endpoint") a.address ∧
      Optional asText (members.lookup "secretRef") a.secretRef ∧
      members.without fieldNames = a.extra := by
  cases a
  simp [StorageAccount.decode, asOpenRecord_eq_ok_iff, and_assoc]

theorem Range.decode_eq_ok_iff {r : Range} : Range.decode v = .ok r ↔
    v.IsRecord 2 ∧ Optional asReal (v.part 0 "min") r.min ∧
      Optional asReal (v.part 1 "max") r.max := by
  cases r
  simp [Range.decode, asRecord_eq_ok_iff]

theorem Attribute.decode_eq_ok_iff {a : Attribute} : Attribute.decode v = .ok a ↔
    v.IsRecord 7 ∧ Required asText (v.part 0 "attribute") a.name ∧
      Optional asText (v.part 1 "description") a.description ∧
      Optional asText (v.part 2 "metricName") a.metric ∧
      Required asText (v.part 3 "value") a.value ∧
      Required ObjectKind.decode (v.part 4 "object") a.object ∧
      Optional asText (v.part 5 "instance") a.instanceName ∧
      Defaulted [] (asList asText) (v.part 6 "arguments") a.arguments := by
  cases a
  simp [Attribute.decode, asRecord_eq_ok_iff, and_assoc]

theorem Metric.decode_eq_ok_iff {m : Metric} : Metric.decode v = .ok m ↔
    v.IsRecord 4 ∧ Required asText (v.part 0 "name") m.name ∧
      Required (asVariant MetricKind.variants) (v.part 1 "type") m.kind ∧
      Optional asText (v.part 2 "units") m.units ∧
      Optional Range.decode (v.part 3 "scale") m.scale := by
  cases m
  simp [Metric.decode, asRecord_eq_ok_iff, and_assoc]

theorem Infrastructure.decode_eq_ok_iff {infra : Infrastructure} :
    Infrastructure.decode v = .ok infra ↔
      v.IsRecord 2 ∧
        Defaulted [] (asList Attribute.decode) (v.part 0 "attributes") infra.attributes ∧
        Defaulted [] (asList Metric.decode) (v.part 1 "metrics") infra.metrics := by
  cases infra
  simp [Infrastructure.decode, asRecord_eq_ok_iff]

theorem Restriction.decode_eq_ok_iff {r : Restriction} : Restriction.decode v = .ok r ↔
    v.IsRecord 3 ∧ ∃ property allowed range, Required asText (v.part 0 "property") property ∧
      Defaulted [] (asList asText) (v.part 1 "values") allowed ∧
      Optional Range.decode (v.part 2 "range") range ∧ make property allowed range = r := by
  simp [Restriction.decode, asRecord_eq_ok_iff]

theorem Restrictions.parts_of_decode {r : Restrictions} (h : Restrictions.decode v = .ok r) :
    Defaulted [] (asList Restriction.decode) (v.part 0 "clusters") r.clusters ∧
      Defaulted [] (asList Restriction.decode) (v.part 1 "modules") r.modules ∧
      (Defaulted [] (asList Restriction.decode) (v.part 2 "storageAccounts") r.storageAccounts ∨
        Defaulted [] (asList Restriction.decode) (v.part 2 "storageaccounts")
          r.storageAccounts) := by
  simp only [Restrictions.decode, asRecord_eq_ok_iff, Part.seq_eq_pure_iff, Part.map_eq_pure_iff,
    Fields.withDefault_eq_pure_iff, find?_fields, existsAndEq, and_true] at h
  obtain ⟨-, clusters, modules, ⟨hclusters, hmodules⟩, accounts, haccounts, rfl⟩ := h
  have haccounts := Fields.withAlias_eq_pure haccounts
  rw [find?_fields, find?_fields] at haccounts
  exact ⟨hclusters, hmodules, haccounts⟩

/-- Restrictions whose storage accounts go by their first name. -/
theorem Restrictions.decode_eq_ok_iff {members : Members} {r : Restrictions}
    (h : members.lookup "storageaccounts" = Option.none) :
    Restrictions.decode (.object members) = .ok r ↔
      Defaulted [] (asList Restriction.decode) (members.lookup "clusters") r.clusters ∧
      Defaulted [] (asList Restriction.decode) (members.lookup "modules") r.modules ∧
      Defaulted [] (asList Restriction.decode) (members.lookup "storageAccounts")
        r.storageAccounts := by
  have hfind : ((Json.object members).fields ⟨"Restrictions", 3⟩).find? 2 "storageaccounts" =
      Option.none := h
  cases r
  simp [Restrictions.decode, asRecord_eq_ok_iff, Fields.withAlias_eq_withDefault hfind]

theorem Justification.decode_eq_ok_iff {j : Justification} : Justification.decode v = .ok j ↔
    v.IsRecord 4 ∧ Defaulted "" asText (v.part 0 "ID") j.id ∧
      Optional asText (v.part 1 "policySetID") j.policySet ∧
      Optional asText (v.part 2 "description") j.description ∧
      Optional asText (v.part 3 "version") j.version := by
  cases j
  simp [Justification.decode, asRecord_eq_ok_iff, and_assoc]

theorem Decision.decode_eq_ok_iff {d : Decision} : Decision.decode v = .ok d ↔
    v.IsRecord 3 ∧ Defaulted .allowed Deployment.decode (v.part 0 "deploy") d.deploy ∧
      Defaulted .none Restrictions.decode (v.part 1 "restrictions") d.restrictions ∧
      Defaulted .none Justification.decode (v.part 2 "policy") d.justification := by
  cases d
  simp [Decision.decode, asRecord_eq_ok_iff]

theorem Goal.decode_eq_ok_iff {g : Goal} : Goal.decode v = .ok g ↔
    v.IsRecord 3 ∧ Required asText (v.part 0 "attribute") g.attributeName ∧
      Required Directive.decode (v.part 1 "directive") g.directive ∧
      Defaulted defaultWeight decodeWeight (v.part 2 "weight") g.weight := by
  cases g
  simp [Goal.decode, asRecord_eq_ok_iff]

theorem Policy.decode_eq_ok_iff {p : Policy} : Policy.decode v = .ok p ↔
    v.IsRecord 2 ∧
      Defaulted .empty (asSortedMap CapabilityKind.ofName Decision.decode) (v.part 0 "decisions")
        p.decisions ∧
      Defaulted [] (asList Goal.decode) (v.part 1 "optimization") p.goals := by
  cases p
  simp [Policy.decode, asRecord_eq_ok_iff]

theorem Asset.decode_eq_ok_iff {a : Asset} : Asset.decode v = .ok a ↔
    v.IsRecord 2 ∧ Required Interface.decode (v.part 0 "interface") a.interface ∧
      Optional asText (v.part 1 "geography") a.geography := by
  cases a
  simp [Asset.decode, asRecord_eq_ok_iff]

theorem Request.decode_eq_ok_iff {r : Request} : Request.decode v = .ok r ↔
    v.IsRecord 9 ∧ Required asText (v.part 0 "datasetId") r.datasetId ∧
      Defaulted .read Flow.decode (v.part 1 "flow") r.flow ∧
      Required Asset.decode (v.part 2 "details") r.asset ∧
      Required Interface.decode (v.part 3 "requestedInterface") r.requested ∧
      Defaulted false asBool (v.part 4 "newAsset") r.newAsset ∧
      Defaulted [] (asList Action.decode) (v.part 5 "actions") r.actions ∧
      Defaulted .empty Policy.decode (v.part 6 "configuration") r.policy ∧
      Optional Cluster.decode (v.part 7 "workloadCluster") r.workloadCluster ∧
      Defaulted .empty (asSortedMap id (asList Action.decode)) (v.part 8 "storageRequirements")
        r.storageRequirements := by
  cases r
  simp only [Request.decode, asRecord_eq_ok_iff, Part.seq_eq_pure_iff, Part.map_eq_pure_iff,
    Fields.required_eq_pure_iff, Fields.optional_eq_pure_iff, Fields.withDefault_eq_pure_iff,
    find?_fields, existsAndEq, and_true, and_assoc, Request.mk.injEq]

end

end DataRoute
