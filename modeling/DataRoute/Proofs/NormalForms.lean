import DataRoute.Proofs.Restoring

/-! # What is written

The normal form of a value is computed from the value alone, by a table of fields for each type: a
record becomes the object of its fields in their order, each in its normal form, whether it was
given as an object or as a list.  What a table does not name is dropped (`field?_normalRecord`),
except that an open record keeps such members as they are (`field?_normalOpenRecord`).  A field that
is left out is written with its default, and an optional one that is `null` is left out.

What is read from a value is written as its normal form, `Module.normalizes` and its likes say.  So
open records, and only they, are written with members that they do not name (`snapshot_others`), and
with the lemmas on reading again `snapshot_roundTrip` follows. -/

namespace DataRoute

open Json

@[simp] theorem Json.optionalMember_some (name : String) (value : Json) :
    optionalMember name (some value) = [(name, value)] := rfl

/-! ### Normal forms -/

/-- The member that is written for a field that has to be there. -/
def always (normal : Json → Json) : Option Json → Option Json := Option.map normal

/-- The member that is written for a field that may be left out or be `null`. -/
def unlessNull (normal : Json → Json) : Option Json → Option Json
  | some .null => none
  | part => part.map normal

/-- The member that is written for a field with a default. -/
def orElse (default : Json) (normal : Json → Json) (part : Option Json) : Option Json :=
  some (part.elim default normal)

/-- Whether a value is a list or an object with nothing in it. -/
def isBare : Json → Bool
  | .array [] => true
  | .object [] => true
  | _ => false

/-- The member that is written for a list or an object that is left out when it is empty. -/
def unlessBare (normal : Json → Json) (part : Option Json) : Option Json :=
  (part.filter fun v => !isBare v).map normal

/-- A value as it is. -/
def asIs (v : Json) : Json := v

/-- The members that are written for the fields of a record, the first of which has a given
position. -/
def normalMembers (v : Json) : Nat → List (String × (Option Json → Option Json)) → Members
  | _, [] => []
  | n, (name, written) :: rest =>
    optionalMember name (written (v.part n name)) ++ normalMembers v (n + 1) rest

/-- A record with its fields and nothing else. -/
def normalRecord (fields : List (String × (Option Json → Option Json))) (v : Json) : Json :=
  .object (normalMembers v 0 fields)

/-- A record with its fields, and with every member that it does not name as it is. -/
def normalOpenRecord (fields : List (String × (Option Json → Option Json))) : Json → Json
  | .object members =>
    .object
      (normalMembers (.object members) 0 fields ++ Members.without members (fields.map Prod.fst))
  | v => v

section
variable {fields : List (String × (Option Json → Option Json))} {key : String}

theorem lookup_normalMembers (v : Json) (n : Nat) (h : key ∉ fields.map Prod.fst) :
    (normalMembers v n fields).lookup key = none := by
  induction fields generalizing n with
  | nil => rfl
  | cons field rest ih =>
    rw [List.map_cons, List.mem_cons, not_or] at h
    rw [normalMembers, List.lookup_append, lookup_optionalMember, if_neg h.1, ih (n + 1) h.2]
    rfl

/-- A record drops the members that it does not name. -/
theorem field?_normalRecord (v : Json) (h : key ∉ fields.map Prod.fst) :
    (normalRecord fields v).field? key = none :=
  lookup_normalMembers v 0 h

/-- An open record keeps the members that it does not name. -/
theorem field?_normalOpenRecord (v : Json) (h : key ∉ fields.map Prod.fst) :
    (normalOpenRecord fields v).field? key = v.field? key := by
  cases v with
  | object members =>
    rw [normalOpenRecord, field?, field?, List.lookup_append, lookup_normalMembers _ 0 h,
      lookup_without, if_neg h]
    rfl
  | _ => rfl

end

/-- A list of normal forms. -/
def normalList (normal : Json → Json) (v : Json) : Json := .array (v.items.map normal)

/-- A number as a binary number. -/
def normalNumber (v : Json) : Json := v.toFloat?.elim v .ofFloat

/-- A variant by its name. -/
def normalVariant : Json → Json
  | .object ((name, _) :: _) => .text name
  | v => v

def Interface.normalForm : Json → Json :=
  normalRecord [("protocol", always asIs), ("dataformat", unlessNull asIs)]

def Passage.normalForm : Json → Json :=
  normalRecord [("source", unlessNull Interface.normalForm),
    ("sink", unlessNull Interface.normalForm)]

def ServedApi.normalForm : Json → Json :=
  normalRecord [("protocol", always asIs), ("dataformat", unlessNull asIs),
    ("endpoint", unlessNull asIs)]

/-- An action, with all of its arguments. -/
def Action.normalForm : Json → Json := normalOpenRecord [("name", always asIs)]

def Capability.normalForm : Json → Json :=
  normalRecord [("capability", always asIs), ("scope", orElse (.text "asset") asIs),
    ("supportedInterfaces", orElse (.array []) (normalList Passage.normalForm)),
    ("api", unlessNull ServedApi.normalForm),
    ("actions", orElse (.array []) (normalList Action.normalForm))]

def Module.normalForm : Json → Json :=
  normalRecord [("name", always asIs), ("version", unlessNull asIs),
    ("capabilities", orElse (.array []) (normalList Capability.normalForm)),
    ("labels", unlessBare asIs)]

/-- The metadata of a cluster, with everything that they hold. -/
def Cluster.Metadata.normalForm : Json → Json :=
  normalOpenRecord [("region", always asIs), ("zone", unlessNull asIs)]

def Cluster.normalForm : Json → Json :=
  normalRecord [("name", always asIs), ("metadata", always Metadata.normalForm)]

/-- A storage account, with everything that it holds. -/
def StorageAccount.normalForm : Json → Json :=
  normalOpenRecord [("name", always asIs), ("id", unlessNull asIs), ("region", always asIs),
    ("endpoint", unlessNull asIs), ("secretRef", unlessNull asIs)]

def Range.normalForm : Json → Json :=
  normalRecord [("min", unlessNull normalNumber), ("max", unlessNull normalNumber)]

def Attribute.normalForm : Json → Json :=
  normalRecord [("attribute", always asIs), ("description", unlessNull asIs),
    ("metricName", unlessNull asIs), ("value", always asIs), ("object", always normalVariant),
    ("instance", unlessNull asIs), ("arguments", unlessBare (normalList asIs))]

def Metric.normalForm : Json → Json :=
  normalRecord [("name", always asIs), ("type", always normalVariant), ("units", unlessNull asIs),
    ("scale", unlessNull Range.normalForm)]

def Infrastructure.normalForm : Json → Json :=
  normalRecord [("attributes", orElse (.array []) (normalList Attribute.normalForm)),
    ("metrics", orElse (.array []) (normalList Metric.normalForm))]

/-- Whether what is read from a value is written as its normal form. -/
def Normalizes {α : Type} (decode : Decoder α) (encode : α → Json) (normal : Json → Json) : Prop :=
  ∀ v a, decode v = .ok a → encode a = normal v

section normal
variable {α : Type} {decode : Decoder α} {encode : α → Json} {normal : Json → Json}
  {part : Option Json}

theorem Json.Required.normalized {a : α} (h : Required decode part a)
    (hd : Normalizes decode encode normal) : always normal part = some (encode a) := by
  obtain ⟨w, rfl, hwa⟩ := h
  rw [hd w a hwa]
  rfl

theorem Json.Defaulted.normalized {a default : α} (h : Defaulted default decode part a)
    (hd : Normalizes decode encode normal) :
    orElse (encode default) normal part = some (encode a) := by
  rcases h with ⟨rfl, rfl⟩ | ⟨w, rfl, hwa⟩
  · rfl
  · rw [hd w a hwa]
    rfl

theorem Json.Optional.normalized {o : Option α} (h : Optional decode part o)
    (hd : Normalizes decode encode normal) : unlessNull normal part = o.map encode := by
  cases o with
  | none => rcases h with rfl | rfl <;> rfl
  | some a =>
    obtain ⟨w, rfl, hnull, hwa⟩ := h
    rw [Option.map_some, hd w a hwa]
    cases w with
    | null => exact absurd rfl hnull
    | _ => rfl

theorem asText_normalizes : Normalizes asText .text asIs := by
  intro v s h
  cases v with
  | text t =>
    cases h
    rfl
  | _ => cases h

theorem asMembers_normalizes : Normalizes asMembers .object asIs := by
  intro v members h
  cases v with
  | object found =>
    cases h
    rfl
  | _ => cases h

theorem asReal_normalizes : Normalizes asReal .ofFloat normalNumber := by
  intro v x h
  unfold asReal at h
  split at h
  next y hy =>
    cases h
    rw [normalNumber, hy]
    rfl
  next => cases h

theorem asVariant_normalizes {name : α → String} {variants : List (String × α)}
    (h : ∀ e ∈ variants, name e.2 = e.1) :
    Normalizes (asVariant variants) (fun a => .text (name a)) normalVariant := by
  intro v a ha
  have hnamed : ∀ n, variantNamed variants n = .ok a → name a = n := by
    intro n hn
    unfold variantNamed at hn
    split at hn
    next b hb =>
      cases hn
      obtain ⟨before, after, heq, -⟩ := List.lookup_eq_some_iff.1 hb
      exact h _ (heq ▸ List.mem_append_right before List.mem_cons_self)
    next => cases hn
  unfold asVariant at ha
  split at ha
  next n => exact congrArg Json.text (hnamed n ha)
  next n content =>
    obtain ⟨b, hb, hab⟩ := bind_eq_ok_iff.1 ha
    split at hab
    next =>
      cases hab
      exact congrArg Json.text (hnamed n hb)
    next => cases hab
  all_goals cases ha

theorem asList_normalizes (hd : Normalizes decode encode normal) :
    Normalizes (asList decode) (fun l => .array (l.map encode)) (normalList normal) := by
  intro v l h
  obtain ⟨items, rfl, hitems⟩ := asList_eq_ok_iff.1 h
  refine congrArg Json.array ?_
  clear h
  induction hitems with
  | nil => rfl
  | cons hw _ ih => rw [List.map_cons, ih, hd _ _ hw]; rfl

theorem Json.Defaulted.normalized_unlessBare {a default : α} [Decidable (a = default)]
    (h : Defaulted default decode part a) (hd : Normalizes decode encode normal)
    (hbare : ∀ v b, decode v = .ok b → (isBare v ↔ b = default)) :
    unlessBare normal part = if a = default then none else some (encode a) := by
  rcases h with ⟨rfl, rfl⟩ | ⟨w, rfl, hwa⟩
  · rw [if_pos rfl]
    rfl
  · have hw := hbare w a hwa
    split
    next ha => simp [unlessBare, hw.2 ha]
    next ha => simp [unlessBare, mt hw.1 ha, hd w a hwa]

theorem isBare_iff_of_asList {w : Json} {l : List α} (h : asList decode w = .ok l) :
    isBare w ↔ l = [] := by
  obtain ⟨items, rfl, hitems⟩ := asList_eq_ok_iff.1 h
  cases hitems <;> simp [isBare]

theorem isBare_iff_of_asMembers {w : Json} {members : Members} (h : asMembers w = .ok members) :
    isBare w ↔ members = [] := by
  cases w with
  | object found =>
    cases h
    cases members <;> simp [isBare]
  | _ => cases h

theorem Json.Defaulted.normalized_list {l : List α} (h : Defaulted [] (asList decode) part l)
    (hd : Normalizes decode encode normal) :
    orElse (.array []) (normalList normal) part = some (.array (l.map encode)) :=
  h.normalized (asList_normalizes hd)

end normal

/-! ### The types of a snapshot -/

theorem Interface.normalizes : Normalizes decode encode normalForm := by
  intro v i h
  obtain ⟨-, hprotocol, hformat⟩ := decode_eq_ok_iff.1 h
  have hprotocol := hprotocol.normalized asText_normalizes
  have hformat := hformat.normalized asText_normalizes
  simp [normalForm, normalRecord, normalMembers, hprotocol, hformat, encode, Interface.members]

theorem Passage.normalizes : Normalizes decode encode normalForm := by
  intro v p h
  obtain ⟨-, hsource, hsink⟩ := decode_eq_ok_iff.1 h
  have hsource := hsource.normalized Interface.normalizes
  have hsink := hsink.normalized Interface.normalizes
  simp [normalForm, normalRecord, normalMembers, hsource, hsink, encode]

theorem ServedApi.normalizes : Normalizes decode encode normalForm := by
  intro v a h
  obtain ⟨members, rfl, haddress, hprotocol, hformat⟩ := decode_eq_ok_iff.1 h
  have haddress := haddress.normalized asText_normalizes
  have hprotocol := hprotocol.normalized asText_normalizes
  have hformat := hformat.normalized asText_normalizes
  simp [normalForm, normalRecord, normalMembers, haddress, hprotocol, hformat, encode,
    Interface.members]

theorem Action.normalizes : Normalizes decode encode normalForm := by
  intro v a h
  obtain ⟨members, rfl, hname, harguments⟩ := decode_eq_ok_iff.1 h
  have hname := hname.normalized asText_normalizes
  simp [normalForm, normalOpenRecord, normalMembers, hname, harguments, encode]

theorem CapabilityKind.normalizes : Normalizes decode (fun k => .text k.name) asIs := by
  intro v k h
  cases v with
  | text s =>
    cases h
    exact congrArg Json.text (name_ofName s)
  | _ => cases h

theorem CapabilityScope.normalizes : Normalizes decode (fun s => .text s.name) asIs := by
  intro v k h
  cases v with
  | text s =>
    cases h
    exact congrArg Json.text (name_ofName s)
  | _ => cases h

theorem Capability.normalizes : Normalizes decode encode normalForm := by
  intro v c h
  obtain ⟨-, hkind, hscope, hpassages, hapi, hactions⟩ := decode_eq_ok_iff.1 h
  have hkind := hkind.normalized CapabilityKind.normalizes
  have hscope : orElse (.text "asset") asIs (v.part 1 "scope") = some (.text c.scope.name) :=
    hscope.normalized CapabilityScope.normalizes
  have hpassages := hpassages.normalized_list Passage.normalizes
  have hapi := hapi.normalized ServedApi.normalizes
  have hactions := hactions.normalized_list Action.normalizes
  simp [normalForm, normalRecord, normalMembers, hkind, hscope, hpassages, hapi, hactions, encode]

theorem Module.normalizes : Normalizes decode encode normalForm := by
  intro v m h
  obtain ⟨-, hname, hversion, hcapabilities, hlabels⟩ := decode_eq_ok_iff.1 h
  have hname := hname.normalized asText_normalizes
  have hversion := hversion.normalized asText_normalizes
  have hcapabilities := hcapabilities.normalized_list Capability.normalizes
  have hlabels := hlabels.normalized_unlessBare asMembers_normalizes
    fun _ _ => isBare_iff_of_asMembers
  rw [encode, labels_eq]
  simp [normalForm, normalRecord, normalMembers, hname, hversion, hcapabilities, hlabels]

theorem Cluster.Metadata.normalizes : Normalizes decode encode normalForm := by
  intro v m h
  obtain ⟨members, rfl, hregion, hzone, hextra⟩ := decode_eq_ok_iff.1 h
  have hregion := hregion.normalized asText_normalizes
  have hzone := hzone.normalized asText_normalizes
  simp [normalForm, normalOpenRecord, normalMembers, hregion, hzone, hextra, encode]

theorem Cluster.normalizes : Normalizes decode encode normalForm := by
  intro v c h
  obtain ⟨-, hname, hmetadata⟩ := decode_eq_ok_iff.1 h
  have hname := hname.normalized asText_normalizes
  have hmetadata := hmetadata.normalized Metadata.normalizes
  simp [normalForm, normalRecord, normalMembers, hname, hmetadata, encode, Metadata.encode]

theorem StorageAccount.normalizes : Normalizes decode encode normalForm := by
  intro v a h
  obtain ⟨members, rfl, hname, hid, hregion, haddress, hsecret, hextra⟩ := decode_eq_ok_iff.1 h
  have hname := hname.normalized asText_normalizes
  have hid := hid.normalized asText_normalizes
  have hregion := hregion.normalized asText_normalizes
  have haddress := haddress.normalized asText_normalizes
  have hsecret := hsecret.normalized asText_normalizes
  rw [fieldNames] at hextra
  simp [normalForm, normalOpenRecord, normalMembers, hname, hid, hregion, haddress, hsecret, hextra,
    encode]

theorem Range.normalizes : Normalizes decode encode normalForm := by
  intro v r h
  obtain ⟨-, hmin, hmax⟩ := decode_eq_ok_iff.1 h
  have hmin := hmin.normalized asReal_normalizes
  have hmax := hmax.normalized asReal_normalizes
  simp [normalForm, normalRecord, normalMembers, hmin, hmax, encode]

theorem ObjectKind.normalizes : Normalizes decode (fun k => .text k.name) normalVariant :=
  asVariant_normalizes (by decide)

theorem MetricKind.normalizes :
    Normalizes (asVariant variants) (fun k => .text k.name) normalVariant :=
  asVariant_normalizes (by decide)

theorem Attribute.normalizes : Normalizes decode encode normalForm := by
  intro v a h
  obtain ⟨-, hname, hdescription, hmetric, hvalue, hobject, hinstance, harguments⟩ :=
    decode_eq_ok_iff.1 h
  have hname := hname.normalized asText_normalizes
  have hdescription := hdescription.normalized asText_normalizes
  have hmetric := hmetric.normalized asText_normalizes
  have hvalue := hvalue.normalized asText_normalizes
  have hobject := hobject.normalized ObjectKind.normalizes
  have hinstance := hinstance.normalized asText_normalizes
  have harguments := harguments.normalized_unlessBare (asList_normalizes asText_normalizes)
    fun _ _ => isBare_iff_of_asList
  simp [normalForm, normalRecord, normalMembers, hname, hdescription, hmetric, hvalue, hobject,
    hinstance, harguments, encode, listMember_eq]

theorem Metric.normalizes : Normalizes decode encode normalForm := by
  intro v m h
  obtain ⟨-, hname, hkind, hunits, hscale⟩ := decode_eq_ok_iff.1 h
  have hname := hname.normalized asText_normalizes
  have hkind := hkind.normalized MetricKind.normalizes
  have hunits := hunits.normalized asText_normalizes
  have hscale := hscale.normalized Range.normalizes
  simp [normalForm, normalRecord, normalMembers, hname, hkind, hunits, hscale, encode]

theorem Infrastructure.normalizes : Normalizes decode encode normalForm := by
  intro v infra h
  obtain ⟨-, hattributes, hmetrics⟩ := decode_eq_ok_iff.1 h
  have hattributes := hattributes.normalized_list Attribute.normalizes
  have hmetrics := hmetrics.normalized_list Metric.normalizes
  simp [normalForm, normalRecord, normalMembers, hattributes, hmetrics, encode]

/-! ### Members that are not known -/

/-- Whether what is read is written with members of these names only. -/
def DropsOthers {α : Type} (decode : Decoder α) (encode : α → Json) (names : List String) : Prop :=
  ∀ v a, decode v = .ok a → ∀ key ∉ names, (encode a).field? key = none

/-- Whether what is read from a value is written with the members of the value, those of these names
aside. -/
def KeepsOthers {α : Type} (decode : Decoder α) (encode : α → Json) (names : List String) : Prop :=
  ∀ v a, decode v = .ok a → ∀ key ∉ names, (encode a).field? key = v.field? key

section others
variable {α : Type} {decode : Decoder α} {encode : α → Json}
  {fields : List (String × (Option Json → Option Json))}

theorem Normalizes.dropsOthers (h : Normalizes decode encode (normalRecord fields)) :
    DropsOthers decode encode (fields.map Prod.fst) := by
  intro v a ha key hkey
  rw [h v a ha]
  exact field?_normalRecord v hkey

theorem Normalizes.keepsOthers (h : Normalizes decode encode (normalOpenRecord fields)) :
    KeepsOthers decode encode (fields.map Prod.fst) := by
  intro v a ha key hkey
  rw [h v a ha]
  exact field?_normalOpenRecord v hkey

end others

/-- **Three records keep the members that they do not name.**  An action, the metadata of a cluster
and a storage account are written with every other member of the value they were read from.  All
other records are written with members that they name, and with no others. -/
theorem snapshot_others :
    (KeepsOthers Action.decode Action.encode ["name"] ∧
      KeepsOthers Cluster.Metadata.decode Cluster.Metadata.encode ["region", "zone"] ∧
      KeepsOthers StorageAccount.decode StorageAccount.encode
        ["name", "id", "region", "endpoint", "secretRef"]) ∧
    (DropsOthers Module.decode Module.encode ["name", "version", "capabilities", "labels"] ∧
      DropsOthers Capability.decode Capability.encode
        ["capability", "scope", "supportedInterfaces", "api", "actions"] ∧
      DropsOthers Passage.decode Passage.encode ["source", "sink"] ∧
      DropsOthers Interface.decode Interface.encode ["protocol", "dataformat"] ∧
      DropsOthers ServedApi.decode ServedApi.encode ["protocol", "dataformat", "endpoint"]) ∧
    DropsOthers Cluster.decode Cluster.encode ["name", "metadata"] ∧
    (DropsOthers Infrastructure.decode Infrastructure.encode ["attributes", "metrics"] ∧
      DropsOthers Attribute.decode Attribute.encode
        ["attribute", "description", "metricName", "value", "object", "instance", "arguments"] ∧
      DropsOthers Metric.decode Metric.encode ["name", "type", "units", "scale"] ∧
      DropsOthers Range.decode Range.encode ["min", "max"]) := by
  refine ⟨⟨?_, ?_, ?_⟩, ⟨?_, ?_, ?_, ?_, ?_⟩, ?_, ?_, ?_, ?_, ?_⟩
  · exact Action.normalizes.keepsOthers
  · exact Cluster.Metadata.normalizes.keepsOthers
  · exact StorageAccount.normalizes.keepsOthers
  · exact Module.normalizes.dropsOthers
  · exact Capability.normalizes.dropsOthers
  · exact Passage.normalizes.dropsOthers
  · exact Interface.normalizes.dropsOthers
  · exact ServedApi.normalizes.dropsOthers
  · exact Cluster.normalizes.dropsOthers
  · exact Infrastructure.normalizes.dropsOthers
  · exact Attribute.normalizes.dropsOthers
  · exact Metric.normalizes.dropsOthers
  · exact Range.normalizes.dropsOthers

/-! ### Snapshots -/

/-- **The parts of a snapshot survive writing.** What is read as a module, a cluster, a storage
account or infrastructure attributes is written as the normal form of the value it was read from,
and read from that again.  The normal form keeps every member of an action, of the metadata of a
cluster and of a storage account, and drops what is not known elsewhere.  Only infrastructure has
fields that are numbers, and there those of the value have to be such as a text can give. -/
theorem snapshot_roundTrip (v : Json) :
    (∀ m, Module.decode v = .ok m →
      Module.decode m.encode = .ok m ∧ m.encode = Module.normalForm v) ∧
    (∀ c, Cluster.decode v = .ok c →
      Cluster.decode c.encode = .ok c ∧ c.encode = Cluster.normalForm v) ∧
    (∀ a, StorageAccount.decode v = .ok a →
      StorageAccount.decode a.encode = .ok a ∧ a.encode = StorageAccount.normalForm v) ∧
    (v.isRepresentable → ∀ infra, Infrastructure.decode v = .ok infra →
      Infrastructure.decode infra.encode = .ok infra ∧
        infra.encode = Infrastructure.normalForm v) := by
  refine ⟨fun m h => ⟨?_, ?_⟩, fun c h => ⟨?_, ?_⟩, fun a h => ⟨?_, ?_⟩, fun hv infra h => ⟨?_, ?_⟩⟩
  · exact (Module.restores v m h).2
  · exact Module.normalizes v m h
  · exact (Cluster.restores v c h).2
  · exact Cluster.normalizes v c h
  · exact (StorageAccount.restores v a h).2
  · exact StorageAccount.normalizes v a h
  · exact (Infrastructure.restores hv infra h).2
  · exact Infrastructure.normalizes v infra h

namespace Sample

/-- A module with an unknown member and with a capability that is given as a list of its fields. -/
def moduleValue : Json := .object [("name", .text "reader"), ("vendor", .text "none"),
  ("capabilities", .array [.array [.text "read", .text "workload", .array [],
    .object [("protocol", .text "flight"), ("port", .int 8080)],
    .array [.object [("name", .text "Redact"), ("columns", .array [.text "ssn"])]]]])]

/-- A cluster that is given as a list of its fields. -/
def clusterValue : Json :=
  .array [.text "edge", .object [("owner", .text "ops"), ("region", .text "eu"), ("zone", .null)]]

/-- A storage account with members of its own. -/
def accountValue : Json :=
  .object [("name", .text "lake"), ("region", .text "eu"), ("tier", .object [("hot", .bool true)])]

/-- Attributes and metrics with an unknown member and a scale in integers. -/
def infrastructureValue : Json := .object [("note", .text "draft"),
  ("metrics", .array [.object [("name", .text "price"), ("type", .object [("numeric", .null)]),
    ("scale", .array [.int 0, .int 10])]])]

end Sample

theorem sample_snapshot_roundTrip :
    (∃ m, Module.decode Sample.moduleValue = .ok m ∧ Module.decode m.encode = .ok m ∧
      m.encode = .object [("name", .text "reader"),
        ("capabilities", .array [.object [("capability", .text "read"), ("scope", .text "workload"),
          ("supportedInterfaces", .array []), ("api", .object [("protocol", .text "flight")]),
          ("actions", .array [.object [("name", .text "Redact"),
            ("columns", .array [.text "ssn"])]])]])]) ∧
    (∃ c, Cluster.decode Sample.clusterValue = .ok c ∧ Cluster.decode c.encode = .ok c ∧
      c.encode = .object [("name", .text "edge"),
        ("metadata", .object [("region", .text "eu"), ("owner", .text "ops")])]) ∧
    (∃ a, StorageAccount.decode Sample.accountValue = .ok a ∧
      StorageAccount.decode a.encode = .ok a ∧ a.encode = Sample.accountValue) ∧
    (Sample.infrastructureValue.isRepresentable ∧
      ∃ infra, Infrastructure.decode Sample.infrastructureValue = .ok infra ∧
        Infrastructure.decode infra.encode = .ok infra ∧
        infra.encode = .object [("attributes", .array []),
          ("metrics", .array [.object [("name", .text "price"), ("type", .text "numeric"),
            ("scale", .object [("min", .float 0), ("max", .float 10)])]])]) := by
  have hmodule := (snapshot_roundTrip Sample.moduleValue).1 _ rfl
  have hcluster := (snapshot_roundTrip Sample.clusterValue).2.1 _ rfl
  have haccount := (snapshot_roundTrip Sample.accountValue).2.2.1 _ rfl
  have hrepresentable : Sample.infrastructureValue.isRepresentable := by decide
  have hinfrastructure :=
    (snapshot_roundTrip Sample.infrastructureValue).2.2.2 hrepresentable _ rfl
  exact ⟨⟨_, rfl, hmodule.1, hmodule.2⟩, ⟨_, rfl, hcluster.1, hcluster.2⟩,
    ⟨_, rfl, haccount.1, haccount.2⟩, hrepresentable,
    ⟨_, rfl, hinfrastructure.1, hinfrastructure.2⟩⟩

end DataRoute
