import DataRoute.Document.Load
import DataRoute.Proofs.Records

/-! # What a schema accepts is read

Whether a value is read comes down to the fields of a record and the items of a list: `Part.Holds`
says that a field is there and has a value, and the lemmas on it and on `Reads` follow the readers.
The schemas are taken apart in the same way (`Schema.accepts_record_iff` and its likes).  Type by
type, what the schema accepts is read (`Attribute.reads` and its likes), down to the api of a
capability: its schema is the schema of an interface, which leaves the address open, and so exactly
those apis are read whose address is a text, `null` or left out (`ServedApi.reads_iff`).  For a
whole document this is `schema_agreement`. -/

namespace DataRoute

open Json

/-! ### What a schema accepts -/

namespace Schema
variable {v : Json}

theorem accepts_iff {schema : Schema} : schema.accepts v ↔ schema.violations v = [] :=
  List.isEmpty_iff

theorem accepts_text_iff {minLength : Nat} :
    (text minLength).accepts v ↔ ∃ s, v = .text s ∧ minLength ≤ s.length := by
  cases v <;> simp [accepts_iff, violations, here]

theorem accepts_choice_iff {allowed : List String} :
    (choice allowed).accepts v ↔ ∃ s, v = .text s ∧ s ∈ allowed := by
  cases v <;> simp [accepts_iff, violations, here]

theorem accepts_number_iff : number.accepts v ↔ (∃ n, v = .int n) ∨ ∃ x, v = .float x := by
  cases v <;> simp [accepts_iff, violations, here]

theorem itemViolations_eq_nil_iff {check : Json → List Violation} {n : Nat} {values : List Json} :
    itemViolations check n values = [] ↔ ∀ w ∈ values, check w = [] := by
  induction values generalizing n with
  | nil => simp [itemViolations]
  | cons head rest ih => simp [itemViolations, ih]

theorem accepts_list_iff {items : Schema} :
    (list items).accepts v ↔ ∃ values, v = .array values ∧ ∀ w ∈ values, items.accepts w := by
  cases v <;> simp [accepts_iff, violations, here, itemViolations_eq_nil_iff]

/-- Whether the members that a record names fit, those that are there. -/
def Fit : List (String × Schema) → Members → Prop
  | [], _ => True
  | (name, schema) :: rest, found =>
    (∀ w, found.lookup name = some w → schema.accepts w) ∧ Fit rest found

/-- Whether the members that a record requires are there. -/
def Present : List String → Members → Prop
  | [], _ => True
  | name :: rest, found => (∃ w, found.lookup name = some w) ∧ Present rest found

theorem memberViolations_eq_nil_iff {members : List (String × Schema)} {found : Members} :
    memberViolations members found = [] ↔ Fit members found := by
  induction members with
  | nil => simp [memberViolations, Fit]
  | cons head rest ih =>
    rw [memberViolations, List.append_eq_nil_iff, ih, Fit]
    cases found.lookup head.1 <;> simp [accepts_iff]

theorem missing_eq_nil_iff {required : List String} {found : Members} :
    ((required.filter fun name => (found.lookup name).isNone).flatMap
      fun name => here (.missing name)) = [] ↔ Present required found := by
  induction required with
  | nil => simp [Present]
  | cons name rest ih =>
    rw [Present, ← ih, List.filter_cons]
    cases found.lookup name <;> simp [here]

theorem accepts_record_iff {members : List (String × Schema)} {required : List String} :
    (record members required).accepts v ↔
      ∃ found, v = .object found ∧ Fit members found ∧ Present required found := by
  cases v with
  | object found =>
    rw [accepts_iff, violations, List.append_eq_nil_iff, memberViolations_eq_nil_iff,
      missing_eq_nil_iff]
    simp
  | _ => simp [accepts_iff, violations, here]

end Schema

/-! ### What can be read -/

/-- Whether a value can be read. -/
def Reads {α : Type} (decode : Decoder α) (v : Json) : Prop := ∃ a, decode v = .ok a

/-- Whether a part of a record is there and has a value. -/
def Json.Part.Holds {α : Type} (p : Json.Part α) : Prop := ∃ a, p = pure a

section reads
variable {α β : Type} {decode : Decoder α} {v : Json} {fields : Fields} {position : Nat}
  {name : String} {default : α}

@[simp] theorem map_holds_iff {f : α → β} {p : Json.Part α} : (f <$> p).Holds ↔ p.Holds := by
  simp [Part.Holds]

@[simp] theorem seq_holds_iff {f : Json.Part (α → β)} {p : Json.Part α} :
    (f <*> p).Holds ↔ f.Holds ∧ p.Holds := by
  simp only [Part.Holds, Part.seq_eq_pure_iff]
  constructor
  · rintro ⟨_, g, hg, a, ha, _⟩
    exact ⟨⟨g, hg⟩, ⟨a, ha⟩⟩
  · rintro ⟨⟨g, hg⟩, ⟨a, ha⟩⟩
    exact ⟨g a, g, hg, a, ha, rfl⟩

@[simp] theorem required_holds_iff : (fields.required position name decode).Holds ↔
    ∃ w, fields.find? position name = some w ∧ Reads decode w := by
  simp only [Part.Holds, Fields.required_eq_pure_iff, Required, Reads]
  rw [exists_comm]
  simp

@[simp] theorem withDefault_holds_iff :
    (fields.withDefault position name default decode).Holds ↔
      ∀ w, fields.find? position name = some w → Reads decode w := by
  simp only [Part.Holds, Fields.withDefault_eq_pure_iff, Defaulted, Required, Reads]
  cases fields.find? position name <;> simp

@[simp] theorem optional_holds_iff : (fields.optional position name decode).Holds ↔
    ∀ w, fields.find? position name = some w → w = .null ∨ Reads decode w := by
  unfold Fields.optional
  rw [withDefault_holds_iff]
  refine forall₂_congr fun w _ => ?_
  by_cases hnull : w = .null
  · subst hnull
    exact iff_of_true ⟨none, rfl⟩ (.inl rfl)
  · rw [Reads, asOption_of_ne_null hnull, or_iff_right hnull, Reads]
    cases decode w <;> simp [Except.map]

theorem asRecord_reads_iff {record : RecordType} {read : Fields → Json.Part α} :
    Reads (asRecord record read) v ↔ v.IsRecord record.size ∧ (read (v.fields record)).Holds := by
  simp [Reads, asRecord_eq_ok_iff, Part.Holds]

theorem mapM_reads_iff {values : List Json} :
    (∃ l, values.mapM decode = .ok l) ↔ ∀ w ∈ values, Reads decode w := by
  simp only [mapM_eq_ok_iff]
  induction values with
  | nil => simp
  | cons head rest ih =>
    rw [List.forall_mem_cons, ← ih]
    constructor
    · rintro ⟨_, hl⟩
      cases hl with
      | cons hhead hrest => exact ⟨⟨_, hhead⟩, ⟨_, hrest⟩⟩
    · rintro ⟨⟨a, ha⟩, ⟨l, hl⟩⟩
      exact ⟨a :: l, .cons ha hl⟩

theorem asList_reads_iff : Reads (asList decode) v ↔
    ∃ values, v = .array values ∧ ∀ w ∈ values, Reads decode w := by
  cases v with
  | array values => exact mapM_reads_iff.trans (by simp)
  | _ => simp [Reads, asList]

end reads

/-- The items of a member that is a list. -/
def Json.itemsAt (name : String) (v : Json) : List Json := (v.field? name).elim [] Json.items

theorem itemsAt_object (name : String) (found : Members) :
    (object found).itemsAt name = (found.lookup name).elim [] items := rfl

section members
variable {α : Type} {decode : Decoder α} {schema : Schema} {found : Members} {name : String}

theorem reads_items_iff {p : Json → Prop}
    (h : ∀ w, found.lookup name = some w → (Schema.list schema).accepts w)
    (hd : ∀ u, schema.accepts u → (Reads decode u ↔ p u)) :
    (∀ w, found.lookup name = some w → Reads (asList decode) w) ↔
      ∀ u ∈ (Json.object found).itemsAt name, p u := by
  rw [itemsAt_object]
  cases hw : found.lookup name with
  | none => simp
  | some w =>
    obtain ⟨values, rfl, hvalues⟩ := Schema.accepts_list_iff.1 (h w hw)
    simp only [Option.some.injEq, forall_eq', Option.elim_some, asList_reads_iff, array.injEq,
      exists_eq_left', items]
    exact forall₂_congr fun u hu => hd u (hvalues u hu)

theorem required_holds {position : Nat} (hthere : ∃ w, found.lookup name = some w)
    (h : ∀ w, found.lookup name = some w → schema.accepts w)
    (hd : ∀ w, schema.accepts w → Reads decode w) :
    ((Fields.named found).required position name decode).Holds := by
  obtain ⟨w, hw⟩ := hthere
  exact required_holds_iff.2 ⟨w, hw, hd w (h w hw)⟩

theorem optional_holds {position : Nat} (h : ∀ w, found.lookup name = some w → schema.accepts w)
    (hd : ∀ w, schema.accepts w → Reads decode w) :
    ((Fields.named found).optional position name decode).Holds :=
  optional_holds_iff.2 fun w hw => .inr (hd w (h w hw))

theorem withDefault_holds {position : Nat} {default : α}
    (h : ∀ w, found.lookup name = some w → schema.accepts w)
    (hd : ∀ w, schema.accepts w → Reads decode w) :
    ((Fields.named found).withDefault position name default decode).Holds :=
  withDefault_holds_iff.2 fun w hw => hd w (h w hw)

theorem reads_asList (hd : ∀ w, schema.accepts w → Reads decode w) (v : Json)
    (h : (Schema.list schema).accepts v) : Reads (asList decode) v := by
  obtain ⟨values, rfl, hvalues⟩ := Schema.accepts_list_iff.1 h
  exact asList_reads_iff.2 ⟨values, rfl, fun w hw => hd w (hvalues w hw)⟩

theorem reads_asRecord_iff {record : RecordType} {read : Fields → Json.Part α} :
    Reads (asRecord record read) (.object found) ↔ (read (.named found)).Holds :=
  asRecord_reads_iff.trans (and_iff_right trivial)

theorem reads_asOpenRecord {record : String} {read : Members → Json.Part α}
    (h : (read found).Holds) :
    Reads (asOpenRecord record fun members => (read members).result) (.object found) := by
  obtain ⟨a, ha⟩ := h
  exact ⟨a, Part.result_eq_ok_iff.2 ha⟩

end members

/-! ### The types of a document -/

section types
variable {v : Json}

open Document Schema

theorem reads_asText {n : Nat} (v : Json) (h : (Schema.text n).accepts v) : Reads asText v := by
  obtain ⟨s, rfl, -⟩ := accepts_text_iff.1 h
  exact ⟨s, rfl⟩

theorem reads_asReal (v : Json) (h : Schema.number.accepts v) : Reads asReal v := by
  obtain ⟨_ | _, rfl⟩ | ⟨x, rfl⟩ := accepts_number_iff.1 h <;> exact ⟨_, rfl⟩

theorem reads_asMembers (v : Json) (h : anyRecord.accepts v) : Reads asMembers v := by
  obtain ⟨found, rfl, -⟩ := accepts_record_iff.1 h
  exact ⟨found, rfl⟩

theorem Interface.read_holds {found : Members} (h : interfaceSchema.accepts (.object found)) :
    (Interface.read (.named found)).Holds := by
  obtain ⟨_, ⟨⟩, ⟨hformat, hprotocol, -⟩, hthere, -⟩ := accepts_record_iff.1 h
  simp only [Interface.read, seq_holds_iff, map_holds_iff]
  exact ⟨required_holds hthere hprotocol reads_asText, optional_holds hformat reads_asText⟩

theorem Interface.reads (v : Json) (h : interfaceSchema.accepts v) : Reads decode v := by
  obtain ⟨found, rfl, -⟩ := accepts_record_iff.1 h
  exact reads_asRecord_iff.2 (read_holds h)

theorem Passage.reads (v : Json) (h : passageSchema.accepts v) : Reads decode v := by
  obtain ⟨found, rfl, ⟨hsink, hsource, -⟩, -⟩ := accepts_record_iff.1 h
  refine reads_asRecord_iff.2 ?_
  simp only [seq_holds_iff, map_holds_iff]
  exact ⟨optional_holds hsource Interface.reads,
    optional_holds hsink Interface.reads⟩

theorem Action.reads (v : Json) (h : actionSchema.accepts v) : Reads decode v := by
  obtain ⟨found, rfl, ⟨hname, -⟩, hthere, -⟩ := accepts_record_iff.1 h
  exact reads_asOpenRecord (map_holds_iff.2 (required_holds hthere hname reads_asText))

theorem CapabilityKind.reads (v : Json) (h : someText.accepts v) : Reads decode v := by
  obtain ⟨s, rfl, -⟩ := accepts_text_iff.1 h
  exact ⟨_, rfl⟩

theorem CapabilityScope.reads (v : Json) (h : anyText.accepts v) : Reads decode v := by
  obtain ⟨s, rfl, -⟩ := accepts_text_iff.1 h
  exact ⟨_, rfl⟩

theorem Cluster.Metadata.reads (v : Json)
    (h : (record [("region", anyText), ("zone", anyText)] ["region"]).accepts v) :
    Reads decode v := by
  obtain ⟨found, rfl, ⟨hregion, hzone, -⟩, hthere, -⟩ := accepts_record_iff.1 h
  refine reads_asOpenRecord ?_
  simp only [seq_holds_iff, map_holds_iff]
  exact ⟨required_holds hthere hregion reads_asText,
    optional_holds hzone reads_asText⟩

theorem Cluster.reads (v : Json) (h : clusterSchema.accepts v) : Reads decode v := by
  obtain ⟨found, rfl, ⟨hmetadata, hname, -⟩, hnameThere, hmetadataThere, -⟩ :=
    accepts_record_iff.1 h
  refine reads_asRecord_iff.2 ?_
  simp only [seq_holds_iff, map_holds_iff]
  exact ⟨required_holds hnameThere hname reads_asText,
    required_holds hmetadataThere hmetadata Metadata.reads⟩

theorem Range.reads (v : Json) (h : rangeSchema.accepts v) : Reads decode v := by
  obtain ⟨found, rfl, ⟨hmax, hmin, -⟩, -⟩ := accepts_record_iff.1 h
  refine reads_asRecord_iff.2 ?_
  simp only [seq_holds_iff, map_holds_iff]
  exact ⟨optional_holds hmin reads_asReal,
    optional_holds hmax reads_asReal⟩

theorem StorageAccount.reads (v : Json) (h : storageAccountSchema.accepts v) : Reads decode v := by
  obtain ⟨found, rfl, ⟨haddress, hid, hname, hregion, hsecret, -⟩, hnameThere, hregionThere, -⟩ :=
    accepts_record_iff.1 h
  refine reads_asOpenRecord ?_
  simp only [seq_holds_iff, map_holds_iff, and_assoc]
  exact ⟨required_holds hnameThere hname reads_asText,
    optional_holds hid reads_asText,
    required_holds hregionThere hregion reads_asText,
    optional_holds haddress reads_asText,
    optional_holds hsecret reads_asText⟩

theorem ObjectKind.reads (v : Json) (h : (choice ["fybrikmodule", "cluster",
    "fybrikstorageaccount", "inter-region"]).accepts v) : Reads decode v := by
  obtain ⟨s, rfl, hs⟩ := accepts_choice_iff.1 h
  simp only [List.mem_cons, List.not_mem_nil, or_false] at hs
  rcases hs with rfl | rfl | rfl | rfl <;> exact ⟨_, rfl⟩

theorem MetricKind.reads (v : Json) (h : (choice ["numeric", "string", "bool"]).accepts v) :
    Reads (asVariant variants) v := by
  obtain ⟨s, rfl, hs⟩ := accepts_choice_iff.1 h
  simp only [List.mem_cons, List.not_mem_nil, or_false] at hs
  rcases hs with rfl | rfl | rfl <;> exact ⟨_, rfl⟩

theorem Attribute.reads (v : Json) (h : attributeSchema.accepts v) : Reads decode v := by
  obtain ⟨found, rfl,
    ⟨harguments, hname, hdescription, hinstance, hmetric, hobject, hvalue, -⟩,
    hnameThere, hvalueThere, hobjectThere, -⟩ := accepts_record_iff.1 h
  refine reads_asRecord_iff.2 ?_
  simp only [seq_holds_iff, map_holds_iff, and_assoc]
  exact ⟨required_holds hnameThere hname reads_asText,
    optional_holds hdescription reads_asText,
    optional_holds hmetric reads_asText,
    required_holds hvalueThere hvalue reads_asText,
    required_holds hobjectThere hobject ObjectKind.reads,
    optional_holds hinstance reads_asText,
    withDefault_holds harguments (reads_asList reads_asText)⟩

theorem Metric.reads (v : Json) (h : metricSchema.accepts v) : Reads decode v := by
  obtain ⟨found, rfl, ⟨hname, hscale, hkind, hunits, -⟩, hnameThere, hkindThere, -⟩ :=
    accepts_record_iff.1 h
  refine reads_asRecord_iff.2 ?_
  simp only [seq_holds_iff, map_holds_iff, and_assoc]
  exact ⟨required_holds hnameThere hname reads_asText,
    required_holds hkindThere hkind MetricKind.reads,
    optional_holds hunits reads_asText,
    optional_holds hscale Range.reads⟩

theorem Infrastructure.reads (v : Json) (h : infrastructureSchema.accepts v) :
    Reads decode v := by
  obtain ⟨found, rfl, ⟨hattributes, hmetrics, -⟩, -⟩ := accepts_record_iff.1 h
  refine reads_asRecord_iff.2 ?_
  simp only [seq_holds_iff, map_holds_iff]
  exact ⟨withDefault_holds hattributes (reads_asList Attribute.reads),
    withDefault_holds hmetrics (reads_asList Metric.reads)⟩

end types

/-! ### Addresses of apis -/

section addresses
variable {v : Json}

open Document Schema

/-- Whether the address of an api is left out, `null` or a text. -/
def ServedApi.hasTextAddress (api : Json) : Bool :=
  match api.field? "endpoint" with
  | none => true
  | some .null => true
  | some (.text _) => true
  | _ => false

theorem ServedApi.hasTextAddress_iff {found : Members} : hasTextAddress (.object found) ↔
    ((Fields.named found).optional 1 "endpoint" asText).Holds := by
  rw [optional_holds_iff, find?_named, hasTextAddress, field?]
  cases found.lookup "endpoint" with
  | none => simp
  | some w => cases w <;> simp [Reads, asText]

/-- Of what a schema accepts as an api, exactly what has a text for its address can be read. -/
theorem ServedApi.reads_iff {api : Json} (h : interfaceSchema.accepts api) :
    Reads decode api ↔ hasTextAddress api := by
  obtain ⟨found, rfl, -⟩ := accepts_record_iff.1 h
  obtain ⟨i, hi⟩ := Interface.read_holds h
  rw [hasTextAddress_iff]
  simp [Reads, decode, asOpenRecord, Part.Holds, bind_eq_ok_iff, hi]

theorem Capability.reads_iff (v : Json) (h : capabilitySchema.accepts v) : Reads decode v ↔
    ∀ api, v.field? "api" = some api → ServedApi.hasTextAddress api := by
  obtain ⟨found, rfl, ⟨hactions, hapi, hkind, hscope, hpassages, -⟩, hthere, -⟩ :=
    accepts_record_iff.1 h
  have hkind : ((Fields.named found).required 0 "capability" CapabilityKind.decode).Holds :=
    required_holds hthere hkind CapabilityKind.reads
  have hscope : ((Fields.named found).withDefault 1 "scope" .asset CapabilityScope.decode).Holds :=
    withDefault_holds hscope CapabilityScope.reads
  have hpassages : ((Fields.named found).withDefault 2 "supportedInterfaces" []
      (asList Passage.decode)).Holds :=
    withDefault_holds hpassages (reads_asList Passage.reads)
  have hactions : ((Fields.named found).withDefault 4 "actions" [] (asList Action.decode)).Holds :=
    withDefault_holds hactions (reads_asList Action.reads)
  rw [decode, reads_asRecord_iff]
  simp only [seq_holds_iff, map_holds_iff, hkind, hscope, hpassages, hactions, true_and, and_true]
  rw [optional_holds_iff]
  refine forall₂_congr fun api hw => ?_
  obtain ⟨_, rfl, -⟩ := accepts_record_iff.1 (hapi api hw)
  rw [or_iff_right (fun h => by cases h), ServedApi.reads_iff (hapi _ hw)]

/-- The apis of the capabilities of a module, in the form they are given. -/
def Module.servedApis (v : Json) : List Json :=
  (v.itemsAt "capabilities").filterMap (field? "api")

theorem Module.reads_iff (v : Json) (h : moduleSchema.accepts v) : Reads decode v ↔
    ∀ api ∈ servedApis v, ServedApi.hasTextAddress api := by
  obtain ⟨found, rfl, ⟨hcapabilities, hlabels, hname, hversion, -⟩, hthere, -⟩ :=
    accepts_record_iff.1 h
  have hname : ((Fields.named found).required 0 "name" asText).Holds :=
    required_holds hthere hname reads_asText
  have hversion : ((Fields.named found).optional 1 "version" asText).Holds :=
    optional_holds hversion reads_asText
  have hlabels : ((Fields.named found).withDefault 3 "labels" [] asMembers).Holds :=
    withDefault_holds hlabels reads_asMembers
  -- the schema leaves only the apis of the capabilities open
  rw [decode, reads_asRecord_iff]
  simp only [seq_holds_iff, map_holds_iff, hname, hversion, hlabels, true_and, and_true]
  rw [withDefault_holds_iff]
  refine (reads_items_iff hcapabilities Capability.reads_iff).trans ?_
  simp only [servedApis, List.mem_filterMap, forall_exists_index, and_imp]
  exact ⟨fun h api c hc hapi => h c hc api hapi, fun h c hc api hapi => h api c hc hapi⟩

end addresses

/-! ### Documents -/

section documents
variable {v : Json}

open Document

/-- The apis of the modules of a document, in the form they are given. -/
def Document.servedApis (v : Json) : List Json := (v.itemsAt "modules").flatMap Module.servedApis

theorem reads_modules_iff {found : Members}
    (h : ∀ w, found.lookup "modules" = some w → (Schema.list moduleSchema).accepts w) :
    (∀ w, found.lookup "modules" = some w → Reads (asList Module.decode) w) ↔
      ∀ api ∈ servedApis (.object found), ServedApi.hasTextAddress api := by
  refine (reads_items_iff h Module.reads_iff).trans ?_
  simp only [servedApis, List.mem_flatMap, forall_exists_index, and_imp]
  exact ⟨fun h api m hm hapi => h m hm api hapi, fun h m hm api hapi => h api m hm hapi⟩

theorem Environment.reads_iff (v : Json) (h : environmentSchema.accepts v) :
    Reads decode v ↔ ∀ api ∈ servedApis v, ServedApi.hasTextAddress api := by
  obtain ⟨found, rfl, ⟨hclusters, hinfrastructure, hmodules, haccounts, -⟩, -⟩ :=
    Schema.accepts_record_iff.1 h
  have hclusters : ((Fields.named found).withDefault 1 "clusters" []
      (asList Cluster.decode)).Holds :=
    withDefault_holds hclusters (reads_asList Cluster.reads)
  have haccounts : ((Fields.named found).withDefault 2 "storageAccounts" []
      (asList StorageAccount.decode)).Holds :=
    withDefault_holds haccounts (reads_asList StorageAccount.reads)
  have hinfrastructure : ((Fields.named found).withDefault 3 "infrastructure" .empty
      Infrastructure.decode).Holds :=
    withDefault_holds hinfrastructure Infrastructure.reads
  rw [decode, reads_asRecord_iff]
  simp only [seq_holds_iff, map_holds_iff, hclusters, haccounts, hinfrastructure, and_true]
  exact withDefault_holds_iff.trans (reads_modules_iff hmodules)

theorem Catalog.reads_iff (v : Json) (h : catalogSchema.accepts v) :
    Reads decodeModules v ↔ ∀ api ∈ servedApis v, ServedApi.hasTextAddress api := by
  obtain ⟨found, rfl, ⟨hmodules, -⟩, -⟩ := Schema.accepts_record_iff.1 h
  rw [decodeModules, reads_asRecord_iff]
  exact withDefault_holds_iff.trans (reads_modules_iff hmodules)

end documents

namespace Document
variable {v : Json} {kind : Kind} {file : File}

namespace Kind

/-- Whether a value is read as a document of a kind. -/
def Reads : Kind → Json → Prop
  | environment => DataRoute.Reads Environment.decode
  | catalog => DataRoute.Reads Catalog.decodeModules
  | infrastructure => DataRoute.Reads Infrastructure.decode

/-- The apis in a document of a kind, in the form they are given. -/
def apis : Kind → Json → List Json
  | environment | catalog => servedApis
  | infrastructure => fun _ => []

/-- Whether the file of a document of a kind fails to load because its value is not read. -/
def FailsToDecode : Kind → File → Prop
  | environment, file => ∃ cause, loadEnvironment file = .error (.decoding .environment cause)
  | catalog, file => ∃ cause, loadCatalog file = .error (.decoding .catalog cause)
  | infrastructure, file =>
    ∃ cause, loadInfrastructure file = .error (.decoding .infrastructure cause)

theorem reads_iff (h : kind.schema.accepts v) :
    kind.Reads v ↔ ∀ api ∈ kind.apis v, ServedApi.hasTextAddress api := by
  cases kind with
  | environment => exact Environment.reads_iff v h
  | catalog => exact Catalog.reads_iff v h
  | infrastructure => exact iff_of_true (Infrastructure.reads v h) nofun

end Kind

/-- Once the schema has been checked, what is left to fail is the reading. -/
theorem loadAs_fails_iff {α : Type} {decode : Decoder α} (h : readChecked kind file = .ok v) :
    (∃ cause, loadAs kind decode file = .error (.decoding kind cause)) ↔ ¬Reads decode v := by
  unfold loadAs
  rw [h, Reads]
  cases hv : decode v <;> simp [bind, Except.bind, hv]

theorem loadCatalog_fails_iff :
    (∃ cause, loadCatalog file = .error (.decoding .catalog cause)) ↔
      ∃ cause, loadAs .catalog Catalog.decodeModules file = .error (.decoding .catalog cause) := by
  unfold loadCatalog
  cases loadAs .catalog Catalog.decodeModules file with
  | error e => simp [bind, Except.bind]
  | ok modules => cases h : Catalog.ofDocument modules <;> simp [bind, Except.bind, h]

theorem Kind.failsToDecode_iff (h : readChecked kind file = .ok v) :
    kind.FailsToDecode file ↔ ¬kind.Reads v := by
  cases kind with
  | environment => exact loadAs_fails_iff h
  | catalog => exact loadCatalog_fails_iff.trans (loadAs_fails_iff h)
  | infrastructure =>
    refine Iff.trans ?_ (loadAs_fails_iff h)
    -- a file that is not there has no value to check, so `loadInfrastructure` comes to `loadAs`
    cases file with
    | missing => nomatch h
    | unreachable => nomatch h
    | _ => rfl

end Document

open Document

/-- **What fits its schema can be read, but for the addresses of apis.**  A value that the schema of
a kind of document accepts is read as a document of that kind exactly if every api in it leaves its
address out or gives a text or `null` for it; and the file of such a value fails to load for its
decoding exactly if some api does not. -/
theorem schema_agreement {kind : Kind} {v : Json} (h : kind.schema.accepts v) :
    (kind.Reads v ↔ ∀ api ∈ kind.apis v, ServedApi.hasTextAddress api) ∧
    ∀ file, readChecked kind file = .ok v →
      (kind.FailsToDecode file ↔ ∃ api ∈ kind.apis v, ¬ServedApi.hasTextAddress api) := by
  refine ⟨Kind.reads_iff h, fun file hfile => ?_⟩
  rw [Kind.failsToDecode_iff hfile, Kind.reads_iff h]
  push Not
  rfl

namespace Sample

/-- A snapshot with one api, whose address is given. -/
def served (address : Json) : Json := .object [("modules", .array [.object [
  ("capabilities", .array [.object [
    ("api", .object [("endpoint", address), ("protocol", .text "x")]),
    ("capability", .text "read")]]), ("name", .text "m")]])]

/-- The text of such a snapshot. -/
def servedText (address : String) : String :=
  "\x7b\"modules\": [\x7b\"name\": \"m\", \"capabilities\": [\x7b\"capability\": \"read\", "
    ++ "\"api\": \x7b\"protocol\": \"x\", \"endpoint\": " ++ address ++ "\x7d\x7d]\x7d]\x7d"

end Sample

set_option maxRecDepth 2000 in
theorem sample_schema_agreement : Kind.environment.schema.accepts (Sample.served (.text "u")) ∧
    Kind.environment.Reads (Sample.served (.text "u")) ∧
    readChecked .environment (.contents (Sample.servedText "\"u\"")) =
      .ok (Sample.served (.text "u")) ∧
    ¬Kind.environment.FailsToDecode (.contents (Sample.servedText "\"u\"")) := by
  have hv : Kind.environment.schema.accepts (Sample.served (.text "u")) := by decide
  have hapis : ∀ api ∈ Kind.environment.apis (Sample.served (.text "u")),
      ServedApi.hasTextAddress api := by decide
  have hfile : readChecked .environment (.contents (Sample.servedText "\"u\"")) =
      .ok (Sample.served (.text "u")) := by rfl
  refine ⟨hv, (schema_agreement hv).1.2 hapis, hfile, fun h => ?_⟩
  obtain ⟨api, hapi, hnot⟩ := ((schema_agreement hv).2 _ hfile).1 h
  exact hnot (hapis api hapi)

set_option maxRecDepth 2000 in
/-- The schema of an api says nothing of its address, which is read as a text. -/
theorem sample_numeric_address : Kind.environment.schema.accepts (Sample.served (.int 5)) ∧
    Environment.decode (Sample.served (.int 5)) = .error (.wrongType (.int 5) .string) ∧
    loadEnvironment (.contents (Sample.servedText "5")) =
      .error (.decoding .environment (.wrongType (.int 5) .string)) :=
  ⟨by decide, rfl, by rfl⟩

end DataRoute
