import DataRoute.Proofs.FloatRange
import DataRoute.Proofs.Records

/-! # What is written is read again

What a reader gives is written by the writer of its type as a value from which the reader gives it
again (`Restores`).  For a type without numbers this holds of every value that is read.  Where a
field is a number the value has to hold finite numbers, as every value of a text does
(`Json.isRepresentable`): what is no finite number is written as `null`.  One lemma for each way in
which a field is written (`Required.restored` and its likes) reduces a record to its fields, and the
lemma of a record, up to `Module.restores`, `Cluster.restores`, `StorageAccount.restores` and
`Infrastructure.restores`, names those fields. -/

namespace DataRoute

open Json

/-! ### Numbers -/

namespace Json

mutual

/-- Whether the numbers of a value are those of texts: integers of 64 bits and finite binary
numbers. -/
def isRepresentable : Json → Bool
  | int n => -2 ^ 63 ≤ n && n < 2 ^ 64
  | float x => x.isFinite
  | array items => itemsRepresentable items
  | object members => membersRepresentable members
  | _ => true

def itemsRepresentable : List Json → Bool
  | [] => true
  | v :: rest => isRepresentable v && itemsRepresentable rest

def membersRepresentable : List (String × Json) → Bool
  | [] => true
  | (_, v) :: rest => isRepresentable v && membersRepresentable rest

end

section
variable {v w : Json} {items : List Json} {members : Members}

theorem isRepresentable_of_mem (h : v.isRepresentable) (hw : w ∈ v.items) :
    w.isRepresentable := by
  cases v with
  | array items =>
    rw [isRepresentable] at h
    unfold Json.items at hw
    induction items with
    | nil => cases hw
    | cons head rest ih =>
      rw [itemsRepresentable, Bool.and_eq_true] at h
      rcases List.mem_cons.1 hw with rfl | hw
      · exact h.1
      · exact ih h.2 hw
  | _ => cases hw

theorem isRepresentable_of_member {m : String × Json} (h : (object members).isRepresentable)
    (hm : m ∈ members) : m.2.isRepresentable := by
  rw [isRepresentable] at h
  induction members with
  | nil => cases hm
  | cons head rest ih =>
    rw [membersRepresentable, Bool.and_eq_true] at h
    rcases List.mem_cons.1 hm with rfl | hm
    · exact h.1
    · exact ih h.2 hm

theorem isRepresentable_of_part {position : Nat} {name : String} (h : v.isRepresentable)
    (hw : v.part position name = some w) : w.isRepresentable := by
  cases v with
  | object members =>
    obtain ⟨before, after, rfl, -⟩ := List.lookup_eq_some_iff.1 hw
    exact isRepresentable_of_member h (List.mem_append_right before List.mem_cons_self)
  | array items => exact isRepresentable_of_mem h (List.mem_of_getElem? hw)
  | _ => cases hw

theorem isFinite_of_toFloat? {x : Float} (h : v.isRepresentable) (hx : v.toFloat? = some x) :
    x.isFinite := by
  cases v with
  | int n =>
    simp only [isRepresentable, Bool.and_eq_true, decide_eq_true_eq] at h
    cases n with
    | ofNat n =>
      rw [Int.ofNat_eq_natCast] at h
      cases hx
      exact isFinite_nearest (by omega)
    | negSucc n =>
      cases hx
      exact isFinite_neg_nearest (by omega)
  | float y =>
    cases hx
    exact h
  | _ => cases hx

end

end Json

/-! ### Members -/

section members
variable {α : Type} {members : Members} {names : List String} {key name : String}

@[simp] theorem lookup_optionalMember (o : Option Json) :
    (optionalMember name o).lookup key = if key = name then o else none := by
  cases o with
  | none => simp [optionalMember]
  | some v =>
    rw [optionalMember, List.lookup_cons]
    by_cases h : key = name
    · simp [h]
    · rw [beq_eq_false_iff_ne.2 h, if_neg h]
      rfl

theorem listMember_eq (encode : α → Json) (l : List α) :
    listMember name encode l =
      optionalMember name (if l = [] then none else some (.array (l.map encode))) := by
  cases l <;> rfl

@[simp] theorem lookup_without (members : Members) :
    (members.without names).lookup key = if key ∈ names then none else members.lookup key := by
  unfold Members.without
  induction members with
  | nil => simp
  | cons head rest ih =>
    by_cases hhead : head.1 ∈ names
    · rw [List.filter_cons_of_neg (by simpa using hhead), ih, List.lookup_cons]
      split
      next => rfl
      next hkey =>
        have hne : (key == head.1) = false := by
          simpa using fun h : key = head.1 => hkey (h ▸ hhead)
        rw [hne]
    · rw [List.filter_cons_of_pos (by simpa using hhead), List.lookup_cons, List.lookup_cons, ih]
      split
      next h => rw [if_neg (beq_iff_eq.1 h ▸ hhead)]
      next => rfl

@[simp] theorem without_append (members others : Members) :
    Members.without (members ++ others) names = members.without names ++ others.without names :=
  List.filter_append ..

@[simp] theorem without_cons (value : Json) (h : name ∈ names) :
    Members.without ((name, value) :: members) names = members.without names :=
  List.filter_cons_of_neg (by simpa using h)

@[simp] theorem without_optionalMember (o : Option Json) (h : name ∈ names) :
    (optionalMember name o).without names = [] := by
  cases o with
  | none => rfl
  | some v => exact without_cons v h

@[simp] theorem without_without (members : Members) :
    (members.without names).without names = members.without names := by
  simp [Members.without]

end members

/-! ### Restoring -/

/-- Whether what is read from a value is written as a value other than `null` and read from that
again. -/
def Restores {α : Type} (decode : Decoder α) (encode : α → Json) (v : Json) : Prop :=
  ∀ a, decode v = .ok a → encode a ≠ .null ∧ decode (encode a) = .ok a

section restoring
variable {α : Type} {decode : Decoder α} {encode : α → Json} {v : Json} {part : Option Json}

theorem Json.Required.restored {a : α} (h : Required decode part a)
    (hd : ∀ w, part = some w → Restores decode encode w) : Required decode (some (encode a)) a := by
  obtain ⟨w, hw, hwa⟩ := h
  exact ⟨_, rfl, (hd w hw a hwa).2⟩

theorem Json.Defaulted.restored {a default : α} (h : Defaulted default decode part a)
    (hd : ∀ w, part = some w → Restores decode encode w)
    (hdefault : decode (encode default) = .ok default) :
    Defaulted default decode (some (encode a)) a := by
  rcases h with ⟨-, rfl⟩ | h
  · exact .inr ⟨_, rfl, hdefault⟩
  · exact .inr (h.restored hd)

theorem Json.Defaulted.restored_unless {a default : α} [Decidable (a = default)]
    (h : Defaulted default decode part a) (hd : ∀ w, part = some w → Restores decode encode w) :
    Defaulted default decode (if a = default then none else some (encode a)) a := by
  rcases h with ⟨-, rfl⟩ | h
  · rw [if_pos rfl]
    exact .inl ⟨rfl, rfl⟩
  · split
    next ha => exact .inl ⟨rfl, ha⟩
    next => exact .inr (h.restored hd)

theorem Json.Optional.restored {o : Option α} (h : Optional decode part o)
    (hd : ∀ w, part = some w → Restores decode encode w) :
    Optional decode (o.map encode) o := by
  cases o with
  | none => exact .inl rfl
  | some a =>
    obtain ⟨w, hw, -, hwa⟩ := h
    obtain ⟨hnull, hread⟩ := hd w hw a hwa
    exact ⟨_, rfl, hnull, hread⟩

theorem asText_restores (v : Json) : Restores asText .text v := fun _ _ => ⟨nofun, rfl⟩

theorem asBool_restores (v : Json) : Restores asBool .bool v := fun _ _ => ⟨nofun, rfl⟩

theorem asMembers_restores (v : Json) : Restores asMembers .object v := fun _ _ => ⟨nofun, rfl⟩

theorem asReal_restores (h : v.isRepresentable) : Restores asReal .ofFloat v := by
  intro x hx
  have hfinite : x.isFinite := by
    unfold asReal at hx
    split at hx
    next y hy =>
      cases hx
      exact isFinite_of_toFloat? h hy
    next => cases hx
  simp [ofFloat, hfinite, asReal, toFloat?]

theorem asList_restores (h : ∀ w ∈ v.items, Restores decode encode w) :
    Restores (asList decode) (fun l => .array (l.map encode)) v := by
  intro l hl
  obtain ⟨items, rfl, hitems⟩ := asList_eq_ok_iff.1 hl
  refine ⟨nofun, asList_eq_ok_iff.2 ⟨_, rfl, ?_⟩⟩
  clear hl
  -- induction on the items and what they are read as, in step
  induction hitems with
  | nil => exact .nil
  | cons hw _ ih =>
    exact .cons (h _ List.mem_cons_self _ hw).2 (ih fun w hw => h w (List.mem_cons_of_mem _ hw))

end restoring

/-! ### The types of a snapshot -/

section types
variable {v : Json}

theorem Interface.restores (v : Json) : Restores decode encode v := by
  intro i h
  obtain ⟨-, hprotocol, hformat⟩ := decode_eq_ok_iff.1 h
  have hprotocol := hprotocol.restored fun w _ => asText_restores w
  have hformat := hformat.restored fun w _ => asText_restores w
  refine ⟨nofun, decode_eq_ok_iff.2 ?_⟩
  simpa [encode, Interface.members, List.lookup_cons] using ⟨hprotocol, hformat⟩

theorem Passage.restores (v : Json) : Restores decode encode v := by
  intro p h
  obtain ⟨-, hsource, hsink⟩ := decode_eq_ok_iff.1 h
  have hsource := hsource.restored fun w _ => Interface.restores w
  have hsink := hsink.restored fun w _ => Interface.restores w
  refine ⟨nofun, decode_eq_ok_iff.2 ?_⟩
  simpa [encode, List.lookup_append] using ⟨hsource, hsink⟩

theorem ServedApi.restores (v : Json) : Restores decode encode v := by
  intro a h
  obtain ⟨members, rfl, haddress, hprotocol, hformat⟩ := decode_eq_ok_iff.1 h
  have haddress := haddress.restored fun w _ => asText_restores w
  have hprotocol := hprotocol.restored fun w _ => asText_restores w
  have hformat := hformat.restored fun w _ => asText_restores w
  refine ⟨nofun, decode_eq_ok_iff.2 ⟨_, rfl, ?_⟩⟩
  simpa [encode, Interface.members, List.lookup_append, List.lookup_cons]
    using ⟨haddress, hprotocol, hformat⟩

theorem Action.restores (v : Json) : Restores decode encode v := by
  intro a h
  obtain ⟨members, rfl, hname, harguments⟩ := decode_eq_ok_iff.1 h
  have hname := hname.restored fun w _ => asText_restores w
  refine ⟨nofun, decode_eq_ok_iff.2 ⟨_, rfl, ?_⟩⟩
  simpa [encode, ← harguments] using hname

theorem CapabilityKind.restores (v : Json) : Restores decode (fun k => .text k.name) v := by
  intro k h
  refine ⟨nofun, ?_⟩
  cases v with
  | text s =>
    cases h
    simp [decode, asText]
  | _ => cases h

theorem CapabilityScope.restores (v : Json) : Restores decode (fun s => .text s.name) v := by
  intro k h
  refine ⟨nofun, ?_⟩
  cases v with
  | text s =>
    cases h
    simp [decode, asText]
  | _ => cases h

theorem Capability.restores (v : Json) : Restores decode encode v := by
  intro c h
  obtain ⟨-, hkind, hscope, hpassages, hapi, hactions⟩ := decode_eq_ok_iff.1 h
  have hkind := hkind.restored fun w _ => CapabilityKind.restores w
  have hscope := hscope.restored (fun w _ => CapabilityScope.restores w) rfl
  have hpassages :=
    hpassages.restored (fun w _ => asList_restores fun u _ => Passage.restores u) rfl
  have hapi := hapi.restored fun w _ => ServedApi.restores w
  have hactions := hactions.restored (fun w _ => asList_restores fun u _ => Action.restores u) rfl
  refine ⟨nofun, decode_eq_ok_iff.2 ?_⟩
  simpa [encode, List.lookup_append, List.lookup_cons]
    using ⟨hkind, hscope, hpassages, hapi, hactions⟩

theorem Module.labels_eq (m : Module) :
    (if m.labels.isEmpty then [] else [("labels", Json.object m.labels)]) =
      optionalMember "labels" (if m.labels = [] then none else some (.object m.labels)) := by
  cases m.labels <;> rfl

theorem Module.restores (v : Json) : Restores decode encode v := by
  intro m h
  obtain ⟨-, hname, hversion, hcapabilities, hlabels⟩ := decode_eq_ok_iff.1 h
  have hname := hname.restored fun w _ => asText_restores w
  have hversion := hversion.restored fun w _ => asText_restores w
  have hcapabilities :=
    hcapabilities.restored (fun w _ => asList_restores fun u _ => Capability.restores u) rfl
  have hlabels := hlabels.restored_unless fun w _ => asMembers_restores w
  refine ⟨nofun, decode_eq_ok_iff.2 ?_⟩
  rw [encode, labels_eq]
  simpa [List.lookup_append, List.lookup_cons] using ⟨hname, hversion, hcapabilities, hlabels⟩

def Cluster.Metadata.encode (m : Metadata) : Json :=
  .object (("region", .text m.region) :: optionalMember "zone" (m.zone.map .text) ++ m.extra)

theorem Cluster.Metadata.restores (v : Json) : Restores decode encode v := by
  intro m h
  obtain ⟨members, rfl, hregion, hzone, hextra⟩ := decode_eq_ok_iff.1 h
  have hregion := hregion.restored fun w _ => asText_restores w
  have hzone := hzone.restored fun w _ => asText_restores w
  refine ⟨nofun, decode_eq_ok_iff.2 ⟨_, rfl, ?_⟩⟩
  simpa [← hextra, List.lookup_append, List.lookup_cons] using ⟨hregion, hzone⟩

theorem Cluster.restores (v : Json) : Restores decode encode v := by
  intro c h
  obtain ⟨-, hname, hmetadata⟩ := decode_eq_ok_iff.1 h
  have hname := hname.restored fun w _ => asText_restores w
  have hmetadata := hmetadata.restored fun w _ => Metadata.restores w
  refine ⟨nofun, decode_eq_ok_iff.2 ?_⟩
  simpa [encode, List.lookup_cons] using ⟨hname, hmetadata⟩

theorem StorageAccount.restores (v : Json) : Restores decode encode v := by
  intro a h
  obtain ⟨members, rfl, hname, hid, hregion, haddress, hsecret, hextra⟩ := decode_eq_ok_iff.1 h
  have hname := hname.restored fun w _ => asText_restores w
  have hid := hid.restored fun w _ => asText_restores w
  have hregion := hregion.restored fun w _ => asText_restores w
  have haddress := haddress.restored fun w _ => asText_restores w
  have hsecret := hsecret.restored fun w _ => asText_restores w
  refine ⟨nofun, decode_eq_ok_iff.2 ⟨_, rfl, ?_⟩⟩
  simpa [encode, ← hextra, fieldNames, List.lookup_append, List.lookup_cons]
    using ⟨hname, hid, hregion, haddress, hsecret⟩

theorem Range.restores (hv : v.isRepresentable) : Restores decode encode v := by
  intro r h
  obtain ⟨-, hmin, hmax⟩ := decode_eq_ok_iff.1 h
  have hmin := hmin.restored fun w hw => asReal_restores (isRepresentable_of_part hv hw)
  have hmax := hmax.restored fun w hw => asReal_restores (isRepresentable_of_part hv hw)
  refine ⟨nofun, decode_eq_ok_iff.2 ?_⟩
  simpa [encode, List.lookup_append] using ⟨hmin, hmax⟩

theorem ObjectKind.restores (v : Json) : Restores decode (fun k => .text k.name) v :=
  fun k _ => ⟨nofun, by cases k <;> rfl⟩

theorem MetricKind.restores (v : Json) : Restores (asVariant variants) (fun k => .text k.name) v :=
  fun k _ => ⟨nofun, by cases k <;> rfl⟩

theorem Attribute.restores (v : Json) : Restores decode encode v := by
  intro a h
  obtain ⟨-, hname, hdescription, hmetric, hvalue, hobject, hinstance, harguments⟩ :=
    decode_eq_ok_iff.1 h
  have hname := hname.restored fun w _ => asText_restores w
  have hdescription := hdescription.restored fun w _ => asText_restores w
  have hmetric := hmetric.restored fun w _ => asText_restores w
  have hvalue := hvalue.restored fun w _ => asText_restores w
  have hobject := hobject.restored fun w _ => ObjectKind.restores w
  have hinstance := hinstance.restored fun w _ => asText_restores w
  have harguments := harguments.restored_unless
    fun w _ => asList_restores fun u _ => asText_restores u
  refine ⟨nofun, decode_eq_ok_iff.2 ?_⟩
  simpa [encode, listMember_eq, List.lookup_append, List.lookup_cons]
    using ⟨hname, hdescription, hmetric, hvalue, hobject, hinstance, harguments⟩

theorem Metric.restores (hv : v.isRepresentable) : Restores decode encode v := by
  intro m h
  obtain ⟨-, hname, hkind, hunits, hscale⟩ := decode_eq_ok_iff.1 h
  have hname := hname.restored fun w _ => asText_restores w
  have hkind := hkind.restored fun w _ => MetricKind.restores w
  have hunits := hunits.restored fun w _ => asText_restores w
  have hscale := hscale.restored fun w hw => Range.restores (isRepresentable_of_part hv hw)
  refine ⟨nofun, decode_eq_ok_iff.2 ?_⟩
  simpa [encode, List.lookup_append, List.lookup_cons] using ⟨hname, hkind, hunits, hscale⟩

theorem Infrastructure.restores (hv : v.isRepresentable) : Restores decode encode v := by
  intro infra h
  obtain ⟨-, hattributes, hmetrics⟩ := decode_eq_ok_iff.1 h
  have hattributes :=
    hattributes.restored (fun w _ => asList_restores fun u _ => Attribute.restores u) rfl
  have hmetrics := hmetrics.restored (fun w hw => asList_restores fun u hu =>
    Metric.restores (isRepresentable_of_mem (isRepresentable_of_part hv hw) hu)) rfl
  refine ⟨nofun, decode_eq_ok_iff.2 ?_⟩
  simpa [encode, List.lookup_cons] using ⟨hattributes, hmetrics⟩

end types

end DataRoute
