import DataRoute.Proofs.Restoring

/-! # Requests are written and read again

Everything in a request but the weights of its goals is written so that it is read again.  A map is
written as the members of an object in the order of its keys and is the map of its entries again
(`SortedMap.ofList_entries`, `asSortedMap_restores`); restrictions are written under the first of
their two names, and a restriction by its range or its values, whichever counts
(`Restriction.restores`).

A weight may be given by a text, and a text may stand for an infinity or for no number.  Such a
weight is written as `null`, which no weight is read from (`Goal.decode_encode`), so a request is
read again exactly if the weights of its goals are finite (`request_roundTrip`). -/

namespace DataRoute

open Json

/-! ### Maps -/

namespace SortedMap
variable {κ α : Type} [KeyOrder κ]

open KeyOrder

/-- An entry whose key comes after all others is put last. -/
theorem insertEntry_last {entries : List (κ × α)} {key : κ} {value : α}
    (h : ∀ e ∈ entries, before e.1 key = true) :
    insertEntry key value entries = entries ++ [(key, value)] := by
  induction entries with
  | nil => rfl
  | cons head rest ih =>
    have hhead : before head.1 key = true := h head List.mem_cons_self
    have hnot : before key head.1 = false := by
      by_contra hback
      have hself := before_trans hhead (Bool.eq_true_of_not_eq_false hback)
      rw [before_self] at hself
      exact Bool.false_ne_true hself
    rw [insertEntry, if_neg (by rw [hnot]; decide), if_pos hhead,
      ih fun e he => h e (List.mem_cons_of_mem _ he)]
    rfl

theorem entries_foldl_insert {m : SortedMap κ α} {l : List (κ × α)}
    (h : (m.entries ++ l).Pairwise fun a b => before a.1 b.1 = true) :
    (l.foldl (fun m e => m.insert e.1 e.2) m).entries = m.entries ++ l := by
  induction l generalizing m with
  | nil => exact (List.append_nil _).symm
  | cons e l ih =>
    have hlast : (m.insert e.1 e.2).entries = m.entries ++ [e] :=
      insertEntry_last fun d hd => (List.pairwise_append.1 h).2.2 d hd e List.mem_cons_self
    rw [List.foldl_cons, ih (by rwa [hlast, List.append_assoc]), hlast, List.append_assoc]
    rfl

theorem ofList_entries (m : SortedMap κ α) : ofList m.entries = m :=
  ext (entries_foldl_insert (m := empty) m.sorted)

theorem mem_of_mem_ofList {l : List (κ × α)} {e : κ × α} (h : e ∈ (ofList l).entries) : e ∈ l := by
  have hrun : ∀ (l : List (κ × α)) (m : SortedMap κ α),
      e ∈ (l.foldl (fun m e => m.insert e.1 e.2) m).entries → e ∈ m.entries ∨ e ∈ l := by
    intro l
    induction l with
    | nil => exact fun m h => .inl h
    | cons d l ih =>
      intro m h
      rcases ih _ h with h | h
      · rcases mem_insertEntry h with rfl | h
        · exact .inr List.mem_cons_self
        · exact .inl h
      · exact .inr (List.mem_cons_of_mem _ h)
  exact (hrun l empty h).resolve_left List.not_mem_nil

end SortedMap

section maps
variable {κ α : Type} [KeyOrder κ] {key : String → κ} {name : κ → String} {decode : Decoder α}
  {encode : α → Json} {v : Json}

theorem asSortedMap_eq_ok_iff {m : SortedMap κ α} : asSortedMap key decode v = .ok m ↔
    ∃ members entries, v = .object members ∧
      List.Forall₂ (fun f e => decode f.2 = .ok e.2 ∧ key f.1 = e.1) members entries ∧
      SortedMap.ofList entries = m := by
  cases v with
  | object members =>
    simp [asSortedMap, asMembers, bind_eq_ok_iff, mapM_eq_ok_iff, pure, Except.pure, Prod.ext_iff]
  | _ => simp [asSortedMap, asMembers, bind_eq_ok_iff]

theorem asSortedMap_restores (hname : ∀ n, key (name (key n)) = key n)
    (h : ∀ members, v = .object members → ∀ f ∈ members, Restores decode encode f.2) :
    Restores (asSortedMap key decode) (SortedMap.encode name encode) v := by
  intro m hm
  obtain ⟨members, entries, rfl, hentries, rfl⟩ := asSortedMap_eq_ok_iff.1 hm
  refine ⟨nofun, asSortedMap_eq_ok_iff.2 ⟨_, _, rfl, ?_, SortedMap.ofList_entries _⟩⟩
  rw [List.forall₂_map_left_iff, List.forall₂_same]
  intro e he
  obtain ⟨f, hf, hfe⟩ := exists_of_forall₂_right hentries (SortedMap.mem_of_mem_ofList he)
  refine ⟨(h _ rfl f hf _ hfe.1).2, ?_⟩
  rw [← hfe.2, hname]

end maps

/-! ### The types of a request -/

section types
variable {v : Json}

theorem Restriction.restores (hv : v.isRepresentable) : Restores decode encode v := by
  intro r h
  obtain ⟨-, property, allowed, range, hproperty, hallowed, hrange, rfl⟩ := decode_eq_ok_iff.1 h
  have hproperty := hproperty.restored fun w _ => asText_restores w
  have hallowed := hallowed.restored_unless
    fun w _ => asList_restores fun u _ => asText_restores u
  have hrange := hrange.restored fun w hw => Range.restores (isRepresentable_of_part hv hw)
  refine ⟨nofun, decode_eq_ok_iff.2 ⟨trivial, ?_⟩⟩
  cases range with
  | some r =>
    refine ⟨property, [], some r, ?_, ?_, ?_, rfl⟩
    · simpa [encode, make, List.lookup_cons] using hproperty
    · simp [encode, make, Constraint.members, List.lookup_cons, Defaulted]
    · simpa [encode, make, Constraint.members, List.lookup_cons] using hrange
  | none =>
    refine ⟨property, allowed, none, ?_, ?_, ?_, rfl⟩
    · cases allowed <;> simpa [encode, make, List.lookup_cons] using hproperty
    · cases allowed <;>
        simpa [encode, make, Constraint.members, List.lookup_cons, listMember_eq] using hallowed
    · cases allowed <;>
        simp [encode, make, Constraint.members, List.lookup_cons, listMember_eq, Optional]

theorem Restrictions.restores (hv : v.isRepresentable) : Restores decode encode v := by
  intro r h
  obtain ⟨hclusters, hmodules, haccounts⟩ := parts_of_decode h
  have hlist : ∀ {n name}, ∀ w, v.part n name = some w →
      Restores (asList Restriction.decode) (fun l => .array (l.map Restriction.encode)) w :=
    fun w hw => asList_restores fun u hu =>
      Restriction.restores (isRepresentable_of_mem (isRepresentable_of_part hv hw) hu)
  have hclusters := hclusters.restored_unless hlist
  have hmodules := hmodules.restored_unless hlist
  -- under whichever name the accounts were given, they are written under the first one
  have haccounts : Defaulted [] (asList Restriction.decode)
      (if r.storageAccounts = [] then Option.none
        else some (.array (r.storageAccounts.map Restriction.encode))) r.storageAccounts :=
    haccounts.elim (fun h => h.restored_unless hlist) fun h => h.restored_unless hlist
  refine ⟨nofun, (decode_eq_ok_iff ?_).2 ?_⟩
  · simp [listMember_eq, List.lookup_append]
  · simpa [listMember_eq, List.lookup_append] using ⟨hclusters, hmodules, haccounts⟩

theorem Deployment.restores (v : Json) : Restores decode (fun d => .text d.name) v :=
  fun d _ => ⟨nofun, by cases d <;> rfl⟩

theorem Justification.restores (v : Json) : Restores decode encode v := by
  intro j h
  obtain ⟨-, hid, hset, hdescription, hversion⟩ := decode_eq_ok_iff.1 h
  have hid := hid.restored (fun w _ => asText_restores w) rfl
  have hset := hset.restored fun w _ => asText_restores w
  have hdescription := hdescription.restored fun w _ => asText_restores w
  have hversion := hversion.restored fun w _ => asText_restores w
  refine ⟨nofun, decode_eq_ok_iff.2 ?_⟩
  simpa [encode, List.lookup_append, List.lookup_cons] using ⟨hid, hset, hdescription, hversion⟩

theorem Decision.restores (hv : v.isRepresentable) : Restores decode encode v := by
  intro d h
  obtain ⟨-, hdeploy, hrestrictions, hjustification⟩ := decode_eq_ok_iff.1 h
  have hdeploy := hdeploy.restored (fun w _ => Deployment.restores w) rfl
  have hrestrictions := hrestrictions.restored
    (fun w hw => Restrictions.restores (isRepresentable_of_part hv hw)) rfl
  have hjustification := hjustification.restored (fun w _ => Justification.restores w) rfl
  refine ⟨nofun, decode_eq_ok_iff.2 ?_⟩
  simpa [encode, List.lookup_cons] using ⟨hdeploy, hrestrictions, hjustification⟩

theorem Asset.restores (v : Json) : Restores decode encode v := by
  intro a h
  obtain ⟨-, hinterface, hgeography⟩ := decode_eq_ok_iff.1 h
  have hinterface := hinterface.restored fun w _ => Interface.restores w
  have hgeography := hgeography.restored fun w _ => asText_restores w
  refine ⟨nofun, decode_eq_ok_iff.2 ?_⟩
  simpa [encode, List.lookup_cons] using ⟨hinterface, hgeography⟩

theorem Flow.restores (v : Json) : Restores decode (fun f => .text f.name) v :=
  fun f _ => ⟨nofun, by cases f <;> rfl⟩

end types

/-! ### Weights -/

section weights
variable {α : Type}

/-- A goal is read again if its weight is finite; any other weight is written as `null`. -/
theorem Goal.decode_encode (g : Goal) : decode g.encode =
    if g.weight.isFinite then .ok g else .error (.notAWeight .null) := by
  obtain ⟨name, directive, weight⟩ := g
  cases hweight : weight.isFinite with
  | true =>
    have hdirective : Directive.decode (.text directive.name) = .ok directive := by
      cases directive <;> rfl
    have hfloat : decodeWeight (.float weight) = .ok weight := rfl
    refine decode_eq_ok_iff.2 ?_
    simp [encode, ofFloat, hweight, List.lookup_cons, Required, Defaulted, asText, hdirective,
      hfloat]
  | false =>
    simp only [encode, ofFloat, hweight]
    cases directive <;> rfl

theorem mapM_decode_encode (goals : List Goal) : (goals.map Goal.encode).mapM Goal.decode =
    if goals.all fun g => g.weight.isFinite then .ok goals else .error (.notAWeight .null) := by
  induction goals with
  | nil => rfl
  | cons g goals ih =>
    rw [List.map_cons, List.mapM_cons, Goal.decode_encode, ih, List.all_cons]
    cases g.weight.isFinite <;> cases goals.all fun g => g.weight.isFinite <;> rfl

/-- A part of a record whose value does not fit. -/
def Json.Part.fault (name : String) (e : DecodeError) : Part α := .error ⟨some name, e⟩

theorem withDefault_of_error {members : Members} {position : Nat} {name : String} {default : α}
    {decode : Decoder α} {w : Json} {e : DecodeError} (hw : members.lookup name = some w)
    (he : decode w = .error e) :
    (Fields.named members).withDefault position name default decode = Part.fault name e := by
  simp only [Fields.withDefault, hw, Fields.member, he]
  rfl

theorem Policy.decode_of_fault {members : Members} (p : Policy) {e : DecodeError}
    (hdecisions : (Fields.named members).withDefault 0 "decisions" .empty
      (asSortedMap CapabilityKind.ofName Decision.decode) = pure p.decisions)
    (hgoals : (Fields.named members).withDefault 1 "optimization" [] (asList Goal.decode) =
      Part.fault "optimization" e) :
    decode (.object members) = .error e := by
  unfold decode asRecord
  dsimp only
  rw [hdecisions, hgoals]
  rfl

theorem Policy.decode_encode {v : Json} {p : Policy} (hv : v.isRepresentable)
    (h : decode v = .ok p) : decode p.encode =
      if p.goals.all fun g => g.weight.isFinite then .ok p else .error (.notAWeight .null) := by
  obtain ⟨-, hdecisions, -⟩ := decode_eq_ok_iff.1 h
  have hdecisions : Defaulted .empty (asSortedMap CapabilityKind.ofName Decision.decode)
      (some (p.decisions.encode CapabilityKind.name Decision.encode)) p.decisions :=
    hdecisions.restored (fun w hw => asSortedMap_restores
      (fun n => congrArg CapabilityKind.ofName (CapabilityKind.name_ofName n))
      fun members hmembers f hf => Decision.restores
        (isRepresentable_of_member (hmembers ▸ isRepresentable_of_part hv hw) hf)) rfl
  have hgoals : asList Goal.decode (.array (p.goals.map Goal.encode)) =
      if p.goals.all fun g => g.weight.isFinite then .ok p.goals
      else .error (.notAWeight .null) := mapM_decode_encode p.goals
  by_cases hfinite : p.goals.all fun g => g.weight.isFinite
  · rw [if_pos hfinite] at hgoals ⊢
    rw [encode, listMember_eq]
    refine decode_eq_ok_iff.2 ⟨trivial, ?_, ?_⟩
    · simpa [List.lookup_cons] using hdecisions
    · by_cases hnone : p.goals = []
      · simp [hnone, List.lookup_cons, Defaulted]
      · simp [hnone, List.lookup_cons, Defaulted, Required, hgoals]
  · rw [if_neg hfinite] at hgoals ⊢
    rw [encode, listMember_eq]
    have hsome : p.goals ≠ [] := fun hnone => hfinite (by rw [hnone]; rfl)
    refine decode_of_fault p (Fields.withDefault_eq_pure_iff.2 ?_) (withDefault_of_error ?_ hgoals)
    · simpa [List.lookup_cons] using hdecisions
    · simp [hsome, List.lookup_cons]

theorem Request.decode_of_fault {members : Members} (r : Request) {e : DecodeError}
    (hid : (Fields.named members).required 0 "datasetId" asText = pure r.datasetId)
    (hflow : (Fields.named members).withDefault 1 "flow" .read Flow.decode = pure r.flow)
    (hasset : (Fields.named members).required 2 "details" Asset.decode = pure r.asset)
    (hrequested : (Fields.named members).required 3 "requestedInterface" Interface.decode =
      pure r.requested)
    (hnew : (Fields.named members).withDefault 4 "newAsset" false asBool = pure r.newAsset)
    (hactions : (Fields.named members).withDefault 5 "actions" [] (asList Action.decode) =
      pure r.actions)
    (hpolicy : (Fields.named members).withDefault 6 "configuration" .empty Policy.decode =
      Part.fault "configuration" e)
    (hcluster : (Fields.named members).optional 7 "workloadCluster" Cluster.decode =
      pure r.workloadCluster)
    (hstorage : (Fields.named members).withDefault 8 "storageRequirements" .empty
      (asSortedMap id (asList Action.decode)) = pure r.storageRequirements) :
    decode (.object members) = .error e := by
  unfold decode asRecord
  dsimp only
  rw [hid, hflow, hasset, hrequested, hnew, hactions, hpolicy, hcluster, hstorage]
  rfl

/-- What stands for the fields of a request that has been read and is written. -/
theorem Request.parts_encode {v : Json} {r : Request} (h : decode v = .ok r) :
    Required asText (r.encode.part 0 "datasetId") r.datasetId ∧
      Defaulted .read Flow.decode (r.encode.part 1 "flow") r.flow ∧
      Required Asset.decode (r.encode.part 2 "details") r.asset ∧
      Required Interface.decode (r.encode.part 3 "requestedInterface") r.requested ∧
      Defaulted false asBool (r.encode.part 4 "newAsset") r.newAsset ∧
      Defaulted [] (asList Action.decode) (r.encode.part 5 "actions") r.actions ∧
      r.encode.part 6 "configuration" = some r.policy.encode ∧
      Optional Cluster.decode (r.encode.part 7 "workloadCluster") r.workloadCluster ∧
      Defaulted .empty (asSortedMap id (asList Action.decode))
        (r.encode.part 8 "storageRequirements") r.storageRequirements := by
  obtain ⟨-, hid, hflow, hasset, hrequested, hnew, hactions, -, hcluster, hstorage⟩ :=
    decode_eq_ok_iff.1 h
  have hid := hid.restored fun w _ => asText_restores w
  have hflow := hflow.restored (fun w _ => Flow.restores w) rfl
  have hasset := hasset.restored fun w _ => Asset.restores w
  have hrequested := hrequested.restored fun w _ => Interface.restores w
  have hnew := hnew.restored (fun w _ => asBool_restores w) rfl
  have hlist : ∀ w, Restores (asList Action.decode) (fun l => .array (l.map Action.encode)) w :=
    fun w => asList_restores fun u _ => Action.restores u
  have hactions := hactions.restored (fun w _ => hlist w) rfl
  have hcluster := hcluster.restored fun w _ => Cluster.restores w
  have hstorage : Defaulted .empty (asSortedMap id (asList Action.decode))
      (some (r.storageRequirements.encode id fun l => .array (l.map Action.encode)))
      r.storageRequirements :=
    hstorage.restored (fun w _ => asSortedMap_restores (fun n => rfl) fun _ _ f _ => hlist f.2) rfl
  simpa [encode, List.lookup_append, List.lookup_cons]
    using ⟨hid, hflow, hasset, hrequested, hnew, hactions, hcluster, hstorage⟩

/-- **A request is read again unless a weight is not finite.** What is read as a request is written
as a value from which it is read again exactly if the weight of each of its goals is finite.  Any
other weight is written as `null`, which is no weight, and the value is not read at all. -/
theorem request_roundTrip {v : Json} {r : Request} (hv : v.isRepresentable)
    (h : Request.decode v = .ok r) : Request.decode r.encode =
      if r.policy.goals.all fun g => g.weight.isFinite then .ok r
      else .error (.notAWeight .null) := by
  have hpolicy : Policy.decode r.policy.encode =
      if r.policy.goals.all fun g => g.weight.isFinite then .ok r.policy
      else .error (.notAWeight .null) := by
    obtain ⟨-, -, -, -, -, -, -, ⟨-, hnone⟩ | ⟨w, hw, hread⟩, -, -⟩ :=
      Request.decode_eq_ok_iff.1 h
    · rw [hnone]
      rfl
    · exact Policy.decode_encode (isRepresentable_of_part hv hw) hread
  obtain ⟨hid, hflow, hasset, hrequested, hnew, hactions, hconfiguration, hcluster, hstorage⟩ :=
    Request.parts_encode h
  -- `decode_eq_ok_iff` says nothing of a request that is not read, so that case is followed by hand
  by_cases hfinite : r.policy.goals.all fun g => g.weight.isFinite
  · rw [if_pos hfinite] at hpolicy ⊢
    exact Request.decode_eq_ok_iff.2 ⟨trivial, hid, hflow, hasset, hrequested, hnew, hactions,
      .inr ⟨_, hconfiguration, hpolicy⟩, hcluster, hstorage⟩
  · rw [if_neg hfinite] at hpolicy ⊢
    exact Request.decode_of_fault r (Fields.required_eq_pure_iff.2 hid)
      (Fields.withDefault_eq_pure_iff.2 hflow) (Fields.required_eq_pure_iff.2 hasset)
      (Fields.required_eq_pure_iff.2 hrequested) (Fields.withDefault_eq_pure_iff.2 hnew)
      (Fields.withDefault_eq_pure_iff.2 hactions) (withDefault_of_error hconfiguration hpolicy)
      (Fields.optional_eq_pure_iff.2 hcluster) (Fields.withDefault_eq_pure_iff.2 hstorage)

end weights

/-! ### A weight that is not finite -/

namespace Sample

/-- A request whose only goal has a given weight. -/
def weighted (weight : Json) : Json := .object [
  ("datasetId", .text "sales"), ("details", .object [("interface", .array [.text "s3"])]),
  ("requestedInterface", .object [("protocol", .text "flight")]),
  ("configuration", .object [("optimization", .array [.object [("attribute", .text "cost"),
    ("directive", .text "min"), ("weight", weight)]])])]

end Sample

theorem sample_request_roundTrip : (Sample.weighted (.text " 0.5 ")).isRepresentable ∧
    ∃ r, Request.decode (Sample.weighted (.text " 0.5 ")) = .ok r ∧
      r.policy.goals.all (fun g => g.weight.isFinite) ∧ Request.decode r.encode = .ok r := by
  have hv : (Sample.weighted (.text " 0.5 ")).isRepresentable := by decide
  exact ⟨hv, _, rfl, rfl, request_roundTrip hv rfl⟩

/-- An infinite weight can be given as a text, and then the request is not read again. -/
theorem sample_infinite_weight : (Sample.weighted (.text "inf")).isRepresentable ∧
    ∃ r, Request.decode (Sample.weighted (.text "inf")) = .ok r ∧
      Request.decode r.encode = .error (.notAWeight .null) :=
  ⟨by decide, _, rfl, rfl⟩

end DataRoute
