import DataRoute.Catalog.Index
import DataRoute.Proofs.Chains
import Mathlib.Data.List.Induction
import Mathlib.Data.List.TakeWhile

/-! # What a catalog keeps of a list of modules

An index is built by taking modules in one after the other.  What one step does is said by
`modules_add` and `addNew_eq_ok_iff`, and what a whole pass does follows by induction from the end
of the list: in memory the modules stay whose names do not stand before them (`modules_ofModules`),
and a document is refused for the first module whose name is blank or stands before it
(`ofDocument_eq_error_iff`).  The catalogs are the same as those of the indexes
(`toCatalog_ofModules`, `toCatalog_ofDocument`), and the two look-ups agree (`module?_eq_find?`), so
all of this holds of catalogs too (`catalogs_exact`). -/

namespace DataRoute

/-- Nothing is left of a text without its blanks exactly if it holds blanks only. -/
theorem trim_eq_empty_iff {text : String} :
    Text.trim text = "" ↔ Text.isBlankText text = true := by
  unfold Text.trim Text.isBlankText Text.trimChars
  rw [String.ofList_eq_empty_iff, List.reverse_eq_nil_iff, List.dropWhile_eq_nil_iff,
    List.all_eq_true]
  simp only [List.mem_reverse]
  constructor
  · intro hrest c hc
    rw [← List.takeWhile_append_dropWhile (p := Text.isBlank) (l := text.toList)] at hc
    rcases List.mem_append.mp hc with hc | hc
    · exact List.mem_takeWhile_imp hc
    · exact hrest c hc
  · intro hall c hc
    exact hall c ((List.dropWhile_sublist _).subset hc)

namespace Catalog

/-! ### What is kept and what is refused -/

/-- The modules of a list whose names do not stand before them. -/
def newNamed (modules : List Module) : List Module :=
  (modules.zipIdx.filter fun p => p.1.name ∉ (modules.take p.2).map Module.name).map Prod.fst

/-- Whether each module of a list has a name of its own that is not blank. -/
structure NamedOnce (modules : List Module) : Prop where
  named : ∀ m ∈ modules, Text.trim m.name ≠ ""
  once : (modules.map Module.name).Nodup

/-- What is wrong with the name of a module that stands behind others. -/
def FaultOf (before : List Module) (m : Module) : Fault → Prop
  | .blankName => Text.trim m.name = ""
  | .repeatedName name =>
    Text.trim m.name ≠ "" ∧ m.name ∈ before.map Module.name ∧ name = m.name

theorem newNamed_concat (modules : List Module) (m : Module) :
    newNamed (modules ++ [m]) =
      newNamed modules ++ if m.name ∈ modules.map Module.name then [] else [m] := by
  unfold newNamed
  rw [List.zipIdx_append, List.filter_append, List.map_append]
  congr 1
  · -- the modules before a position of the list stay the same
    congr 1
    apply List.filter_congr
    intro p hp
    obtain ⟨hi, -⟩ := List.getElem?_eq_some_iff.mp (List.mem_zipIdx_iff_getElem?.mp hp)
    rw [List.take_append_of_le_length (Nat.le_of_lt hi)]
  · by_cases h : m.name ∈ modules.map Module.name <;> simp [h]

theorem namedOnce_concat {modules : List Module} {m : Module} :
    NamedOnce (modules ++ [m]) ↔
      NamedOnce modules ∧ Text.trim m.name ≠ "" ∧ m.name ∉ modules.map Module.name := by
  constructor
  · rintro ⟨hnamed, honce⟩
    rw [List.map_append, List.map_singleton, List.nodup_append] at honce
    obtain ⟨honce, -, hapart⟩ := honce
    refine ⟨⟨fun n hn => hnamed n (by simp [hn]), honce⟩, hnamed m (by simp), fun hmem => ?_⟩
    exact hapart _ hmem _ (by simp) rfl
  · rintro ⟨⟨hnamed, honce⟩, hm, hnew⟩
    refine ⟨fun n hn => ?_, ?_⟩
    · rcases List.mem_append.mp hn with hn | hn
      · exact hnamed n hn
      · rwa [List.mem_singleton.mp hn]
    · rw [List.map_append, List.map_singleton, List.nodup_append]
      refine ⟨honce, by simp, fun a ha b hb => ?_⟩
      rw [List.mem_singleton.mp hb]
      rintro rfl
      exact hnew ha

/-- All of a list is kept if each module has a name of its own. -/
theorem newNamed_of_namedOnce {modules : List Module} (h : NamedOnce modules) :
    newNamed modules = modules := by
  induction modules using List.reverseRecOn with
  | nil => rfl
  | append_singleton modules m ih =>
      obtain ⟨hmodules, -, hnew⟩ := namedOnce_concat.mp h
      rw [newNamed_concat, ih hmodules, if_neg hnew]

namespace Index

/-! ### One step -/

section step
variable {index : Index} {m : Module} {name : String}

theorem add_of_knows (h : index.knows m.name = true) : index.add m = index := by
  simp [add, h]

theorem add_of_new (h : index.knows m.name = false) : index.add m = index.push m h := by
  simp [add, h]

theorem modules_add : (index.add m).modules =
    index.modules ++ if m.name ∈ index.modules.map Module.name then [] else [m] := by
  by_cases h : index.knows m.name = true
  · rw [add_of_knows h, if_pos (knows_iff.mp h), List.append_nil]
  · have hnew : index.knows m.name = false := by simpa using h
    rw [add_of_new hnew, if_neg (fun hmem => h (knows_iff.mpr hmem))]
    rfl

theorem mem_names_add : name ∈ (index.add m).modules.map Module.name ↔
    name ∈ index.modules.map Module.name ∨ name = m.name := by
  rw [modules_add]
  by_cases h : m.name ∈ index.modules.map Module.name
  · rw [if_pos h, List.append_nil]
    constructor
    · exact .inl
    · rintro (hname | rfl)
      · exact hname
      · exact h
  · rw [if_neg h]
    simp

theorem find?_modules_add : (index.add m).modules.find? (fun n => n.name == name) =
    (index.modules ++ [m]).find? fun n => n.name == name := by
  rw [modules_add]
  by_cases h : m.name ∈ index.modules.map Module.name
  · rw [if_pos h, List.append_nil, List.find?_append]
    by_cases hname : m.name = name
    · obtain ⟨n, hn, hsame⟩ := List.mem_map.mp h
      have hfound : (index.modules.find? fun n => n.name == name).isSome = true := by
        rw [List.find?_isSome]
        exact ⟨n, hn, by simp [hsame, hname]⟩
      rw [Option.or_of_isSome hfound]
    · simp [hname]
  · rw [if_neg h]

theorem addNew_eq_ok_iff {after : Index} : index.addNew m = .ok after ↔
    Text.trim m.name ≠ "" ∧ m.name ∉ index.modules.map Module.name ∧ after = index.add m := by
  unfold addNew
  rw [Ne, trim_eq_empty_iff, ← knows_iff]
  by_cases hblank : Text.isBlankText m.name = true
  · simp [hblank]
  · by_cases h : index.knows m.name = true
    · simp [hblank, h]
    · have hnew : index.knows m.name = false := by simpa using h
      rw [add_of_new hnew]
      simp [hblank, hnew, eq_comm]

theorem addNew_eq_error_iff {fault : Fault} :
    index.addNew m = .error fault ↔ FaultOf index.modules m fault := by
  unfold addNew
  by_cases hblank : Text.isBlankText m.name = true
  · have htrim := trim_eq_empty_iff.mpr hblank
    cases fault <;> simp [hblank, htrim, FaultOf]
  · have htrim : Text.trim m.name ≠ "" := fun h => hblank (trim_eq_empty_iff.mp h)
    rw [if_neg hblank]
    by_cases h : index.knows m.name = true
    · rw [dif_neg (by simp [h])]
      cases fault with
      | blankName => simp [htrim, FaultOf]
      | repeatedName name =>
          rw [Except.error.injEq, Fault.repeatedName.injEq]
          exact ⟨fun hname => ⟨htrim, knows_iff.mp h, hname.symm⟩, fun hfault => hfault.2.2.symm⟩
    · rw [dif_pos (by simpa using h)]
      cases fault with
      | blankName => simp [htrim, FaultOf]
      | repeatedName name =>
          refine ⟨nofun, fun hfault => ?_⟩
          exact absurd (knows_iff.mpr hfault.2.1) h

/-- The table leads to the first module of a name. -/
theorem module?_eq_find? (index : Index) (name : String) :
    index.module? name = index.modules.find? fun m => m.name == name := by
  unfold module?
  cases hposition : index.positions.get? name with
  | none =>
      rw [Option.bind_none, eq_comm, List.find?_eq_none]
      intro m hm hname
      have hknown : index.knows name = true :=
        knows_iff.mpr (List.mem_map.mpr ⟨m, hm, by simpa using hname⟩)
      simp [knows, hposition] at hknown
  | some i =>
      have hname := (index.inStep name i).mp hposition
      rw [List.getElem?_map, Option.map_eq_some_iff] at hname
      obtain ⟨m, hm, rfl⟩ := hname
      rw [Option.bind_some, hm, eq_comm]
      have hfound : (index.modules.find? fun n => n.name == m.name).isSome = true := by
        rw [List.find?_isSome]
        exact ⟨m, List.mem_of_getElem? hm, by simp⟩
      obtain ⟨n, hn⟩ := Option.isSome_iff_exists.mp hfound
      have hsame : n.name = m.name := by simpa using List.find?_some hn
      rw [hn, List.inj_on_of_nodup_map index.distinct (List.mem_of_find?_eq_some hn)
        (List.mem_of_getElem? hm) hsame]

end step

/-! ### A whole pass -/

section pass
variable {modules : List Module}

theorem ofModules_concat (modules : List Module) (m : Module) :
    ofModules (modules ++ [m]) = (ofModules modules).add m := by
  unfold ofModules
  rw [List.foldl_append, List.foldl_cons, List.foldl_nil]

theorem mem_names_ofModules {name : String} :
    name ∈ (ofModules modules).modules.map Module.name ↔ name ∈ modules.map Module.name := by
  induction modules using List.reverseRecOn with
  | nil => rfl
  | append_singleton modules m ih =>
      rw [ofModules_concat, mem_names_add, ih]
      simp

/-- An index keeps the first module of each name, in order. -/
theorem modules_ofModules (modules : List Module) :
    (ofModules modules).modules = newNamed modules := by
  induction modules using List.reverseRecOn with
  | nil => rfl
  | append_singleton modules m ih =>
      rw [ofModules_concat, modules_add, newNamed_concat, ← ih]
      simp only [mem_names_ofModules]

theorem find?_modules_ofModules (modules : List Module) (name : String) :
    (ofModules modules).modules.find? (fun m => m.name == name) =
      modules.find? fun m => m.name == name := by
  induction modules using List.reverseRecOn with
  | nil => rfl
  | append_singleton modules m ih =>
      rw [ofModules_concat, find?_modules_add, List.find?_append, List.find?_append, ih]

theorem ofDocument_concat_of_ok {index : Index} (m : Module)
    (h : ofDocument modules = .ok index) : ofDocument (modules ++ [m]) = index.addNew m := by
  unfold ofDocument at h ⊢
  rw [List.foldlM_append, h]
  show [m].foldlM addNew index = _
  simp

theorem ofDocument_concat_of_error {fault : Fault} (m : Module)
    (h : ofDocument modules = .error fault) : ofDocument (modules ++ [m]) = .error fault := by
  unfold ofDocument at h ⊢
  rw [List.foldlM_append, h]
  rfl

/-- A document is taken as it is in memory if each module has a name of its own. -/
theorem ofDocument_eq_ok_iff {index : Index} :
    ofDocument modules = .ok index ↔ NamedOnce modules ∧ index = ofModules modules := by
  induction modules using List.reverseRecOn generalizing index with
  | nil =>
      constructor
      · intro h
        exact ⟨⟨by simp, by simp⟩, (Except.ok.inj h).symm⟩
      · rintro ⟨-, rfl⟩
        rfl
  | append_singleton modules m ih =>
      rw [namedOnce_concat, ofModules_concat]
      constructor
      · intro h
        cases hbefore : ofDocument modules with
        | error fault =>
            rw [ofDocument_concat_of_error m hbefore] at h
            exact nomatch h
        | ok before =>
            obtain ⟨hnamed, rfl⟩ := ih.mp hbefore
            rw [ofDocument_concat_of_ok m hbefore] at h
            obtain ⟨hm, hnew, rfl⟩ := addNew_eq_ok_iff.mp h
            exact ⟨⟨hnamed, hm, fun hmem => hnew (mem_names_ofModules.mpr hmem)⟩, rfl⟩
      · rintro ⟨⟨hnamed, hm, hnew⟩, rfl⟩
        rw [ofDocument_concat_of_ok m (ih.mpr ⟨hnamed, rfl⟩)]
        exact addNew_eq_ok_iff.mpr ⟨hm, fun hmem => hnew (mem_names_ofModules.mp hmem), rfl⟩

/-- A document is refused for the first module whose name is blank or stands before it. -/
theorem ofDocument_eq_error_iff {fault : Fault} :
    ofDocument modules = .error fault ↔ ∃ before m after, modules = before ++ m :: after ∧
      NamedOnce before ∧ FaultOf before m fault := by
  constructor
  · intro h
    induction modules using List.reverseRecOn with
    | nil => exact nomatch h
    | append_singleton modules m ih =>
        cases hbefore : ofDocument modules with
        | error earlier =>
            rw [ofDocument_concat_of_error m hbefore] at h
            obtain ⟨before, n, after, rfl, hfault⟩ := ih (hbefore.trans h)
            exact ⟨before, n, after ++ [m], by simp, hfault⟩
        | ok index =>
            obtain ⟨hnamed, rfl⟩ := ofDocument_eq_ok_iff.mp hbefore
            rw [ofDocument_concat_of_ok m hbefore, addNew_eq_error_iff, modules_ofModules,
              newNamed_of_namedOnce hnamed] at h
            exact ⟨modules, m, [], rfl, hnamed, h⟩
  · rintro ⟨before, m, after, rfl, hnamed, hfault⟩
    have hbefore : ofDocument before = .ok (ofModules before) :=
      ofDocument_eq_ok_iff.mpr ⟨hnamed, rfl⟩
    have hm : (ofModules before).addNew m = .error fault := by
      rw [addNew_eq_error_iff, modules_ofModules, newNamed_of_namedOnce hnamed]
      exact hfault
    unfold ofDocument at hbefore ⊢
    rw [List.foldlM_append, hbefore]
    show (m :: after).foldlM addNew (ofModules before) = .error fault
    rw [List.foldlM_cons, hm]
    rfl

/-! ### Indexes and catalogs -/

/-- What a pass leaves behind an index: the first module of each name that is new to it. -/
theorem modules_foldl_add (index : Index) (modules : List Module) :
    (modules.foldl add index).modules = index.modules ++
      (firstOfEachName modules).filter fun m => !index.knows m.name := by
  induction modules generalizing index with
  | nil => simp [firstOfEachName]
  | cons m rest ih =>
      rw [List.foldl_cons, ih, firstOfEachName, List.filter_cons, List.filter_filter]
      by_cases h : index.knows m.name = true
      · rw [add_of_knows h, if_neg (by simp [h])]
        congr 1
        apply List.filter_congr
        intro n _
        by_cases hn : n.name = m.name <;> simp [hn, h]
      · have hnew : index.knows m.name = false := by simpa using h
        have hknows : ∀ n : Module, (index.add m).knows n.name =
            (index.knows n.name || n.name == m.name) := by
          intro n
          rw [Bool.eq_iff_iff, knows_iff, mem_names_add, ← knows_iff]
          simp
        rw [if_pos (by simp [hnew])]
        simp only [hknows, Bool.not_or]
        rw [add_of_new hnew]
        simp [push, bne]

theorem toCatalog_ofModules (modules : List Module) :
    (ofModules modules).toCatalog = Catalog.ofModules modules := by
  have h : (ofModules modules).modules = firstOfEachName modules := by
    unfold ofModules
    rw [modules_foldl_add]
    simp [empty, knows, SortedMap.get?, SortedMap.empty]
  unfold toCatalog Catalog.ofModules
  simp only [h]

/-- The fault that a pass over a document meets is the first one. -/
theorem foldlM_addNew {index : Index} {seen : List String} (modules : List Module)
    (hseen : ∀ name, seen.contains name = index.knows name) :
    modules.foldlM addNew index = match firstFault seen modules with
      | some fault => .error fault
      | none => .ok (modules.foldl add index) := by
  induction modules generalizing index seen with
  | nil => rfl
  | cons m rest ih =>
      rw [List.foldlM_cons, firstFault, List.foldl_cons, hseen]
      by_cases hblank : Text.isBlankText m.name = true
      · rw [if_pos hblank]
        simp [addNew, hblank, bind, Except.bind]
      · rw [if_neg hblank]
        by_cases h : index.knows m.name = true
        · rw [if_pos h]
          simp [addNew, hblank, h, bind, Except.bind]
        · have hnew : index.knows m.name = false := by simpa using h
          have hadd : index.addNew m = .ok (index.add m) := by
            simp [addNew, hblank, hnew, add_of_new hnew]
          rw [if_neg h, hadd]
          apply ih
          intro name
          rw [List.contains_cons, hseen, Bool.eq_iff_iff, knows_iff, mem_names_add, ← knows_iff]
          simp [or_comm]

theorem toCatalog_ofDocument (modules : List Module) :
    (ofDocument modules).map toCatalog = Catalog.ofDocument modules := by
  have hseen : ∀ name, ([] : List String).contains name = empty.knows name := fun _ => rfl
  unfold ofDocument Catalog.ofDocument
  rw [foldlM_addNew modules hseen]
  cases firstFault [] modules with
  | some fault => rfl
  | none => exact congrArg Except.ok (toCatalog_ofModules modules)

end pass

end Index

/-- **What catalogs keep.**  In memory a catalog keeps the modules whose names do not stand before
them, in order; the names are distinct, and a look-up finds the first module of a name in the list,
or nothing exactly if no module has it.  A document is taken exactly if each name is its own and not
blank, and is then the catalog that is built in memory, of all modules in order; otherwise it is
refused for the first module whose name is blank or stands before it.  Indexes, which are built
in one pass with a table of positions, are the same catalogs and have the same look-ups. -/
theorem catalogs_exact (modules : List Module) :
    ((Catalog.ofModules modules).modules = newNamed modules ∧
      ((Catalog.ofModules modules).modules.map Module.name).Nodup ∧
      ∀ name, (Catalog.ofModules modules).module? name = modules.find? (fun m => m.name == name) ∧
        ((Catalog.ofModules modules).module? name = none ↔ ∀ m ∈ modules, m.name ≠ name)) ∧
    ((∀ catalog, Catalog.ofDocument modules = .ok catalog ↔
        NamedOnce modules ∧ catalog = Catalog.ofModules modules ∧ catalog.modules = modules) ∧
      ∀ fault, Catalog.ofDocument modules = .error fault ↔
        ∃ before m after, modules = before ++ m :: after ∧
          NamedOnce before ∧ FaultOf before m fault) ∧
    ((Index.ofModules modules).toCatalog = Catalog.ofModules modules ∧
      (∀ name, (Index.ofModules modules).module? name = (Catalog.ofModules modules).module? name) ∧
      (Index.ofDocument modules).map Index.toCatalog = Catalog.ofDocument modules ∧
      ∀ index, Index.ofDocument modules = .ok index → index = Index.ofModules modules) := by
  have hcatalog := Index.toCatalog_ofModules modules
  have hdocument := Index.toCatalog_ofDocument modules
  have hmodules : (Catalog.ofModules modules).modules = newNamed modules := by
    rw [← hcatalog, ← Index.modules_ofModules]
    rfl
  have hfind : ∀ name, (Catalog.ofModules modules).module? name =
      modules.find? (fun m => m.name == name) := by
    intro name
    rw [← Index.find?_modules_ofModules, ← hcatalog]
    rfl
  refine ⟨⟨hmodules, (Catalog.ofModules modules).distinct, fun name => ⟨hfind name, ?_⟩⟩,
    ⟨fun catalog => ?_, fun fault => ?_⟩, hcatalog, fun name => ?_, hdocument, fun index h => ?_⟩
  · rw [hfind, List.find?_eq_none]
    simp
  · rw [← hdocument, ← hcatalog]
    constructor
    · intro h
      cases hindex : Index.ofDocument modules with
      | error fault =>
          rw [hindex] at h
          exact nomatch h
      | ok index =>
          rw [hindex] at h
          obtain rfl : index.toCatalog = catalog := Except.ok.inj h
          obtain ⟨hnamed, rfl⟩ := Index.ofDocument_eq_ok_iff.mp hindex
          refine ⟨hnamed, rfl, ?_⟩
          show (Index.ofModules modules).modules = modules
          rw [Index.modules_ofModules, newNamed_of_namedOnce hnamed]
    · rintro ⟨hnamed, rfl, -⟩
      rw [Index.ofDocument_eq_ok_iff.mpr ⟨hnamed, rfl⟩]
      rfl
  · rw [← hdocument, ← Index.ofDocument_eq_error_iff]
    cases Index.ofDocument modules with
    | error earlier => simp [Except.map]
    | ok index => simp [Except.map]
  · rw [Index.module?_eq_find?, Index.find?_modules_ofModules, hfind]
  · exact (Index.ofDocument_eq_ok_iff.mp h).2

end Catalog

namespace Sample

/-- A reader that goes by the name of the copier. -/
def misnamed : Module := { reader with name := "copier" }

end Sample

/-- Of two modules with one name the first is kept in memory, and a document with both is refused
for the second. -/
theorem sample_catalogs :
    (Catalog.ofModules [Sample.copier, Sample.reader, Sample.misnamed]).module? "copier" =
        some Sample.copier ∧
      (Catalog.ofModules [Sample.copier, Sample.reader, Sample.misnamed]).module? "writer" = none ∧
      Catalog.ofDocument [Sample.copier, Sample.reader, Sample.misnamed] =
        .error (.repeatedName "copier") ∧
      ∃ catalog, Catalog.ofDocument [Sample.copier, Sample.reader] = .ok catalog ∧
        catalog.modules = [Sample.copier, Sample.reader] := by
  have hnamed : Catalog.NamedOnce [Sample.copier, Sample.reader] := ⟨by decide, by decide⟩
  obtain ⟨⟨-, -, hfind⟩, ⟨-, hfaulty⟩, -⟩ :=
    Catalog.catalogs_exact [Sample.copier, Sample.reader, Sample.misnamed]
  obtain ⟨-, ⟨htaken, -⟩, -⟩ := Catalog.catalogs_exact [Sample.copier, Sample.reader]
  refine ⟨(hfind "copier").1, (hfind "writer").2.mpr (by decide), (hfaulty _).mpr ?_, ?_⟩
  · exact ⟨[Sample.copier, Sample.reader], Sample.misnamed, [], rfl, hnamed, by decide, by decide,
      rfl⟩
  · cases h : Catalog.ofDocument [Sample.copier, Sample.reader] with
    | error fault => exact nomatch h
    | ok catalog => exact ⟨catalog, rfl, ((htaken catalog).mp h).2.2⟩

end DataRoute
