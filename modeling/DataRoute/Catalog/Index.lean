import DataRoute.Catalog
import DataRoute.SortedMap

/-! # Indexes of modules

An index is a catalog together with a table of the positions at which its names stand, so that a
module is found by its name without a search.  It is built in one pass over a list of modules, which
asks the table whether a name is new: `Index.ofModules` leaves out a module whose name is known, and
`Index.ofDocument` stops at one.  Both keep list and table in step, which `Index.inStep` says of
every index. -/

namespace DataRoute.Catalog

/-- Whether a table gives exactly the positions at which the names of a list of modules stand. -/
def InStep (modules : List Module) (positions : SortedMap String Nat) : Prop :=
  ∀ name i, positions.get? name = some i ↔ (modules.map Module.name)[i]? = some name

/-- Modules in order, and the position of each name. -/
structure Index where
  modules : List Module
  positions : SortedMap String Nat
  inStep : InStep modules positions

namespace Index

def empty : Index := ⟨[], .empty, by simp [InStep, SortedMap.get?, SortedMap.empty]⟩

/-- Whether a name is in the table. -/
def knows (index : Index) (name : String) : Bool := (index.positions.get? name).isSome

theorem knows_iff {index : Index} {name : String} :
    index.knows name = true ↔ name ∈ index.modules.map Module.name := by
  unfold knows
  rw [Option.isSome_iff_exists, List.mem_iff_getElem?]
  exact exists_congr fun i => index.inStep name i

/-- A module whose name is new keeps list and table in step. -/
theorem inStep_push {index : Index} {m : Module} (hnew : index.knows m.name = false) :
    InStep (index.modules ++ [m]) (index.positions.insert m.name index.modules.length) := by
  have habsent : m.name ∉ index.modules.map Module.name := by
    intro hmem
    rw [← knows_iff, hnew] at hmem
    exact Bool.false_ne_true hmem
  intro name i
  rw [SortedMap.get?_insert, List.map_append, List.map_singleton]
  by_cases hname : name = m.name
  · -- the table has the new position, and the name stands nowhere else
    subst hname
    rw [if_pos (beq_self_eq_true _)]
    constructor
    · rintro h
      obtain rfl : index.modules.length = i := Option.some.inj h
      simp
    · intro h
      by_cases hi : i < index.modules.length
      · rw [List.getElem?_append_left (by simpa using hi)] at h
        exact absurd (List.mem_of_getElem? h) habsent
      · obtain ⟨hlast, -⟩ := List.getElem?_eq_some_iff.mp h
        simp only [List.length_append, List.length_map, List.length_singleton] at hlast
        congr 1
        omega
  · rw [if_neg (by simpa using hname), index.inStep name i]
    by_cases hi : i < index.modules.length
    · rw [List.getElem?_append_left (by simpa using hi)]
    · rw [List.getElem?_eq_none (by simpa using hi), List.getElem?_append_right (by simpa using hi)]
      cases i - (index.modules.map Module.name).length with
      | zero => simpa using fun h => hname h.symm
      | succ n => simp

/-- Puts a module with a new name at the end. -/
def push (index : Index) (m : Module) (hnew : index.knows m.name = false) : Index :=
  ⟨index.modules ++ [m], index.positions.insert m.name index.modules.length, inStep_push hnew⟩

/-- Takes a module in, unless its name is known. -/
def add (index : Index) (m : Module) : Index :=
  if hnew : index.knows m.name = false then index.push m hnew else index

/-- The index of a list of modules; a module whose name is known is left out. -/
def ofModules (modules : List Module) : Index := modules.foldl add empty

/-- Takes a module in, which needs a name that is neither blank nor known. -/
def addNew (index : Index) (m : Module) : Except Fault Index :=
  if Text.isBlankText m.name then .error .blankName
  else if hnew : index.knows m.name = false then .ok (index.push m hnew)
  else .error (.repeatedName m.name)

/-- The index of a document, which has to name each module once. -/
def ofDocument (modules : List Module) : Except Fault Index := modules.foldlM addNew empty

/-- The module of a name, by the position that the table gives. -/
def module? (index : Index) (name : String) : Option Module :=
  (index.positions.get? name).bind fun i => index.modules[i]?

/-! ### What an index stands for -/

theorem distinct (index : Index) : (index.modules.map Module.name).Nodup := by
  apply List.pairwise_iff_getElem.mpr
  intro i j hi hj hij hsame
  have hfirst := (index.inStep _ i).mpr (List.getElem?_eq_getElem hi)
  have hsecond := (index.inStep _ j).mpr (List.getElem?_eq_getElem hj)
  rw [hsame, hsecond] at hfirst
  have := Option.some.inj hfirst
  omega

/-- The catalog that an index is built on. -/
def toCatalog (index : Index) : Catalog := ⟨index.modules, index.distinct⟩

end Index

end DataRoute.Catalog
