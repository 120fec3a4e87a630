import DataRoute.Capability

/-! # Catalogs of modules

A catalog is a list of modules with distinct names, in the order of the registry; routes are
built in that order. `Catalog.ofModules` keeps the first module of each name, and
`Catalog.ofDocument` refuses a list with a blank or a repeated name. -/

namespace DataRoute

/-- Modules with distinct names. -/
structure Catalog where
  modules : List Module
  distinct : (modules.map Module.name).Nodup

namespace Catalog

/-- The catalog without modules. -/
def empty : Catalog := ⟨[], List.nodup_nil⟩

/-- The first module of each name, in order. -/
def firstOfEachName : List Module → List Module
  | [] => []
  | m :: rest => m :: (firstOfEachName rest).filter fun n => n.name != m.name

theorem nodup_firstOfEachName (modules : List Module) :
    ((firstOfEachName modules).map Module.name).Nodup := by
  induction modules with
  | nil => exact List.nodup_nil
  | cons m rest ih =>
    rw [firstOfEachName, List.map_cons, List.nodup_cons]
    refine ⟨fun h => ?_, ?_⟩
    · obtain ⟨n, hn, hname⟩ := List.mem_map.1 h
      have := (List.mem_filter.1 hn).2
      simp [hname] at this
    · exact List.Nodup.sublist (List.Sublist.map _ List.filter_sublist) ih

/-- The catalog of a list of modules; of modules with one name the first counts. -/
def ofModules (modules : List Module) : Catalog :=
  ⟨firstOfEachName modules, nodup_firstOfEachName modules⟩

/-- What keeps a list of modules from being a catalog. -/
inductive Fault where
  | blankName
  | repeatedName (name : String)
deriving DecidableEq, Repr

def Fault.message : Fault → String
  | .blankName => "encountered module with no name"
  | .repeatedName name => "duplicate module name " ++ name

/-- The first module in order whose name is blank or stands before it already; `seen` holds the
names before the list. -/
def firstFault (seen : List String) : List Module → Option Fault
  | [] => none
  | m :: rest =>
    if Text.isBlankText m.name then some .blankName
    else if seen.contains m.name then some (.repeatedName m.name)
    else firstFault (m.name :: seen) rest

/-- The catalog of a document, which has to name each module once. -/
def ofDocument (modules : List Module) : Except Fault Catalog :=
  match firstFault [] modules with
  | some fault => .error fault
  | none => .ok (ofModules modules)

/-- The module of a name. -/
def module? (catalog : Catalog) (name : String) : Option Module :=
  catalog.modules.find? fun m => m.name == name

/-- A capability by the name of its module and its position there. -/
def capability? (catalog : Catalog) (name : String) (position : Nat) : Option Capability :=
  (catalog.module? name).bind fun m => m.capabilities[position]?

def size (catalog : Catalog) : Nat := catalog.modules.length

def isEmpty (catalog : Catalog) : Bool := catalog.modules.isEmpty

def decodeModules : Decoder (List Module) := Json.asRecord ⟨"ModuleCatalog", 1⟩ fun fields =>
  fields.withDefault 0 "modules" [] (Json.asList Module.decode)

def encodeModules (modules : List Module) : Json :=
  .object [("modules", .array (modules.map Module.encode))]

end Catalog

end DataRoute
