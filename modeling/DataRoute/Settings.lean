import DataRoute.Decimal.Reading

/-! # Settings

How long the routes may be, how many plans are compared, and whether plans are compared at all.
Settings are looked up by name and have to be positive where they count something. -/

namespace DataRoute

/-- The limits of a search, and whether it compares plans. -/
structure Settings where
  maxDepth : Nat
  optimize : Bool
  maxCandidates : Nat
deriving DecidableEq, Repr

namespace Settings

/-- The settings when nothing is said. -/
def default : Settings := ⟨4, true, 10000⟩

/-- The name of the greatest length of a route. -/
def depthName : String := "DATAPATH_MAX_DEPTH"

/-- The name of the switch for comparing plans. -/
def optimizeName : String := "DATAPATH_OPTIMIZE"

/-- The name of the greatest number of plans that are compared. -/
def candidatesName : String := "DATAPATH_MAX_CANDIDATES"

/-- What is wrong with settings. -/
inductive Fault where
  | notACount (name raw : String) (cause : Decimal.CountFault)
  | noDepth
  | noCandidates
deriving DecidableEq, Repr

def Fault.message : Fault → String
  | notACount name raw _ => name ++ " must be a positive integer, got '" ++ raw ++ "'"
  | noDepth => "max_depth must be at least 1"
  | noCandidates => "max_candidates must be at least 1"

/-- What lies behind a fault. -/
def Fault.causes : Fault → List String
  | notACount _ _ cause => [cause.message]
  | _ => []

/-- Refuses a depth of zero and a number of candidates of zero, in this order. -/
def validate (s : Settings) : Except Fault Settings :=
  if s.maxDepth = 0 then .error .noDepth
  else if s.maxCandidates = 0 then .error .noCandidates
  else .ok s

/-- A count by its name, blanks around it aside. -/
def lookupCount (lookup : String → Option String) (name : String) (default : Nat) :
    Except Fault Nat :=
  match lookup name with
  | none => .ok default
  | some raw =>
    match Decimal.readCount (Text.trim raw) with
    | .ok n => .ok n.val
    | .error cause => .error (.notACount name raw cause)

/-- Whether the text of a switch turns it off. -/
def turnsOff (raw : String) : Bool :=
  let word := (Text.trimChars raw.toList).map Char.toLower
  ["0", "false", "off", "no"].any fun off => word == off.toList

/-- The settings that are found by their names, and the default for the others. -/
def ofLookup (lookup : String → Option String) : Except Fault Settings := do
  let depth ← lookupCount lookup depthName default.maxDepth
  let optimize := (lookup optimizeName).all fun raw => !turnsOff raw
  let candidates ← lookupCount lookup candidatesName default.maxCandidates
  validate ⟨depth, optimize, candidates⟩

end Settings

end DataRoute
