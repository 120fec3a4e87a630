import DataRoute.Text.Quoted
import DataRoute.Decimal.Layout

/-! # JSON values

`Json` keeps integers and binary numbers apart, since the text of a number tells them apart and
texts of numbers are compared. An object is a list of members. A text that is read gives the
members in the order of their keys, each key once; the readers of records find members by their
names, so nothing else depends on the order. `Json.compact` writes a value without blanks. -/

namespace DataRoute

/-- A JSON value. -/
inductive Json where
  | null
  | bool (value : Bool)
  | int (value : Int)
  | float (value : Float)
  | text (value : String)
  | array (items : List Json)
  | object (members : List (String × Json))
deriving Repr

namespace Json

instance : Inhabited Json := ⟨null⟩

/-- The members of an object. -/
abbrev Members := List (String × Json)

/-- Puts a member in its place by the order of keys; a member of the same key is replaced. -/
def Members.insert (key : String) (value : Json) : Members → Members
  | [] => [(key, value)]
  | (k, v) :: rest =>
    if key < k then (key, value) :: (k, v) :: rest
    else if key = k then (key, value) :: rest
    else (k, v) :: insert key value rest

/-- A binary number as a value; what is no finite number has no JSON form and is written as
`null`. -/
def ofFloat (x : Float) : Json := if x.isFinite then float x else null

/-- The binary number of a number. -/
def toFloat? : Json → Option Float
  | int (.ofNat n) => some (Decimal.nearest n 0)
  | int (.negSucc n) => some (-(Decimal.nearest (n + 1) 0))
  | float x => some x
  | _ => none

/-- A number that is a count below `2 ^ 64`. -/
def toCount? : Json → Option Nat
  | int (.ofNat n) => if n < Decimal.countLimit then some n else none
  | _ => none

/-- The member of an object by its key. -/
def field? (key : String) : Json → Option Json
  | object members => members.lookup key
  | _ => none

/-- The items of an array; any other value has none. -/
def items : Json → List Json
  | array items => items
  | _ => []

/-! ### Texts of values -/

/-- The text of an integer. -/
def integerText (n : Int) : String :=
  String.ofList (if n < 0 then '-' :: Nat.toDigits 10 n.natAbs else Nat.toDigits 10 n.natAbs)

/-- Four hexadecimal digits. -/
def fourHex (n : Nat) : List Char :=
  let digits := Text.hexDigits n
  List.replicate (4 - digits.length) '0' ++ digits

/-- A character between the quotes of a JSON string: quotes, backslashes and controls are
escaped. -/
def escapeChar (c : Char) : List Char :=
  if c = '"' then ['\\', '"']
  else if c = '\\' then ['\\', '\\']
  else if c = '\n' then ['\\', 'n']
  else if c = '\r' then ['\\', 'r']
  else if c = '\t' then ['\\', 't']
  else if c = '\x08' then ['\\', 'b']
  else if c = '\x0c' then ['\\', 'f']
  else if c.toNat < 0x20 then '\\' :: 'u' :: fourHex c.toNat
  else [c]

/-- A JSON string. -/
def stringText (s : String) : String :=
  String.ofList ('"' :: s.toList.flatMap escapeChar ++ ['"'])

mutual

/-- A value without blanks. -/
def compact : Json → String
  | null => "null"
  | bool true => "true"
  | bool false => "false"
  | int n => integerText n
  | float x => Decimal.floatText x
  | text s => stringText s
  | array items => "[" ++ ",".intercalate (compactItems items) ++ "]"
  | object members => "\x7b" ++ ",".intercalate (compactMembers members) ++ "\x7d"

def compactItems : List Json → List String
  | [] => []
  | v :: rest => compact v :: compactItems rest

def compactMembers : List (String × Json) → List String
  | [] => []
  | (k, v) :: rest => (stringText k ++ ":" ++ compact v) :: compactMembers rest

end

/-- The text of a value that is compared with texts: a string as it is, a number or a truth
value as it is written. Other values have none. -/
def scalarText? : Json → Option String
  | text s => some s
  | int n => some (integerText n)
  | float x => some (Decimal.floatText x)
  | bool b => some (if b then "true" else "false")
  | _ => none

end Json

end DataRoute
