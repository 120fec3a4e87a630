import DataRoute.Json.Number

/-! # Tokens of JSON texts

`tokens?` cuts a text into brackets, commas, colons, strings, numbers and the three names. It is
one walk over the characters: `Scan` is what has been read of the token at hand and `Scan.step`
takes one more character. -/

namespace DataRoute.Json

/-- A token. -/
inductive Token where
  | openArray
  | closeArray
  | openObject
  | closeObject
  | comma
  | colon
  | scalar (value : Json)
deriving Repr

/-- The part of an escape inside a string that has been read: its backslash, or some of the four
hexadecimal digits of a code unit. `high` is the first half of a surrogate pair, if the unit has
to be its second half. -/
inductive Escape where
  | started (high : Option Nat)
  | unit (high : Option Nat) (digits : Nat) (value : Nat)
deriving Repr

/-- What has been read of the token at hand; characters are kept in reverse. -/
inductive Scan where
  | between
  | number (read : List Char)
  | name (read : List Char)
  | string (read : List Char)
  | pairing (read : List Char) (high : Nat)
  | escape (read : List Char) (state : Escape)
deriving Repr

/-- Whether a character can stand in a numeral. -/
def isNumeric (c : Char) : Bool :=
  c.isDigit || c = '-' || c = '+' || c = '.' || c = 'e' || c = 'E'

/-- The character that a letter after a backslash stands for. -/
def escapedChar : Char → Option Char
  | '"' => some '"'
  | '\\' => some '\\'
  | '/' => some '/'
  | 'b' => some '\x08'
  | 'f' => some '\x0c'
  | 'n' => some '\n'
  | 'r' => some '\r'
  | 't' => some '\t'
  | _ => none

/-- The value of a hexadecimal digit. -/
def hexValue? (c : Char) : Option Nat :=
  if c.isDigit then some (c.toNat - '0'.toNat)
  else if 'a' ≤ c ∧ c ≤ 'f' then some (c.toNat - 'a'.toNat + 10)
  else if 'A' ≤ c ∧ c ≤ 'F' then some (c.toNat - 'A'.toNat + 10)
  else none

/-- The name of a constant. -/
def constant? (read : List Char) : Option Json :=
  if read.reverse = "null".toList then some null
  else if read.reverse = "true".toList then some (bool true)
  else if read.reverse = "false".toList then some (bool false)
  else none

/-- A character between tokens. -/
def Scan.start (c : Char) : Option (Scan × List Token) :=
  if c = ' ' ∨ c = '\t' ∨ c = '\n' ∨ c = '\r' then some (.between, [])
  else if c = '[' then some (.between, [.openArray])
  else if c = ']' then some (.between, [.closeArray])
  else if c = '\x7b' then some (.between, [.openObject])
  else if c = '\x7d' then some (.between, [.closeObject])
  else if c = ',' then some (.between, [.comma])
  else if c = ':' then some (.between, [.colon])
  else if c = '"' then some (.string [], [])
  else if c.isDigit || c = '-' then some (.number [c], [])
  else if c.isAlpha then some (.name [c], [])
  else none

/-- A complete code unit: a character, or the first half of a pair whose second half has to
follow. -/
def closeUnit (read : List Char) (high : Option Nat) (value : Nat) : Option Scan :=
  match high with
  | some h =>
    if 0xDC00 ≤ value ∧ value < 0xE000 then
      some (.string (Char.ofNat (0x10000 + (h - 0xD800) * 0x400 + (value - 0xDC00)) :: read))
    else none
  | none =>
    if 0xD800 ≤ value ∧ value < 0xDC00 then some (.pairing read value)
    else if 0xDC00 ≤ value ∧ value < 0xE000 then none
    else some (.string (Char.ofNat value :: read))

/-- A character after a backslash, or among the digits of a code unit. -/
def Scan.inEscape (read : List Char) (c : Char) : Escape → Option Scan
  | .started high =>
    if c = 'u' then some (.escape read (.unit high 0 0))
    else match high, escapedChar c with
      | none, some d => some (.string (d :: read))
      | _, _ => none
  | .unit high digits value => do
    let next := 16 * value + (← hexValue? c)
    if digits = 3 then closeUnit read high next
    else some (.escape read (.unit high (digits + 1) next))

/-- One more character: the tokens that it completes and what is at hand after it. -/
def Scan.step (scan : Scan) (c : Char) : Option (Scan × List Token) :=
  match scan with
  | .between => Scan.start c
  | .number read =>
    if isNumeric c then some (.number (c :: read), [])
    else do
      let value ← readNumber read.reverse
      let (next, more) ← Scan.start c
      some (next, .scalar value :: more)
  | .name read =>
    if c.isAlphanum then some (.name (c :: read), [])
    else do
      let value ← constant? read
      let (next, more) ← Scan.start c
      some (next, .scalar value :: more)
  | .string read =>
    if c = '"' then some (.between, [.scalar (text (String.ofList read.reverse))])
    else if c = '\\' then some (.escape read (.started none), [])
    else if c.toNat < 0x20 then none
    else some (.string (c :: read), [])
  | .pairing read high =>
    if c = '\\' then some (.escape read (.started (some high)), []) else none
  | .escape read state => (Scan.inEscape read c state).map fun next => (next, [])

/-- The token at hand when the text ends. -/
def Scan.finish : Scan → Option (List Token)
  | .between => some []
  | .number read => (readNumber read.reverse).map fun value => [.scalar value]
  | .name read => (constant? read).map fun value => [.scalar value]
  | _ => none

/-- The tokens of a text; `read` holds those before it, in reverse. -/
def tokensFrom (scan : Scan) (read : List Token) : List Char → Option (List Token)
  | [] => scan.finish.map fun last => read.reverse ++ last
  | c :: rest =>
    match scan.step c with
    | some (next, more) => tokensFrom next (more.reverse ++ read) rest
    | none => none

def tokens? (source : String) : Option (List Token) := tokensFrom .between [] source.toList

end DataRoute.Json
