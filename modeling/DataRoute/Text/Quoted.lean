import DataRoute.Text.Invisible

/-! # Quoted texts in messages

A message quotes a text between double quotes so that every character can be told from its
neighbours: quotes, backslashes and the usual controls are escaped by a letter, and a character
that prints nothing or attaches to the one before it by its code point in hexadecimal digits
between braces. -/

namespace DataRoute.Text

/-- A number in lower-case hexadecimal digits, without leading zeros. -/
def hexDigits (n : Nat) : List Char := Nat.toDigits 16 n

/-- A character as it stands between the quotes. -/
def escapeChar (c : Char) : List Char :=
  if c = '\x00' then ['\\', '0']
  else if c = '\t' then ['\\', 't']
  else if c = '\n' then ['\\', 'n']
  else if c = '\r' then ['\\', 'r']
  else if c = '"' then ['\\', '"']
  else if c = '\\' then ['\\', '\\']
  else if extending.contains c || invisible.contains c then
    ['\\', 'u', '\x7b'] ++ hexDigits c.toNat ++ ['\x7d']
  else [c]

/-- The characters of a quoted text. -/
def quoteChars (cs : List Char) : List Char := '"' :: cs.flatMap escapeChar ++ ['"']

/-- A text between double quotes. -/
def quote (text : String) : String := String.ofList (quoteChars text.toList)

end DataRoute.Text
