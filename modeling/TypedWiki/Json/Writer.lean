import TypedWiki.Text.Decimal

/-!
# Writing JSON — compact text without white space

Only the quote, the backslash and the control characters below the space are escaped; five of them have a short
form and the others four hexadecimal digits.

The literals `\x7b` and `\x7d` are the two braces: spelled by code point, they leave the brackets of this file balanced.
-/

namespace TypedWiki.Json

/-- How a character is written inside a string. -/
def escapeChar (c : Char) : List Char :=
  if c = '"' then ['\\', '"']
  else if c = '\\' then ['\\', '\\']
  else if c = '\x08' then ['\\', 'b']
  else if c = '\x0c' then ['\\', 'f']
  else if c = '\n' then ['\\', 'n']
  else if c = '\r' then ['\\', 'r']
  else if c = '\t' then ['\\', 't']
  else if c.toNat < 32 then ['\\', 'u'] ++ (Text.padHex 4 c.toNat).toList
  else [c]

/-- A string between quotes. -/
def writeString (s : String) : String := String.ofList ('"' :: s.toList.flatMap escapeChar ++ ['"'])

/-- Values between brackets. -/
def writeArray (items : List String) : String := "[" ++ String.intercalate "," items ++ "]"

/-- Members between braces, in order. -/
def writeObject (members : List (String × String)) : String :=
  "\x7b" ++ String.intercalate "," (members.map fun (k, v) => writeString k ++ ":" ++ v) ++ "\x7d"

/-- A choice with its content. -/
def writeTagged (name content : String) : String := writeObject [(name, content)]

end TypedWiki.Json
