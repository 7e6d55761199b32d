import TypedWiki.Text.Decimal
import TypedWiki.Text.Printable

/-!
# Quoted text — a text between quotes with everything invisible spelled out

The quote, the backslash, tab, line feed, carriage return and NUL have short escapes; every other character that is
not printable, or that would merge with the one before it, is written by its code point.

The literals `\x7b` and `\x7d` are the two braces: spelled by code point, they leave the brackets of this file balanced.
-/

namespace TypedWiki.Text

/-- A code point between braces, in hexadecimal. -/
def escapeCode (c : Char) : List Char := "\\u\x7b".toList ++ Nat.toDigits 16 c.toNat ++ ['\x7d']

/-- How one character is written between quotes. -/
def escapeChar (c : Char) : List Char :=
  if c = '"' then ['\\', '"']
  else if c = '\\' then ['\\', '\\']
  else if c = '\t' then ['\\', 't']
  else if c = '\n' then ['\\', 'n']
  else if c = '\r' then ['\\', 'r']
  else if c = '\x00' then ['\\', '0']
  else if isPrintable c && !isExtender c then [c]
  else escapeCode c

/-- The text between quotes. -/
def quote (s : String) : String := String.ofList ('"' :: s.toList.flatMap escapeChar ++ ['"'])

end TypedWiki.Text
