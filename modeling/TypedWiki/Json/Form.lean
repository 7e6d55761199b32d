import TypedWiki.Json.Reader
import TypedWiki.Json.Writer

/-!
# JSON forms — a reader and a writer of one type

A form says how a type is written in JSON and how it is read back.
-/

namespace TypedWiki.Json

/-- The JSON form of a type. -/
structure Form (α : Type) where
  write : α → String
  read : Reader α

namespace Form

/-- The value of a whole text. -/
def parse {α : Type} (f : Form α) (s : String) : Except Fault α := readAll f.read s

/-- The literals `true` and `false`. -/
def bool : Form Bool where
  write b := if b then "true" else "false"
  read := Json.bool

/-- A signed 64-bit integer. -/
def int64 : Form Int64 where
  write := Text.showInt64
  read := return Int64.ofInt (← integer Int64.minValue.toInt Int64.maxValue.toInt)

/-- A natural number below a bound. -/
def natBelow (bound : Nat) : Form Nat where
  write n := toString n
  read := return (← integer 0 (bound - 1)).toNat

/-- A string. -/
def string : Form String where
  write := writeString
  read := Json.string

/-- An array of any length. -/
def list {α : Type} (f : Form α) : Form (List α) where
  write xs := writeArray (xs.map f.write)
  read := array f.read

/-- The literal `null` stands for no value. -/
def option {α : Type} (f : Form α) : Form (Option α) where
  write
    | some x => f.write x
    | none => "null"
  read := optional f.read

/-- A choice without content, by the names of its cases. -/
def named {α : Type} (name : α → String) (ofName? : String → Option α) : Form α where
  write x := writeString (name x)
  read := Json.named ofName?

end Form

end TypedWiki.Json
