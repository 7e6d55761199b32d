import TypedWiki.Reference.Error
import TypedWiki.Text.Blank
import TypedWiki.Text.LetterCase

/-!
# Reference modes — how much of a reference is written
-/

namespace TypedWiki

/-- How much of a reference is written out. -/
inductive ReferenceMode where
  /-- Everything: wiki, space and name. -/
  | global
  /-- Space and name without the wiki. -/
  | inWiki
  /-- Only what differs from a base reference. -/
  | compact
  deriving DecidableEq, Repr, Inhabited

namespace ReferenceMode

/-- The name of a mode in configuration. -/
def name : ReferenceMode → String
  | .global => "global"
  | .inWiki => "local"
  | .compact => "compact"

/-- The mode used where none is chosen. -/
def standard : ReferenceMode := .compact

/-- The mode of exactly this name. -/
def ofName? (s : String) : Option ReferenceMode :=
  [global, inWiki, compact].find? (·.name = s)

/-- Reads a mode name; white space around it and the case of ASCII letters do not matter. -/
def parse (s : String) : Except ReferenceError ReferenceMode :=
  let word := String.ofList ((Text.trimChars s.toList).map Text.asciiLower)
  match ofName? word with
  | some mode => .ok mode
  | none => .error (.unknownMode word)

@[simp] theorem ofName?_name (m : ReferenceMode) : ofName? m.name = some m := by
  cases m <;> decide

end ReferenceMode

end TypedWiki
