import TypedWiki.Json.Form
import TypedWiki.Reference.Class
import TypedWiki.Time.Offset
import TypedWiki.Value

/-!
# JSON forms of values and references

References are records of their parts.  A value is a choice tagged by its type; a date is its RFC 3339 text.
-/

namespace TypedWiki

open Json (Form Reader)

/-- Parts of a reference read so far. -/
structure ReferenceParts where
  wiki : Option String := none
  space : Option String := none
  name : Option String := none

namespace ReferenceParts

/-- The wiki is a string. -/
def wikiField : Json.Field ReferenceParts :=
  ⟨"wiki", fun p => return { p with wiki := some (← Json.string) }⟩

/-- The space is a string. -/
def spaceField : Json.Field ReferenceParts :=
  ⟨"space", fun p => return { p with space := some (← Json.string) }⟩

/-- The name is a string. -/
def nameField : Json.Field ReferenceParts :=
  ⟨"name", fun p => return { p with name := some (← Json.string) }⟩

end ReferenceParts

open ReferenceParts in
/-- A document reference is a record of wiki, space and name. -/
def DocumentRef.form : Form DocumentRef where
  write r := Json.writeObject
    [("wiki", Json.writeString r.wiki), ("space", Json.writeString r.space), ("name", Json.writeString r.name)]
  read := do
    match ← Json.record [wikiField, spaceField, nameField] {} with
    | ⟨some wiki, some space, some name⟩ => return ⟨wiki, space, name⟩
    | _ => Json.fail

open ReferenceParts in
/-- A class reference is a record of space and name. -/
def ClassRef.form : Form ClassRef where
  write c := Json.writeObject [("space", Json.writeString c.space), ("name", Json.writeString c.name)]
  read := do
    match ← Json.record [spaceField, nameField] {} with
    | ⟨_, some space, some name⟩ => return ⟨space, name⟩
    | _ => Json.fail

/-- A timestamp is written in UTC and read with any offset. -/
def Time.Timestamp.form : Form Time.Timestamp where
  write t := Json.writeString (t.rfc3339 "Z")
  read := do
    match Time.Timestamp.ofOffsetText? (← Json.string) with
    | some t => return t
    | none => Json.fail

/-- A reference mode is its name. -/
def ReferenceMode.form : Form ReferenceMode := Form.named ReferenceMode.name ReferenceMode.ofName?

/-- A value is tagged with its type. -/
def Value.form : Form Value where
  write
    | .bool b => Json.writeTagged "Bool" (Form.bool.write b)
    | .int n => Json.writeTagged "Int" (Form.int64.write n)
    | .text s => Json.writeTagged "Text" (Form.string.write s)
    | .date t => Json.writeTagged "Date" (Time.Timestamp.form.write t)
    | .list items => Json.writeTagged "List" (Form.string.list.write items)
    | .reference r => Json.writeTagged "Reference" (DocumentRef.form.write r)
  read := Json.tagged (fun _ => none) fun name => do
    match name with
    | "Bool" => return .bool (← Form.bool.read)
    | "Int" => return .int (← Form.int64.read)
    | "Text" => return .text (← Form.string.read)
    | "Date" => return .date (← Time.Timestamp.form.read)
    | "List" => return .list (← Form.string.list.read)
    | "Reference" => return .reference (← DocumentRef.form.read)
    | _ => Json.fail

end TypedWiki
