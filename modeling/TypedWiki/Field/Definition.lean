import TypedWiki.Field.Error
import TypedWiki.Field.Kind
import TypedWiki.Field.Name
import TypedWiki.Pattern.Match
import TypedWiki.Pattern.Parser
import TypedWiki.Reference.Class

/-!
# Field definitions — named, typed attributes of a class

A field is identified by its class and name.  Its value can be bound to a regular expression, which is put between
the marks for the start and the end of the text, and a list field to the values that can be selected.
-/

namespace TypedWiki

/-- A regular expression as written and as read. -/
structure Validation where
  source : String
  pattern : Pattern

/-- The definition of a field. -/
structure FieldDef where
  classRef : ClassRef
  name : String
  kind : FieldKind
  prettyName : String
  validation : Option Validation := none
  validationMessage : Option String := none

namespace FieldDef

/-- A field with the label that its name gives and without validation. -/
def make (classRef : ClassRef) (name : String) (kind : FieldKind) : FieldDef :=
  ⟨classRef, name, kind, FieldName.pretty name, none, none⟩

/-- The written form of a field. -/
def text (f : FieldDef) : String := f.classRef.text ++ "." ++ f.name

/-- Whether two definitions are of the same field; only class and name count. -/
def sameField (f g : FieldDef) : Bool := f.classRef = g.classRef && f.name = g.name

/-- Whether the values that can be selected allow a value. -/
def allowsSelection (f : FieldDef) (v : Value) : Bool :=
  match f.kind.listConfig? with
  | none => true
  | some config =>
    match v with
    | .list items => items.all config.allows
    | .text item => config.allows item
    | _ => false

/-- Whether a value is selectable and its flat text matches the pattern. -/
def validate (f : FieldDef) (v : Value) : Bool :=
  f.allowsSelection v && f.validation.all fun r => r.pattern.isMatch v.rawText

end FieldDef

/-- What is known of a field before it is defined. -/
structure FieldDraft where
  classRef : ClassRef
  name : String
  kind : FieldKind := .text none
  prettyName : Option String := none
  pattern : Option String := none
  message : Option String := none

namespace FieldDraft

/-- The label: the one given, unless it is blank, or the one that the name gives. -/
def label (d : FieldDraft) : String :=
  match d.prettyName with
  | some p => if Text.isBlank p then FieldName.pretty d.name else p
  | none => FieldName.pretty d.name

/-- Defines the field; a blank name and a pattern that is no regular expression are refused. -/
def build (d : FieldDraft) : Except FieldDefError FieldDef :=
  if Text.isBlank d.name then .error (.emptyName d.classRef.text)
  else match d.pattern with
    | none => .ok ⟨d.classRef, d.name, d.kind, d.label, none, d.message⟩
    | some source =>
      match Pattern.parseAnchored source with
      | .ok pattern => .ok ⟨d.classRef, d.name, d.kind, d.label, some ⟨source, pattern⟩, d.message⟩
      | .error fault => .error (.invalidPattern d.name fault.message)

end FieldDraft

end TypedWiki
