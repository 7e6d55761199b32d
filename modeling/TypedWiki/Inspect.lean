import TypedWiki.Mapping.Basic
import TypedWiki.Text.Quoted

/-!
# Inspection — one-line pictures of definitions

A picture shows the name of a thing and its parts in braces; texts are quoted, and parts that are left out are
shown by two dots.

The literals `\x7b` and `\x7d` are the two braces: spelled by code point, they leave the brackets of this file balanced.
-/

namespace TypedWiki.Inspect

/-- A list between brackets. -/
def list (items : List String) : String := "[" ++ String.intercalate ", " items ++ "]"

/-- A named thing with named parts. -/
def record (name : String) (parts : List (String × String)) : String :=
  name ++ " \x7b " ++ String.intercalate ", " (parts.map fun (k, v) => k ++ ": " ++ v) ++ " \x7d"

/-- A named thing around another one. -/
def wrap (name inner : String) : String := name ++ "(" ++ inner ++ ")"

/-- A part that may be absent. -/
def option : Option String → String
  | some s => wrap "Some" s
  | none => "None"

/-- A truth value. -/
def bool (b : Bool) : String := if b then "true" else "false"

/-- Several quoted texts. -/
def texts (items : List String) : String := list (items.map Text.quote)

/-- The name of a reference mode. -/
def mode : ReferenceMode → String
  | .global => "Global"
  | .inWiki => "Local"
  | .compact => "Compact"

/-- A class reference. -/
def classRef (c : ClassRef) : String :=
  record "ClassReference" [("space", Text.quote c.space), ("name", Text.quote c.name)]

/-- A field kind with its configuration. -/
def kind : FieldKind → String
  | .text size => record "Text" [("size", option (size.map toString))]
  | .largeText => "LargeText"
  | .number => "Number"
  | .boolean => "Boolean"
  | .date format => record "Date" [("format", Text.quote format)]
  | .list c => wrap "List" (record "ListConfig"
      [("multi_select", bool c.multiSelect), ("separator", Text.quote c.separator), ("values", texts c.values)])
  | .reference c => wrap "Reference" (record "ReferenceConfig"
      [("mode", option (c.mode.map mode)), ("size", option (c.size.map toString))])
  | .custom c => wrap "Custom" ("CustomConfig \x7b type_name: " ++ Text.quote c.typeName ++ ", .. \x7d")

/-- The name of a class kind. -/
def classKind : ClassKind → String
  | .standard => "Standard"
  | .pseudo => "Pseudo"

/-- A class; its fields are shown once they have been listed. -/
def classDef (c : ClassDef) (listed : Bool) : String :=
  record "ClassDefinition"
    [("class_ref", classRef c.classRef), ("kind", classKind c.kind), ("internal_mapping", bool c.internalMapping),
      ("fields", option (if listed then some (texts c.fieldMap.keys) else none))]

/-- An accessor for records; its members are shown by increasing name. -/
def recordAccessor {β : Type} (a : RecordAccessor β) : String :=
  record "BeanAccessor"
    [("bean", Text.quote a.typeName),
      ("properties", texts (a.members.keys.mergeSort fun x y => !(y < x)))]

/-- A mapping between records and objects. -/
def mapping {β : Type} (m : Mapping β) : String :=
  record "BeanObjectConverter"
    [("bean_accessor", recordAccessor m.records),
      ("class_def", option (m.classDef.map fun c => classRef c.classRef)),
      ("supplier", bool m.blank.isSome)]

end TypedWiki.Inspect
