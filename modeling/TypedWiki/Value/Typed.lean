import TypedWiki.Value

/-!
# Typed values — the types that values are made of

Each type of field value embeds into `Value` and is recovered from it.  A list is also recovered from a text, as
the list of that one item, since a selection of one value is held as text.
-/

namespace TypedWiki

open Time (Timestamp)

/-- A type whose members are field values. -/
class FieldValue (α : Type) where
  /-- The name of the type in errors. -/
  typeName : String
  toValue : α → Value
  ofValue? : Value → Option α

instance : FieldValue String where
  typeName := "text"
  toValue := .text
  ofValue? := Value.asText?

instance : FieldValue Int64 where
  typeName := "int"
  toValue := .int
  ofValue? := Value.asInt?

instance : FieldValue Bool where
  typeName := "bool"
  toValue := .bool
  ofValue? := Value.asBool?

instance : FieldValue Timestamp where
  typeName := "date"
  toValue := .date
  ofValue? := Value.asDate?

instance : FieldValue (List String) where
  typeName := "list"
  toValue := .list
  ofValue?
    | .list items => some items
    | .text s => some [s]
    | _ => none

instance : FieldValue DocumentRef where
  typeName := "reference"
  toValue := .reference
  ofValue? := Value.asReference?

end TypedWiki
