import TypedWiki.Json.Form
import TypedWiki.Reference.Class
import TypedWiki.Reference.Resolver
import TypedWiki.Time.Reading
import TypedWiki.Value.Typed

/-!
# Codecs — values as stored text and back

A codec writes values of one type and resolves texts to them.  Resolving never fails loudly: what cannot be read
resolves to nothing, as an absent value would.
-/

namespace TypedWiki

open Time (Timestamp DateFormats)

/-- A way to store values of one type as text. -/
structure Codec (α : Type) where
  serialize : α → String
  resolve : String → Option α

namespace Codec

/-- A codec from a writer and a reader of texts without white space around them. -/
def ofTrimmed {α : Type} (serialize : α → String) (read : String → Option α) : Codec α :=
  ⟨serialize, fun raw => read (Text.trim raw)⟩

/-- Signed 64-bit integers in decimal. -/
def int : Codec Int64 := ofTrimmed Text.showInt64 Text.readInt64

/-- The words `true` and `false`. -/
def bool : Codec Bool :=
  ofTrimmed (fun b => if b then "true" else "false") fun s =>
    if s = "true" then some true else if s = "false" then some false else none

/-- Texts without the white space around them. -/
def text : Codec String := ofTrimmed id some

/-- Class references in their dotted form. -/
def classRef : Codec ClassRef := ofTrimmed ClassRef.text fun s => (ClassRef.parse s).toOption

/-- The format that dates have where none is chosen. -/
def defaultDateFormat : String := "%Y-%m-%d %H:%M:%S"

/-- Dates in a format; one without a time of day gives the midnight of its day. -/
def date (dates : DateFormats) (format : String) : Codec Timestamp :=
  ofTrimmed (dates.write format) fun s =>
    match dates.readDateTime format s with
    | some (d, c) => some (.ofParts d c)
    | none => (dates.readDate format s).map fun d => .ofParts d ⟨0, 0, 0, 0⟩

/-- References relative to a base, by a resolver. -/
def reference (resolver : ReferenceResolver) (mode : ReferenceMode) (base : Option DocumentRef) :
    Codec DocumentRef where
  serialize r := resolver.serialize r mode base
  resolve raw :=
    match resolver.resolve raw base with
    | .ok r => some r
    | .error _ => none

/-- Values in their JSON form. -/
def json {α : Type} (form : Json.Form α) : Codec α where
  serialize := form.write
  resolve raw := (form.parse raw).toOption

/-- A codec of one type on all values: values of other types are written as their flat text. -/
def dynamic {α : Type} [FieldValue α] (c : Codec α) : Codec Value where
  serialize v :=
    match FieldValue.ofValue? (α := α) v with
    | some x => c.serialize x
    | none => v.rawText
  resolve raw := (c.resolve raw).map FieldValue.toValue

/-- What a text becomes when it is read and written back. -/
def canonical? {α : Type} (c : Codec α) (raw : String) : Option String := (c.resolve raw).map c.serialize

/-- Whether a codec reads back what it writes for a value. -/
def RoundTrips {α : Type} (c : Codec α) (x : α) : Prop := c.resolve (c.serialize x) = some x

/-! ### Laws -/

/-- A text stands for the reference that the resolver reads from it. -/
theorem resolve_reference_eq_some_iff {resolver : ReferenceResolver} {mode : ReferenceMode} {base : Option DocumentRef}
    {raw : String} {r : DocumentRef} :
    (reference resolver mode base).resolve raw = some r ↔ resolver.resolve raw base = .ok r := by
  simp only [reference]
  cases resolver.resolve raw base <;> simp

end Codec

end TypedWiki
