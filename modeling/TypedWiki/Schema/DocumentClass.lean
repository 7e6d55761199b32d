import TypedWiki.Schema.Class

/-!
# The document class — the fields of documents themselves
-/

namespace TypedWiki.DocumentClass

/-- The reference of the document class. -/
def ref : ClassRef := ⟨"WikiModel", "DocumentClass"⟩

/-- The field for the title. -/
def title : String := "title"
/-- The field for the text of the document. -/
def content : String := "content"
/-- The field for the document above. -/
def parent : String := "parent"
/-- The field that keeps the document out of listings. -/
def hidden : String := "hidden"
/-- The field for the language of the primary document. -/
def defaultLanguage : String := "default_language"

/-- The pseudo class whose fields are those of documents. -/
def definition : ClassDef where
  classRef := ref
  kind := .pseudo
  declared :=
    [FieldDef.make ref title (.text none),
      FieldDef.make ref content .largeText,
      FieldDef.make ref parent (.reference { mode := some .compact }),
      FieldDef.make ref hidden .boolean,
      FieldDef.make ref defaultLanguage (.text none)]

/-- The document field of a name. -/
def field? (name : String) : Option FieldDef := definition.field? name

end TypedWiki.DocumentClass
