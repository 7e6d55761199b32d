import TypedWiki.OrderedMap

/-!
# Settings — read-only configuration by key

A host shows its configuration as properties: texts under keys.  A reader of a property says what to use when it is
not set.
-/

namespace TypedWiki

/-- A source of configuration properties. -/
structure Settings where
  lookup : String → Option String

namespace Settings

/-- The property under `key`, or `fallback` when it is not set. -/
def property (s : Settings) (key fallback : String) : String := (s.lookup key).getD fallback

/-- The properties of a list of entries, of which the last one for a key counts. -/
def ofEntries (entries : List (String × String)) : Settings :=
  let m := OrderedMap.ofList entries
  ⟨m.get?⟩

/-- The key of the classes that are never created, a list between commas. -/
def blacklistKey : String := "wikimodel.classdefinition.blacklist"

/-- The key of the language of new documents. -/
def languageKey : String := "wikimodel.language.default"

/-- The key of the mode in which reference fields are stored. -/
def referenceModeKey : String := "wikimodel.reference.mode"

end Settings

end TypedWiki
