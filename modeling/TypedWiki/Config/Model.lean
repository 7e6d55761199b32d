import TypedWiki.Config.Settings
import TypedWiki.Identifier.Json
import TypedWiki.Value.Json

/-!
# Model configuration — typed settings read from JSON
-/

namespace TypedWiki

/-- Why a configuration was not read. -/
inductive ConfigError where
  /-- The text is no configuration; `badLayout` tells that an unusable identifier layout was the cause. -/
  | parse (badLayout : Bool)
  deriving DecidableEq, Repr

/-- The typed configuration of the model. -/
structure ModelConfig where
  /-- Classes that are never created. -/
  blacklistedClasses : List String := []
  /-- The language of primary documents. -/
  defaultLanguage : String := "en"
  /-- The mode of reference fields. -/
  referenceMode : ReferenceMode := .standard
  /-- The layout of identifiers. -/
  idLayout : IdLayout := .standard
  deriving DecidableEq, Repr

namespace ModelConfig

/-- The JSON form: a record in which every field may be left out. -/
def form : Json.Form ModelConfig where
  write c := Json.writeObject
    [("blacklisted_classes", Json.Form.string.list.write c.blacklistedClasses),
      ("default_language", Json.writeString c.defaultLanguage),
      ("reference_mode", ReferenceMode.form.write c.referenceMode),
      ("id_layout", IdLayout.form.write c.idLayout)]
  read := Json.record
    [⟨"blacklisted_classes", fun c => return { c with blacklistedClasses := ← Json.Form.string.list.read }⟩,
      ⟨"default_language", fun c => return { c with defaultLanguage := ← Json.string }⟩,
      ⟨"reference_mode", fun c => return { c with referenceMode := ← ReferenceMode.form.read }⟩,
      ⟨"id_layout", fun c => return { c with idLayout := ← IdLayout.form.read }⟩]
    {}

/-- Reads a configuration; an unusable identifier layout is an error like any other. -/
def parse (s : String) : Except ConfigError ModelConfig :=
  match form.parse s with
  | .ok c => .ok c
  | .error fault => .error (.parse (fault = .refused))

/-- The configuration as properties. -/
def settings (c : ModelConfig) : Settings where
  lookup key :=
    if key = Settings.blacklistKey then some (Text.join "," c.blacklistedClasses)
    else if key = Settings.languageKey then some c.defaultLanguage
    else if key = Settings.referenceModeKey then some c.referenceMode.name
    else none

end ModelConfig

end TypedWiki
