import TypedWiki.Field.Error
import TypedWiki.Reference.Class

/-!
# Mapping errors — why a record and an object were not converted into each other
-/

namespace TypedWiki

/-- The causes for which a conversion fails. -/
inductive MappingError where
  /-- A part of the mapping was used before it was set. -/
  | notInitialized (what : String)
  /-- A part of the mapping was set twice. -/
  | alreadyInitialized (what : String)
  /-- The object is of another class than the mapping. -/
  | classMismatch (expected actual : ClassRef)
  /-- A field could not be read or written. -/
  | conversion (field : String) (cause : FieldError)
  deriving DecidableEq, Repr

namespace MappingError

/-- The wording shown to the caller. -/
def message : MappingError → String
  | .notInitialized what => "Converter " ++ what ++ " is not initialized"
  | .alreadyInitialized what => "Converter " ++ what ++ " is already initialized"
  | .classMismatch expected actual =>
    "Cannot convert object of class " ++ actual.text ++ ", converter is bound to " ++ expected.text
  | .conversion field _ => "Conversion of field '" ++ field ++ "' failed"

/-- The field error behind the failure. -/
def fieldError? : MappingError → Option FieldError
  | .conversion _ cause => some cause
  | _ => none

/-- Whether the mapping was set up wrongly. -/
def isIllegalState : MappingError → Bool
  | .notInitialized _ | .alreadyInitialized _ => true
  | _ => false

end MappingError

end TypedWiki
