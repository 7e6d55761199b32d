import TypedWiki.Bridge.Error
import TypedWiki.Config.Model
import TypedWiki.Mapping.Error
import TypedWiki.Schema.Error
import TypedWiki.Selection.Error
import TypedWiki.Store.Error

/-!
# Errors — every way in which the model fails

An error keeps the part of the model that it comes from.  The predicates sort errors by what a caller can do about
them, whatever part they come from.
-/

namespace TypedWiki

/-- An error of any part of the model. -/
inductive Error where
  | reference (e : ReferenceError)
  | field (e : FieldError)
  | fieldDef (e : FieldDefError)
  | schema (e : ClassError)
  | mapping (e : MappingError)
  | id (e : IdError)
  | bridge (e : BridgeError)
  | selection (e : SelectionError)
  | store (e : StoreError)
  | config (e : ConfigError)
  deriving DecidableEq

namespace Error

/-- The name of the part that an error comes from. -/
def module : Error → String
  | reference _ => "reference"
  | field _ => "field"
  | fieldDef _ => "field"
  | schema _ => "class"
  | mapping _ => "convert"
  | id _ => "id"
  | bridge _ => "bridge"
  | selection _ => "fetch"
  | store _ => "store"
  | config _ => "config"

/-- The wording shown to the caller. -/
def message : Error → String
  | reference e => e.message
  | field e => e.message
  | fieldDef e => e.message
  | schema e => e.message
  | mapping e => e.message
  | id e => e.message
  | bridge e => e.message
  | selection e => e.message
  | store e => e.message
  | config _ => "Failed to parse configuration"

/-- The field error that an error is or is caused by. -/
def fieldError? : Error → Option FieldError
  | field e => some e
  | mapping e => e.fieldError?
  | _ => none

/-- Whether something was not found. -/
def isNotFound : Error → Bool
  | schema e => e.isNotFound
  | bridge e => e.isNotFound
  | store e => e.isNotFound
  | _ => false

/-- Whether a representation does not have a field. -/
def isFieldMissing (e : Error) : Bool := e.fieldError?.any (·.isMissing)

/-- Whether access to a field failed; within a conversion every field error counts. -/
def isFieldAccessError : Error → Bool
  | field e => e.isAccessError
  | mapping e => e.fieldError?.isSome
  | _ => false

/-- Whether a value had the wrong type. -/
def isTypeError (e : Error) : Bool := e.fieldError?.any (·.isTypeError)

/-- Whether a mapping was set up wrongly. -/
def isIllegalState : Error → Bool
  | mapping e => e.isIllegalState
  | _ => false

/-- Whether something exists already. -/
def isConflict : Error → Bool
  | schema e => e.isConflict
  | _ => false

/-- Whether the caller broke a condition of the call. -/
def isPrecondition : Error → Bool
  | bridge e => e.isPrecondition
  | _ => false

/-- Whether no identifier was computed. -/
def isIdError : Error → Bool
  | id _ => true
  | _ => false

/-- Whether a lock was in the way. -/
def isLockError : Error → Bool
  | store e => e.isLockError
  | _ => false

/-- Whether a configuration was not read. -/
def isConfigError : Error → Bool
  | config _ => true
  | _ => false

end Error

end TypedWiki
