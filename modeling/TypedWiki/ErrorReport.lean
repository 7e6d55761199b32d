import TypedWiki.Error

/-!
# Error reports — names, traits and subjects of errors

A report tells programs apart what people read in a message: the name of the cause, the predicates that hold, and
the thing that the error is about.
-/

namespace TypedWiki.Error

/-- The name of the cause, after the part of the model that it belongs to. -/
def kind : Error → String
  | reference .empty => "Reference.Empty"
  | reference (.unparseable ..) => "Reference.Unparseable"
  | reference (.unknownMode _) => "Reference.UnknownMode"
  | field (.missing ..) => "Field.Missing"
  | field (.typeMismatch ..) => "Field.TypeMismatch"
  | field (.failed ..) => "Field.Failed"
  | fieldDef (.emptyName _) => "FieldDef.EmptyName"
  | fieldDef (.invalidPattern ..) => "FieldDef.InvalidPattern"
  | schema (.duplicate _) => "Class.DuplicateClass"
  | schema (.unknown _) => "Class.UnknownClass"
  | schema (.notStorable ..) => "Class.NotStorable"
  | mapping (.notInitialized _) => "Convert.NotInitialized"
  | mapping (.alreadyInitialized _) => "Convert.AlreadyInitialized"
  | mapping (.classMismatch ..) => "Convert.ClassMismatch"
  | mapping (.conversion ..) => "Convert.Conversion"
  | id (.negativeCount ..) => "Id.NegativeCount"
  | id (.outOfRange ..) => "Id.OutOfRange"
  | id (.invalidLayout ..) => "Id.InvalidLayout"
  | bridge (.notPrimary ..) => "Bridge.NotPrimaryDocument"
  | bridge (.unsupported _) => "Bridge.UnsupportedOperation"
  | bridge (.unknownClass _) => "Bridge.UnknownClass"
  | selection (.notUnique _) => "Fetch.NotUnique"
  | selection .noClass => "Fetch.NoClass"
  | store (.notFound _) => "Store.DocumentNotFound"
  | store (.saveFailed ..) => "Store.SaveFailed"
  | store (.lockUnavailable ..) => "Store.LockUnavailable"
  | store (.poisoned _) => "Store.Poisoned"
  | store .expiryOverflow => "Store.ExpiryOverflow"
  | config (.parse _) => "Config.Parse"

/-- Whether malformed input of a reference was the cause. -/
def isParseError : Error → Bool
  | reference e => e.isParseError
  | _ => false

/-- Whether a count of an identifier was the cause. -/
def isCountError : Error → Bool
  | id e => e.isCountError
  | _ => false

/-- Whether too many objects matched. -/
def isNotUnique : Error → Bool
  | selection e => e.isNotUnique
  | _ => false

/-- The names of the predicates that hold. -/
def traits (e : Error) : List String :=
  [("is_not_found", e.isNotFound), ("is_field_missing", e.isFieldMissing),
    ("is_field_access_error", e.isFieldAccessError), ("is_type_error", e.isTypeError),
    ("is_illegal_state", e.isIllegalState), ("is_conflict", e.isConflict), ("is_precondition", e.isPrecondition),
    ("is_id_error", e.isIdError), ("is_lock_error", e.isLockError), ("is_config_error", e.isConfigError),
    ("is_parse_error", e.isParseError), ("is_count_error", e.isCountError), ("is_not_unique", e.isNotUnique)].filterMap
    fun (name, holds) => if holds then some name else none

/-- What the error is about: an input, a field, a class, a field error or a document. -/
def subject? : Error → Option String
  | reference e => e.input?
  | field e => some e.field
  | schema e => some e.classRef.text
  | mapping e => e.fieldError?.map (·.message)
  | store e => e.document?.map (·.text)
  | _ => none

end TypedWiki.Error
