/-!
# Field errors — why a field was not defined, read or written

A field that a representation does not have is told apart from one that it has but cannot read or write; a
conversion tolerates the first and stops at the second.
-/

namespace TypedWiki

/-- The causes for which a field is not read or written. -/
inductive FieldError where
  /-- The representation has no such field. -/
  | missing (field target : String)
  /-- The value has the wrong type. -/
  | typeMismatch (field expected actual : String)
  /-- The representation failed on a field that it has. -/
  | failed (field reason : String)
  deriving DecidableEq, Repr

namespace FieldError

/-- The wording shown to the caller. -/
def message : FieldError → String
  | .missing field target => "Field '" ++ field ++ "' is not defined on " ++ target
  | .typeMismatch field expected actual =>
    "Type mismatch for field '" ++ field ++ "': expected " ++ expected ++ ", found " ++ actual
  | .failed field reason => "Failed to access field '" ++ field ++ "': " ++ reason

/-- The name of the field. -/
def field : FieldError → String
  | .missing field _ => field
  | .typeMismatch field _ _ => field
  | .failed field _ => field

/-- Whether the representation lacks the field. -/
def isMissing : FieldError → Bool
  | .missing .. => true
  | _ => false

/-- Whether the representation has the field and failed on it. -/
def isAccessError (e : FieldError) : Bool := !e.isMissing

/-- Whether the value had the wrong type. -/
def isTypeError : FieldError → Bool
  | .typeMismatch .. => true
  | _ => false

end FieldError

/-- The causes for which a field is not defined. -/
inductive FieldDefError where
  /-- The name is blank. -/
  | emptyName (className : String)
  /-- The validation pattern is no regular expression. -/
  | invalidPattern (field reason : String)
  deriving DecidableEq, Repr

namespace FieldDefError

/-- The wording shown to the caller. -/
def message : FieldDefError → String
  | .emptyName className => "Field name must not be empty (class " ++ className ++ ")"
  | .invalidPattern field reason => "Invalid validation pattern for field '" ++ field ++ "': " ++ reason

end FieldDefError

end TypedWiki
