/-!
# Reference errors — why a written reference was refused
-/

namespace TypedWiki

/-- The causes for which a reference, or the name of a reference mode, is refused. -/
inductive ReferenceError where
  /-- Nothing but white space was given. -/
  | empty
  /-- The input is not of the expected form. -/
  | unparseable (input reason : String)
  /-- There is no reference mode of this name. -/
  | unknownMode (mode : String)
  deriving DecidableEq, Repr

namespace ReferenceError

/-- The wording shown to the caller. -/
def message : ReferenceError → String
  | .empty => "Cannot resolve an empty reference"
  | .unparseable input reason => "Unparseable reference '" ++ input ++ "': " ++ reason
  | .unknownMode mode => "Unknown reference serialization mode '" ++ mode ++ "'"

/-- Whether malformed input was the cause. -/
def isParseError : ReferenceError → Bool
  | .empty | .unparseable .. => true
  | .unknownMode _ => false

/-- The offending input, where the error keeps it. -/
def input? : ReferenceError → Option String
  | .unparseable input _ => some input
  | _ => none

end ReferenceError

end TypedWiki
