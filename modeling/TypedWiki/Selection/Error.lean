/-!
# Selection errors — why matching objects were not found or created
-/

namespace TypedWiki

/-- The causes for which a selection fails. -/
inductive SelectionError where
  /-- At most one object may match. -/
  | notUnique (count : Nat)
  /-- Objects are only created for classes that the query names. -/
  | noClass
  deriving DecidableEq, Repr

namespace SelectionError

/-- The wording shown to the caller. -/
def message : SelectionError → String
  | .notUnique count => "Expected at most one matching object, found " ++ toString count
  | .noClass => "Query does not reference any class to create objects of"

/-- Whether too many objects matched. -/
def isNotUnique : SelectionError → Bool
  | .notUnique _ => true
  | .noClass => false

end SelectionError

end TypedWiki
