import TypedWiki.Reference.Class

/-!
# Class errors — why a class was not registered, found or stored
-/

namespace TypedWiki

/-- The causes for which a class is refused. -/
inductive ClassError where
  /-- A class of the same reference is registered. -/
  | duplicate (c : ClassRef)
  /-- No class of this reference is registered. -/
  | unknown (c : ClassRef)
  /-- The class is not for storing. -/
  | notStorable (c : ClassRef) (reason : String)
  deriving DecidableEq, Repr

namespace ClassError

/-- The wording shown to the caller. -/
def message : ClassError → String
  | .duplicate c => "Class already registered: " ++ c.text
  | .unknown c => "Unknown class: " ++ c.text
  | .notStorable c reason => "Class " ++ c.text ++ " cannot be stored: " ++ reason

/-- The class in question. -/
def classRef : ClassError → ClassRef
  | .duplicate c => c
  | .unknown c => c
  | .notStorable c _ => c

/-- Whether the class was not found. -/
def isNotFound : ClassError → Bool
  | .unknown _ => true
  | _ => false

/-- Whether another class stands in the way. -/
def isConflict : ClassError → Bool
  | .duplicate _ => true
  | _ => false

end ClassError

end TypedWiki
