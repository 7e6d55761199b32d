import TypedWiki.Reference.Document

/-!
# Store errors — why a document was not loaded, saved or locked
-/

namespace TypedWiki

/-- The causes for which a store or a lock service fails. -/
inductive StoreError where
  /-- There is no such document. -/
  | notFound (document : DocumentRef)
  /-- The document was not saved. -/
  | saveFailed (document : DocumentRef) (reason : String)
  /-- Someone else has the lock. -/
  | lockUnavailable (document : DocumentRef) (lock : String)
  /-- An earlier failure left the state unusable. -/
  | poisoned (resource : String)
  /-- The time at which a lock expires is beyond the clock. -/
  | expiryOverflow
  deriving DecidableEq, Repr

namespace StoreError

/-- The wording shown to the caller. -/
def message : StoreError → String
  | .notFound document => "Document not found: " ++ document.text
  | .saveFailed document reason => "Failed to save " ++ document.text ++ ": " ++ reason
  | .lockUnavailable document lock => "Lock '" ++ lock ++ "' on " ++ document.text ++ " is held by another owner"
  | .poisoned resource => "Store state poisoned: " ++ resource
  | .expiryOverflow => "Lock expiry is beyond the clock"

/-- The document in question. -/
def document? : StoreError → Option DocumentRef
  | .notFound document => some document
  | .saveFailed document _ => some document
  | .lockUnavailable document _ => some document
  | .poisoned _ => none
  | .expiryOverflow => none

/-- Whether the document was not found. -/
def isNotFound : StoreError → Bool
  | .notFound _ => true
  | _ => false

/-- Whether a lock was in the way. -/
def isLockError : StoreError → Bool
  | .lockUnavailable .. => true
  | _ => false

end StoreError

end TypedWiki
