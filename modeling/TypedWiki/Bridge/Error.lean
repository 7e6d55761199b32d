import TypedWiki.Reference.Class

/-!
# Bridge errors — why the objects of a document were out of reach
-/

namespace TypedWiki

/-- The causes for which a bridge refuses an operation. -/
inductive BridgeError where
  /-- Objects were asked of a localized view. -/
  | notPrimary (document : DocumentRef) (language : String)
  /-- The bridge does not do this at all. -/
  | unsupported (operation : String)
  /-- The class is not registered. -/
  | unknownClass (c : ClassRef)
  deriving DecidableEq, Repr

namespace BridgeError

/-- The wording shown to the caller. -/
def message : BridgeError → String
  | .notPrimary document language =>
    "Objects of " ++ document.text ++ " are only held by the primary document, not the '" ++ language
      ++ "' translation"
  | .unsupported operation => "Operation not supported by this bridge: " ++ operation
  | .unknownClass c => "Unknown class: " ++ c.text

/-- Whether the caller broke a condition of the call. -/
def isPrecondition : BridgeError → Bool
  | .notPrimary .. => true
  | _ => false

/-- Whether a class was not found. -/
def isNotFound : BridgeError → Bool
  | .unknownClass _ => true
  | _ => false

end BridgeError

end TypedWiki
