/-!
# Identifier errors — why no identifier was computed
-/

namespace TypedWiki

/-- The causes for which an identifier or a layout is refused; counts are never cut to fit. -/
inductive IdError where
  /-- A count is below zero. -/
  | negativeCount (what : String) (count : Int)
  /-- A count does not fit into its bits. -/
  | outOfRange (what : String) (count : Int) (limit : Nat)
  /-- The bits of the counts leave none for the document. -/
  | invalidLayout (collisionBits ordinalBits : Nat)
  deriving DecidableEq, Repr

namespace IdError

/-- The wording shown to the caller. -/
def message : IdError → String
  | .negativeCount what count => "Invalid " ++ what ++ ": negative count " ++ toString count
  | .outOfRange what count limit =>
    "Invalid " ++ what ++ ": " ++ toString count ++ " is outside of defined range [0, " ++ toString limit ++ ")"
  | .invalidLayout c o =>
    "Invalid id layout: " ++ toString c ++ " collision bits and " ++ toString o
      ++ " ordinal bits leave no hash bits"

/-- Whether a count was the cause. -/
def isCountError : IdError → Bool
  | .negativeCount .. | .outOfRange .. => true
  | .invalidLayout .. => false

end IdError

end TypedWiki
