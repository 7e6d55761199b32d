import TypedWiki.Reference.Document

/-!
# Class references — space and name of a class, in whatever wiki

A class reference is written `Space.Name`.  Reading ignores a wiki in front and cuts at the first dot, so the name
may hold dots and the space may not.
-/

namespace TypedWiki

/-- The address of a class, independent of the wiki. -/
structure ClassRef where
  space : String
  name : String
  deriving DecidableEq, Repr, Inhabited

namespace ClassRef

/-- The written form. -/
def text (c : ClassRef) : String := c.space ++ "." ++ c.name

/-- The document that holds the class in a wiki. -/
def document (c : ClassRef) (wiki : String) : DocumentRef := ⟨wiki, c.space, c.name⟩

/-- The class held by a document. -/
def ofDocument (r : DocumentRef) : ClassRef := ⟨r.space, r.name⟩

/-- The characters after the first colon, or all of them. -/
def dropWiki (cs : List Char) : List Char :=
  match Text.splitFirst ':' cs with
  | some (_, rest) => rest
  | none => cs

/-- Reads `Space.Name`, with or without a wiki in front. -/
def parse (input : String) : Except ReferenceError ClassRef :=
  let cs := Text.trimChars input.toList
  if cs = [] then .error .empty
  else match Text.splitFirst '.' (dropWiki cs) with
    | some (space, name) =>
      if space = [] ∨ name = [] then .error (.unparseable input "expected 'Space.Name'")
      else .ok ⟨String.ofList space, String.ofList name⟩
    | none => .error (.unparseable input "expected 'Space.Name'")

/-- Space and name compared in turn. -/
def compare (a b : ClassRef) : Ordering :=
  (Ord.compare a.space b.space).then (Ord.compare a.name b.name)

end ClassRef

end TypedWiki
