import TypedWiki.Reference.Document

/-!
# Reference resolvers — how a host reads and writes references

A resolver is a reader together with a writer.  The plain one uses the dotted form; a resolver with aliases puts a
table of short names in front of another one.
-/

namespace TypedWiki

/-- A way to read and write document references relative to a base. -/
structure ReferenceResolver where
  resolve : String → Option DocumentRef → Except ReferenceError DocumentRef
  serialize : DocumentRef → ReferenceMode → Option DocumentRef → String

namespace ReferenceResolver

/-- The resolver of the dotted form. -/
def plain : ReferenceResolver where
  resolve := DocumentRef.parse
  serialize := DocumentRef.serialize

instance : Inhabited ReferenceResolver := ⟨plain⟩

/-- Short names for documents. -/
abbrev Aliases := List (String × DocumentRef)

/-- The document that the text `@alias` stands for. -/
def Aliases.find? (table : Aliases) (input : String) : Option DocumentRef :=
  match input.toList with
  | '@' :: name => table.lookup (String.ofList name)
  | _ => none

/-- The least alias of a document in the order of code points. -/
def Aliases.nameOf? (table : Aliases) (r : DocumentRef) : Option String :=
  ((table.filter (·.2 = r)).map (·.1)).foldl
    (fun best name => match best with
      | none => some name
      | some b => some (if name < b then name else b)) none

/-- A resolver that knows aliases and leaves everything else to the plain one. -/
def aliased (table : Aliases) : ReferenceResolver where
  resolve input base :=
    match table.find? input with
    | some r => .ok r
    | none => plain.resolve input base
  serialize r mode base :=
    match table.nameOf? r with
    | some name => "@" ++ name
    | none => plain.serialize r mode base

end ReferenceResolver

end TypedWiki
