import TypedWiki.Reference.Mode
import TypedWiki.Text.Split

/-!
# Document references — wiki, space and name of a document

The written form is `wiki:space.name`.  The wiki ends at the first colon and the space at the last dot after it;
both may be left out and then come from a base reference.  No written part may be empty.
-/

namespace TypedWiki

/-- The address of one document. -/
structure DocumentRef where
  wiki : String
  space : String
  name : String
  deriving DecidableEq, Repr, Inhabited

namespace DocumentRef

/-- References in the order of wiki, space and name. -/
instance : Ord DocumentRef := ⟨compareLex (compareOn wiki) (compareLex (compareOn space) (compareOn name))⟩

instance : Std.TransOrd DocumentRef :=
  inferInstanceAs (Std.TransCmp (compareLex (compareOn wiki) (compareLex (compareOn space) (compareOn name))))

instance : Std.LawfulEqOrd DocumentRef where
  eq_of_compare {a b} h := by
    obtain ⟨hw, hsn⟩ := compareLex_eq_eq.1 h
    obtain ⟨hs, hn⟩ := compareLex_eq_eq.1 hsn
    cases a
    cases b
    rw [mk.injEq]
    exact ⟨Std.compare_eq_iff_eq.1 hw, Std.compare_eq_iff_eq.1 hs, Std.compare_eq_iff_eq.1 hn⟩

/-- The full written form. -/
def text (r : DocumentRef) : String := r.wiki ++ ":" ++ r.space ++ "." ++ r.name

/-- The written form without the wiki. -/
def textInWiki (r : DocumentRef) : String := r.space ++ "." ++ r.name

/-- The same document in another wiki. -/
def withWiki (r : DocumentRef) (wiki : String) : DocumentRef := { r with wiki := wiki }

/-- Writes a reference; the base matters in compact mode only, which without a base is global. -/
def serialize (r : DocumentRef) (mode : ReferenceMode) (base : Option DocumentRef) : String :=
  match mode, base with
  | .global, _ => r.text
  | .inWiki, _ => r.textInWiki
  | .compact, none => r.text
  | .compact, some b =>
    if b.wiki = r.wiki then
      if b.space = r.space then r.name else r.textInWiki
    else r.text

/-- The parts of a written reference. -/
structure Written where
  wiki : Option (List Char)
  space : Option (List Char)
  name : List Char
  deriving DecidableEq, Repr

namespace Written

/-- Cuts the wiki off at the first colon. -/
def cutWiki (cs : List Char) : Option (List Char) × List Char :=
  match Text.splitFirst ':' cs with
  | some (wiki, rest) => (some wiki, rest)
  | none => (none, cs)

/-- Cuts the space off at the last dot. -/
def cutSpace (cs : List Char) : Option (List Char) × List Char :=
  match Text.splitLast '.' cs with
  | some (space, name) => (some space, name)
  | none => (none, cs)

/-- Reads the parts; the first empty one, from the left, is reported. -/
def read (cs : List Char) : Except String Written :=
  let (wiki, rest) := cutWiki cs
  let (space, name) := cutSpace rest
  if wiki = some [] then .error "empty wiki segment"
  else if space = some [] then .error "empty space segment"
  else if name = [] then .error "empty name segment"
  else .ok ⟨wiki, space, name⟩

/-- Fills the parts left out from the base. -/
def complete (w : Written) (base : Option DocumentRef) : Except String DocumentRef :=
  match w.wiki.map String.ofList <|> base.map (·.wiki), w.space.map String.ofList <|> base.map (·.space) with
  | none, _ => .error "no wiki and no base reference"
  | some _, none => .error "no space and no base reference"
  | some wiki, some space => .ok ⟨wiki, space, String.ofList w.name⟩

end Written

/-- Reads `wiki:space.name`, `space.name` or `name`; parts left out come from `base`. -/
def parse (input : String) (base : Option DocumentRef) : Except ReferenceError DocumentRef :=
  let cs := Text.trimChars input.toList
  if cs = [] then .error .empty
  else match Written.read cs with
    | .error reason => .error (.unparseable input reason)
    | .ok w =>
      match w.complete base with
      | .error reason => .error (.unparseable input reason)
      | .ok r => .ok r

end DocumentRef

end TypedWiki
