import TypedWiki.Pattern.Property.Segment

/-!
# Property names — the character sets that patterns call by name

A name stands for a yes-or-no property, a general category or a script, in this order; with a value, it is the
category, the script, the extended script, the version of Unicode or the part in the segmentation of text.  Small and
capital letters are the same in names, and so are names with and without blanks, hyphens, low lines and a leading `is`.
-/

namespace TypedWiki.Pattern.Property

open Text (CodeSet)

/-- Whether a name starts with `is`. -/
def hasIs : List Char → Bool
  | c :: d :: _ => Text.asciiLower c = 'i' && Text.asciiLower d = 's'
  | _ => false

/-- The form in which names are listed; `isc` keeps its `is`. -/
def normalize (name : String) : String :=
  let cs := name.toList
  let rest := if hasIs cs then cs.drop 2 else cs
  let letters := (rest.filter fun c => c.toNat < 128 && c ≠ ' ' && c ≠ '_' && c ≠ '-').map Text.asciiLower
  String.ofList (if hasIs cs && letters = ['c'] then ['i', 's', 'c'] else letters)

/-- The set that a name stands for. -/
def named? (name : String) : Option CodeSet :=
  let name := normalize name
  binary? name <|> category? name <|> find? Text.scriptTable name

/-- The characters of a version of Unicode and those before it. -/
def age? (version : String) : Option CodeSet :=
  if Text.ageTable.any (·.1.contains version) then
    let before := Text.ageTable.takeWhile (!·.1.contains version)
    some ((unionOf (before.map (·.2))).union ((find? Text.ageTable version).getD ⟨[]⟩))
  else none

/-- The set that a property with a value stands for. -/
def valued? (name value : String) : Option CodeSet :=
  let value := normalize value
  match normalize name with
  | "gc" | "generalcategory" => category? value
  | "sc" | "script" => find? Text.scriptTable value
  | "scx" | "scriptextensions" => find? Text.scriptExtensionTable value <|> find? Text.scriptTable value
  | "age" => age? value
  | "gcb" | "graphemeclusterbreak" => grapheme? value
  | "wb" | "wordbreak" => word? value
  | "sb" | "sentencebreak" => sentence? value
  | _ => none

end TypedWiki.Pattern.Property
