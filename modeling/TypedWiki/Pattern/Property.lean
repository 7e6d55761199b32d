import TypedWiki.Text.Blank
import TypedWiki.Text.Category
import TypedWiki.Text.LetterCase
import TypedWiki.Text.Property
import TypedWiki.Text.Recent

/-!
# Properties — the categories and yes-or-no properties that patterns know

The properties are those of Unicode 16.0.  What follows from categories, letter case and a few characters more is put
together here; the others have tables of their own.
-/

namespace TypedWiki.Pattern.Property

open Text (CodeSet)

/-- The set that a table lists under a name. -/
def find? (table : List (List String × CodeSet)) (name : String) : Option CodeSet :=
  (table.find? (·.1.contains name)).map (·.2)

/-- The union of several sets. -/
def unionOf (sets : List CodeSet) : CodeSet := sets.foldl .union ⟨[]⟩

/-! ### Categories -/

/-- The union of listed categories. -/
def categories (names : List String) : CodeSet := unionOf (names.filterMap (find? Text.categoryTable))

/-- The code points in some category. -/
def assigned : CodeSet := unionOf (Text.categoryTable.map (·.2))

/-- A general category, a group of them or one of the sets of all, all assigned and all ASCII characters. -/
def category? (name : String) : Option CodeSet :=
  match name with
  | "any" => some .all
  | "assigned" => some assigned
  | "ascii" => some ⟨[0, 128]⟩
  | "cn" | "unassigned" => some (CodeSet.all.diff assigned)
  | "c" | "other" => some (CodeSet.all.diff (assigned.diff (categories ["cc", "cf", "co"])))
  | "l" | "letter" => some (categories ["lu", "ll", "lt", "lm", "lo"])
  | "lc" | "casedletter" => some (categories ["lu", "ll", "lt"])
  | "m" | "mark" | "combiningmark" => some (categories ["mn", "mc", "me"])
  | "n" | "number" => some (categories ["nd", "nl", "no"])
  | "p" | "punctuation" | "punct" => some (categories ["pc", "pd", "ps", "pe", "pi", "pf", "po"])
  | "s" | "symbol" => some (categories ["sm", "sc", "sk", "so"])
  | "z" | "separator" => some (categories ["zs", "zl", "zp"])
  | _ => find? Text.categoryTable name

/-! ### Yes-or-no properties -/

/-- The property `Grapheme_Extend`. -/
def extenders : CodeSet :=
  (categories ["mn", "me"]).union (.ofGaps "
    2494 1 24 1 358 1 24 1 102 1 24 1 232 1 1 1 4 2 1 2 9 2 103 1 24 1 119 1 15 1 2357 1 30 1 1024 1 5 1 1 1 5 2 101
    1 71 2 1048 1 4129 2 31011 1 108 1 21981 2 4640 1 116 1 264 1 14 1 9 1 96 1 9 1 2 1 1 3 5 1 224 1 12 1 241 1 262
    1 633 1 12 1 1539 1 20654 2 24947 2 6 6 798381 96")

/-- The property `Alphabetic`. -/
def letters : CodeSet := Text.alphabeticTable.diff Text.recentTable

/-- The property `Uppercase`. -/
def capitals : CodeSet := Text.uppercaseTable.diff Text.recentTable

/-- The property `Lowercase`; U+0295 belonged to it before it got letters of both cases beside it. -/
def smalls : CodeSet := (Text.lowercaseTable.diff Text.recentTable).union ⟨[0x295, 0x296]⟩

/-- What adds to the property `ID_Start` beside letters. -/
def otherStarters : CodeSet := .ofList [0x1885, 0x1886, 0x2118, 0x212E, 0x309B, 0x309C]

/-- What adds to the property `ID_Continue` beside letters, marks, digits and connectors. -/
def otherContinuers : CodeSet :=
  (CodeSet.interval 0x1369 0x1371).union
    (.ofList [0xB7, 0x387, 0x19DA, 0x200C, 0x200D, 0x30FB, 0xFF65])

/-- What adds to the property `Default_Ignorable_Code_Point` beside format characters and variation selectors. -/
def otherIgnorables : CodeSet :=
  unionOf [.ofList [0x34F, 0x115F, 0x1160, 0x17B4, 0x17B5, 0x2065, 0x3164, 0xFFA0, 0xE0000],
    .interval 0xFFF0 0xFFF8, .interval 0xE0002 0xE001F, .interval 0xE0080 0xE00FF, .interval 0xE01F0 0xE0FFF]

/-- The property `ID_Start`. -/
def starters : CodeSet :=
  ((categories ["lu", "ll", "lt", "lm", "lo", "nl"]).union otherStarters).diff ⟨[0x2E2F, 0x2E30]⟩

/-- The property `ID_Continue`. -/
def continuers : CodeSet :=
  unionOf [starters, categories ["mn", "mc", "nd", "pc"], otherContinuers]

/-- What compatibility forms take out of both the starting and the continuing characters. -/
def compatibilityForms : CodeSet :=
  .ofList [0x37A, 0x309B, 0x309C, 0xFC5E, 0xFC5F, 0xFC60, 0xFC61, 0xFC62, 0xFC63, 0xFDFA, 0xFDFB, 0xFE70, 0xFE72,
    0xFE74, 0xFE76, 0xFE78, 0xFE7A, 0xFE7C, 0xFE7E]

/-- Punctuation that the case of words passes over. -/
def caseIgnorablePunctuation : CodeSet :=
  .ofList [0x27, 0x2E, 0x3A, 0xB7, 0x387, 0x55F, 0x5F4, 0x2018, 0x2019, 0x2024, 0x2027, 0xFE13, 0xFE52, 0xFE55, 0xFF07,
    0xFF0E, 0xFF1A]

/-- A yes-or-no property. -/
def binary? (name : String) : Option CodeSet :=
  match name with
  | "alphabetic" | "alpha" => some letters
  | "uppercase" | "upper" => some capitals
  | "lowercase" | "lower" => some smalls
  | "whitespace" | "wspace" | "space" => some Text.spaceTable
  | "cased" => some ((capitals.union smalls).union (categories ["lt"]))
  | "caseignorable" | "ci" =>
    some ((categories ["mn", "me", "cf", "lm", "sk"]).union caseIgnorablePunctuation)
  | "graphemebase" | "grbase" =>
    some ((assigned.diff (categories ["cc", "cf", "co", "zl", "zp"])).diff extenders)
  | "graphemeextend" | "grext" => some extenders
  | "idstart" | "ids" => some starters
  | "idcontinue" | "idc" => some continuers
  | "xidstart" | "xids" =>
    some ((starters.diff compatibilityForms).diff (.ofList [0xE33, 0xEB3, 0xFF9E, 0xFF9F]))
  | "xidcontinue" | "xidc" => some (continuers.diff compatibilityForms)
  | "otheralphabetic" | "oalpha" => some (letters.diff (categories ["lu", "ll", "lt", "lm", "lo", "nl"]))
  | "otheruppercase" | "oupper" => some (capitals.diff (categories ["lu"]))
  | "otherlowercase" | "olower" => some (smalls.diff (categories ["ll"]))
  | "othermath" | "omath" => (find? Text.propertyTable "math").map (·.diff (categories ["sm"]))
  | "othergraphemeextend" | "ogrext" => some (extenders.diff (categories ["mn", "me"]))
  | "otheridstart" | "oids" => some otherStarters
  | "otheridcontinue" | "oidc" => some otherContinuers
  | "otherdefaultignorablecodepoint" | "odi" => some otherIgnorables
  | _ => find? Text.propertyTable name

end TypedWiki.Pattern.Property
