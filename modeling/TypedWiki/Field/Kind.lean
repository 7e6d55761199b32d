import TypedWiki.Codec

/-!
# Field kinds — the semantic type of a field and its configuration
-/

namespace TypedWiki

/-- The configuration of a selection from a list. -/
structure ListConfig where
  /-- Whether several values can be selected. -/
  multiSelect : Bool
  /-- What is shown between selected values. -/
  separator : String := Value.listDelimiter
  /-- The values that can be selected; an empty list allows any. -/
  values : List String := []
  deriving DecidableEq, Repr

/-- Whether an item can be selected. -/
def ListConfig.allows (c : ListConfig) (item : String) : Bool := c.values.isEmpty || c.values.contains item

/-- The configuration of a reference field; without a mode it follows the accessor. -/
structure ReferenceConfig where
  mode : Option ReferenceMode := none
  size : Option Nat := none
  deriving DecidableEq, Repr

/-- The configuration of a field stored by a codec of its own. -/
structure CustomConfig where
  codec : Codec Value
  /-- The type that the codec resolves to. -/
  typeName : String

/-- What a field holds and how it is stored. -/
inductive FieldKind where
  | text (size : Option Nat)
  | largeText
  | number
  | boolean
  | date (format : String)
  | list (config : ListConfig)
  | reference (config : ReferenceConfig)
  | custom (config : CustomConfig)

namespace FieldKind

instance : Inhabited FieldKind := ⟨.text none⟩

/-- The token that names a kind in a stored schema. -/
def token : FieldKind → String
  | .text _ => "text"
  | .largeText => "largetext"
  | .number => "number"
  | .boolean => "boolean"
  | .date _ => "date"
  | .list _ => "list"
  | .reference _ => "reference"
  | .custom _ => "custom"

/-- The name of the type of value that a kind holds. -/
def valueType : FieldKind → String
  | .text _ => "text"
  | .largeText => "text"
  | .number => "int"
  | .boolean => "bool"
  | .date _ => "date"
  | .list config => if config.multiSelect then "list" else "text"
  | .reference _ => "reference"
  | .custom config => config.typeName

/-- Whether a value may be written to a field of a kind; texts take lists, which are joined. -/
def accepts : FieldKind → Value → Bool
  | .text _, .text _ => true
  | .text _, .list _ => true
  | .largeText, .text _ => true
  | .largeText, .list _ => true
  | .list _, .text _ => true
  | .list _, .list _ => true
  | .number, .int _ => true
  | .boolean, .bool _ => true
  | .date _, .date _ => true
  | .reference _, .reference _ => true
  | .custom _, _ => true
  | _, _ => false

/-- The configuration of a list kind. -/
def listConfig? : FieldKind → Option ListConfig
  | .list config => some config
  | _ => none

/-- A list of which at most one value is selected. -/
def isSingleSelect (k : FieldKind) : Bool := k.listConfig?.any fun c => !c.multiSelect

/-- A list of which several values can be selected. -/
def isMultiSelect (k : FieldKind) : Bool := k.listConfig?.any (·.multiSelect)

/-! ### Laws -/

theorem isSingleSelect_of_isMultiSelect {kind : FieldKind} (h : kind.isMultiSelect = true) :
    kind.isSingleSelect = false := by
  cases kind with
  | list config => simpa [isSingleSelect, isMultiSelect, listConfig?] using h
  | _ => rfl

end FieldKind

end TypedWiki
