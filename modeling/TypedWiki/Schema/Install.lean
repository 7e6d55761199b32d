import TypedWiki.Schema.Registry
import TypedWiki.Store.Basic

/-!
# Schema installation — writing the schemas of classes to their documents

The schema of a class is stored on the class document of a wiki when it differs from the one stored there.  A
failure with one class does not keep the others from being installed.
-/

namespace TypedWiki

/-- What became of the classes of a registry. -/
structure InstallReport where
  /-- Classes whose schema was written. -/
  created : List ClassRef := []
  /-- Classes whose stored schema was the same. -/
  unchanged : List ClassRef := []
  /-- Classes that are not for storing or that configuration excludes. -/
  skipped : List ClassRef := []
  /-- Classes that failed, with the wording of the error. -/
  failed : List (ClassRef × String) := []
  deriving DecidableEq, Repr

/-- Whether no class failed. -/
def InstallReport.isSuccess (r : InstallReport) : Bool := r.failed.isEmpty

namespace Schema

variable {σ : Type} [DocumentStore σ]

/-- The reason for which a pseudo class is not stored. -/
def pseudoReason : String := "pseudo classes are never stored"

/-- The comment of a save, which tells a new schema from a changed one. -/
def comment (stored : Option (OrderedMap String String)) : String :=
  if stored.isSome then "updated class" else "created class"

/-- Whether a stored schema has the same fields with the same tokens. -/
def isCurrent (stored : Option (OrderedMap String String)) (schema : OrderedMap String String) : Bool :=
  stored.any fun s => s.sameContent (fun v w => v = w) schema

/-- Writes the schema of a class if it is not stored yet; tells whether it was written. -/
def install (wiki : String) (c : ClassDef) (store : σ) : Except Error (Bool × σ) :=
  if !c.isStorable then .error (.schema (.notStorable c.classRef pseudoReason))
  else match DocumentStore.load store (c.classRef.document wiki) with
    | .error e => .error e
    | .ok d =>
      if isCurrent d.schema c.schema then .ok (false, store)
      else match DocumentStore.save store { d with schema := some c.schema } (comment d.schema) with
        | .error e => .error e
        | .ok store => .ok (true, store)

/-- Installs classes one after the other. -/
def installList (settings : Settings) (wiki : String) : List ClassDef → InstallReport → σ → InstallReport × σ
  | [], report, store => (report, store)
  | c :: cs, report, store =>
    if !c.isStorable || c.isBlacklisted settings then
      installList settings wiki cs { report with skipped := report.skipped ++ [c.classRef] } store
    else match install wiki c store with
      | .ok (true, store) =>
        installList settings wiki cs { report with created := report.created ++ [c.classRef] } store
      | .ok (false, store) =>
        installList settings wiki cs { report with unchanged := report.unchanged ++ [c.classRef] } store
      | .error e =>
        installList settings wiki cs { report with failed := report.failed ++ [(c.classRef, e.message)] } store

/-- Installs every class of a registry. -/
def installAll (settings : Settings) (wiki : String) (registry : ClassRegistry) (store : σ) :
    InstallReport × σ :=
  installList settings wiki registry.toList {} store

end Schema

end TypedWiki
