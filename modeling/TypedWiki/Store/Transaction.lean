import TypedWiki.Store.Basic
import TypedWiki.Store.Locks

/-!
# Transactions — editing a stored document under a lock

The document is loaded, edited and saved while its lock is held, and the lock is given back whatever happens in
between.  A document is saved only when the edit says that it changed.  The store and the lock table are shared:
the edit may use both while it runs, and what it does to them is kept.
-/

namespace TypedWiki

/-- The name of the lock under which documents are edited. -/
def editLockName : String := "edit"

/-- Who edits, at what time, and for how long locks hold. -/
structure LockHolder where
  owner : String
  now : Nat
  ttl : Nat

/-- The services that all clients share. -/
structure Host (σ : Type) where
  store : σ
  locks : LockTable

variable {σ : Type} [DocumentStore σ] {m : Type → Type} [Monad m]

/-- An edit of a document in its surroundings: it tells whether the document changed. -/
abbrev DocumentEdit (σ : Type) (m : Type → Type) := Document → Host σ → m (Except Error (Bool × Document) × Host σ)

/-- What is left to do after an edit: saving the document if it changed. -/
def finishEdit (comment : String) (host : Host σ) : Except Error (Bool × Document) → Except Error Bool × Host σ
  | .error e => (.error e, host)
  | .ok (false, _) => (.ok false, host)
  | .ok (true, d) =>
    match DocumentStore.save host.store d comment with
    | .error e => (.error e, host)
    | .ok store => (.ok true, { host with store := store })

/-- Loads, edits and saves, while the lock is held. -/
def runEdit (host : Host σ) (ref : DocumentRef) (comment : String) (edit : DocumentEdit σ m) :
    m (Except Error Bool × Host σ) :=
  match DocumentStore.load host.store ref with
  | .error e => pure (.error e, host)
  | .ok d => do
    let (result, host) ← edit d host
    pure (finishEdit comment host result)

/-- Edits a stored document under its lock; tells whether it was saved. -/
def editDocument (holder : LockHolder) (host : Host σ) (ref : DocumentRef) (comment : String)
    (edit : DocumentEdit σ m) : m (Except Error Bool × Host σ) :=
  match host.locks.tryLock holder.now holder.ttl holder.owner ref editLockName with
  | (.error e, locks) => pure (.error (.store e), { host with locks := locks })
  | (.ok false, locks) => pure (.error (.store (.lockUnavailable ref editLockName)), { host with locks := locks })
  | (.ok true, locks) => do
    let (saved, host) ← runEdit { host with locks := locks } ref comment edit
    pure (saved, { host with locks := (host.locks.unlock holder.owner ref editLockName).2 })

end TypedWiki
