import TypedWiki.OrderedMap
import TypedWiki.Store.Error

/-!
# Locks — named locks on documents that expire

A lock on a document belongs to one owner until it expires or is given back.  Taking a lock again renews it.  When
the expiry time is beyond the clock, the call fails in the middle of a change and the table is unusable from then
on.
-/

namespace TypedWiki

/-- A held lock. -/
structure Lock where
  owner : String
  /-- The time from which the lock no longer holds. -/
  expires : Nat
  deriving DecidableEq, Repr

/-- The locks of all owners. -/
structure LockTable where
  locks : OrderedMap (DocumentRef × String) Lock := OrderedMap.empty
  poisoned : Bool := false
  deriving DecidableEq

namespace LockTable

/-- The first time that the clock cannot show. -/
def clockLimit : Nat := 1 <<< 63

/-- The name of the table in errors. -/
def resourceName : String := "locks"

/-- Whether someone other than `owner` holds a lock at a time. -/
def heldByOther (t : LockTable) (now : Nat) (owner : String) (key : DocumentRef × String) : Bool :=
  (t.locks.get? key).any fun l => l.owner ≠ owner && now < l.expires

/-- Tries to take a lock; false tells that someone else holds it. -/
def tryLock (now ttl : Nat) (owner : String) (document : DocumentRef) (name : String) (t : LockTable) :
    Except StoreError Bool × LockTable :=
  if t.poisoned then (.error (.poisoned resourceName), t)
  else if t.heldByOther now owner (document, name) then (.ok false, t)
  else if clockLimit ≤ now + ttl then (.error .expiryOverflow, { t with poisoned := true })
  else (.ok true, { t with locks := t.locks.insert (document, name) ⟨owner, now + ttl⟩ })

/-- Gives a lock back; false tells that the caller did not hold it. -/
def unlock (owner : String) (document : DocumentRef) (name : String) (t : LockTable) :
    Except StoreError Bool × LockTable :=
  if t.poisoned then (.error (.poisoned resourceName), t)
  else match t.locks.get? (document, name) with
    | some l =>
      if l.owner = owner then (.ok true, { t with locks := t.locks.erase (document, name) }) else (.ok false, t)
    | none => (.ok false, t)

/-! ### Laws -/

/-- While someone else holds a lock, an attempt to take it changes nothing. -/
theorem tryLock_of_held {now ttl : Nat} {owner : String} {document : DocumentRef} {name : String} {t : LockTable}
    (usable : t.poisoned = false) (held : t.heldByOther now owner (document, name) = true) :
    t.tryLock now ttl owner document name = (.ok false, t) := by
  rw [tryLock, if_neg (by simp [usable]), if_pos held]

/-- Where nobody else holds a lock it is taken, or renewed, as long as the clock can show when it expires. -/
theorem tryLock_of_free {now ttl : Nat} {owner : String} {document : DocumentRef} {name : String} {t : LockTable}
    (usable : t.poisoned = false) (free : t.heldByOther now owner (document, name) = false)
    (onClock : now + ttl < clockLimit) :
    t.tryLock now ttl owner document name =
      (.ok true, { t with locks := t.locks.insert (document, name) ⟨owner, now + ttl⟩ }) := by
  rw [tryLock, if_neg (by simp [usable]), if_neg (by simp [free]), if_neg (Nat.not_le.2 onClock)]

/-- The owner of a lock gives it back. -/
theorem unlock_of_owned {owner : String} {document : DocumentRef} {name : String} {t : LockTable} {l : Lock}
    (usable : t.poisoned = false) (held : t.locks.get? (document, name) = some l) (owned : l.owner = owner) :
    t.unlock owner document name = (.ok true, { t with locks := t.locks.erase (document, name) }) := by
  rw [unlock, if_neg (by simp [usable]), held]
  exact if_pos owned

/-- Nobody else gives a lock back. -/
theorem unlock_of_not_owned {owner : String} {document : DocumentRef} {name : String} {t : LockTable}
    (usable : t.poisoned = false) (foreign : ∀ l, t.locks.get? (document, name) = some l → l.owner ≠ owner) :
    t.unlock owner document name = (.ok false, t) := by
  rw [unlock, if_neg (by simp [usable])]
  cases held : t.locks.get? (document, name) with
  | none => rfl
  | some l => exact if_neg (foreign l held)

/-- A lock is taken only where nobody else holds it, and the taker then has it for the given time. -/
theorem tryLock_eq_ok_true {now ttl : Nat} {owner : String} {document : DocumentRef} {name : String}
    {t : LockTable} (h : (t.tryLock now ttl owner document name).1 = .ok true) :
    t.heldByOther now owner (document, name) = false ∧
      (t.tryLock now ttl owner document name).2.locks =
        t.locks.insert (document, name) ⟨owner, now + ttl⟩ := by
  rw [tryLock] at h ⊢
  split at h
  · cases h
  · rename_i hpoisoned
    split at h
    · cases h
    · rename_i hheld
      split at h
      · cases h
      · rename_i hclock
        refine ⟨by simpa using hheld, ?_⟩
        rw [if_neg hpoisoned, if_neg hheld, if_neg hclock]

/-- An attempt that does not take the lock changes no lock. -/
theorem locks_tryLock_of_ne {now ttl : Nat} {owner : String} {document : DocumentRef} {name : String}
    {t : LockTable} (h : (t.tryLock now ttl owner document name).1 ≠ .ok true) :
    (t.tryLock now ttl owner document name).2.locks = t.locks := by
  rw [tryLock] at h ⊢
  split at h
  · simp_all
  · split at h
    · simp_all
    · split at h
      · simp_all
      · exact absurd rfl h

end LockTable

end TypedWiki
