import TypedWiki.Proofs.Store.Interleaving

/-!
# Atomic edits — all or nothing, and the lock is given back

A call of `editDocument` either finds the lock held by someone else and does nothing at all, or runs its edit once
under the lock.  Then the store takes the outcome as a whole or not at all, and the lock is gone on every way out.

* `EditCall.perform`: a whole call, with the documents on which the edit was run.
* `EditCall.Concludes`: the four ways in which a call ends that has the lock.
* `LockTable.Releases`: one lock is gone, and every other one is as it was.
* `perform_atomic`: what a call does, for all services, callers, documents and edits.
-/

namespace TypedWiki

/-- The edit of a call, noted with the document each time it is run. -/
def EditCall.watched (call : EditCall) : DocumentEdit MemoryStore (StateM (List Document)) := fun d host => do
  modify (· ++ [d])
  return (call.edit d, host)

/-- A whole call: its result, the services after it, and the documents on which the edit was run. -/
def EditCall.perform (call : EditCall) (holder : LockHolder) (host : Host MemoryStore) (ref : DocumentRef) :
    (Except Error Bool × Host MemoryStore) × List Document :=
  (editDocument holder host ref call.comment call.watched).run []

/-- The saved copy of one document was replaced and a comment was added to its history. -/
structure MemoryStore.Replaces (old : MemoryStore) (d : Document) (comment : String) (new : MemoryStore) : Prop where
  documents : ∀ r, new.documents.get? r = if r = d.ref then some d else old.documents.get? r
  history : ∀ r, new.history r = if r = d.ref then old.history r ++ [comment] else old.history r
  language : new.defaultLanguage = old.defaultLanguage

/-- How a call ends that runs its edit on a document: the result, and what becomes of the store. -/
inductive EditCall.Concludes (call : EditCall) (d : Document) (old : MemoryStore) :
    Except Error Bool → MemoryStore → Prop where
  /-- The edit fails. -/
  | failed {e : Error} (edit : call.edit d = .error e) : Concludes call d old (.error e) old
  /-- The edit reports no change. -/
  | unchanged {d' : Document} (edit : call.edit d = .ok (false, d')) : Concludes call d old (.ok false) old
  /-- The edit changes a primary document, which is saved. -/
  | saved {d' : Document} {new : MemoryStore} (edit : call.edit d = .ok (true, d')) (primary : d'.isPrimary = true)
    (replaces : old.Replaces d' call.comment new) : Concludes call d old (.ok true) new
  /-- The edit changes a localized view, which is not saved. -/
  | refused {d' : Document} (edit : call.edit d = .ok (true, d')) (localized : d'.isPrimary = false) :
    Concludes call d old (.error (.store (.saveFailed d'.ref MemoryStore.localizedReason))) old

/-- One lock is gone, and every other one is as it was. -/
structure LockTable.Releases (old : LockTable) (key : DocumentRef × String) (new : LockTable) : Prop where
  usable : new.poisoned = false
  locks : ∀ k, new.locks.get? k = if k = key then none else old.locks.get? k

/-! ### The store -/

theorem MemoryStore.replaces_put (m : MemoryStore) (d : Document) (comment : String) :
    m.Replaces d comment (m.put d comment) := by
  refine ⟨fun r => ?_, fun r => ?_, rfl⟩
  · rw [put, OrderedMap.get?_insert]
    simp only [eq_comm]
  · rw [history_put]
    simp only [eq_comm]

/-- What is left to do after an edit ends the call in one of its ways, and leaves the locks. -/
theorem concludes_finishEdit (call : EditCall) (d : Document) (host : Host MemoryStore) :
    call.Concludes d host.store (finishEdit call.comment host (call.edit d)).1
        (finishEdit call.comment host (call.edit d)).2.store ∧
      (finishEdit call.comment host (call.edit d)).2.locks = host.locks := by
  rcases edit : call.edit d with e | ⟨changed, d'⟩
  · exact ⟨.failed edit, rfl⟩
  · cases changed with
    | false => exact ⟨.unchanged edit, rfl⟩
    | true =>
      cases primary : d'.isPrimary with
      | true =>
        have saved : host.store.save d' call.comment = .ok (host.store.put d' call.comment) :=
          MemoryStore.save_eq_ok_iff.2 ⟨primary, rfl⟩
        have done : finishEdit call.comment host (.ok (true, d')) =
            (.ok true, { host with store := host.store.put d' call.comment }) := by
          simp only [finishEdit, MemoryStore.store_save_eq_ok_iff.2 saved]
        rw [done]
        exact ⟨.saved edit primary (host.store.replaces_put d' call.comment), rfl⟩
      | false =>
        have refused : DocumentStore.save host.store d' call.comment =
            .error (.store (.saveFailed d'.ref MemoryStore.localizedReason)) := by
          show (host.store.save d' call.comment).mapError Error.store = _
          rw [MemoryStore.save, if_neg (by simp [primary])]
          rfl
        have done : finishEdit call.comment host (.ok (true, d')) =
            (.error (.store (.saveFailed d'.ref MemoryStore.localizedReason)), host) := by
          simp only [finishEdit, refused]
        rw [done]
        exact ⟨.refused edit primary, rfl⟩

/-! ### The lock -/

/-- What was taken is given back, whoever had it before. -/
theorem LockTable.releases_unlock {t locked : LockTable} {owner : String} {document : DocumentRef} {name : String}
    {expires : Nat} (usable : locked.poisoned = false)
    (taken : locked.locks = t.locks.insert (document, name) ⟨owner, expires⟩) :
    t.Releases (document, name) (locked.unlock owner document name).2 := by
  have held : locked.locks.get? (document, name) = some ⟨owner, expires⟩ := by
    rw [taken, OrderedMap.get?_insert, if_pos rfl]
  rw [LockTable.unlock_of_owned usable held rfl]
  refine ⟨usable, fun k => ?_⟩
  rw [taken, OrderedMap.get?_erase, OrderedMap.get?_insert]
  by_cases here : (document, name) = k
  · rw [if_pos here, if_pos here.symm]
  · rw [if_neg here, if_neg here, if_neg (Ne.symm here)]

/-! ### Whole calls -/

section

variable (call : EditCall) {holder : LockHolder} {host : Host MemoryStore} {ref : DocumentRef}

theorem perform_of_held (usable : host.locks.poisoned = false)
    (held : host.locks.heldByOther holder.now holder.owner (ref, editLockName) = true) :
    call.perform holder host ref = ((.error (.store (.lockUnavailable ref editLockName)), host), []) := by
  rw [EditCall.perform, editDocument, LockTable.tryLock_of_held usable held]
  rfl

/-- With the lock the edit is run once, on the stored document. -/
theorem perform_of_free (usable : host.locks.poisoned = false)
    (free : host.locks.heldByOther holder.now holder.owner (ref, editLockName) = false)
    (onClock : holder.now + holder.ttl < LockTable.clockLimit) :
    ∃ locked : Host MemoryStore, locked.store = host.store ∧ locked.locks.poisoned = false ∧
      locked.locks.locks =
        host.locks.locks.insert (ref, editLockName) ⟨holder.owner, holder.now + holder.ttl⟩ ∧
      let out := finishEdit call.comment locked (call.edit (host.store.document ref))
      call.perform holder host ref =
        ((out.1, { out.2 with locks := (out.2.locks.unlock holder.owner ref editLockName).2 }),
          [host.store.document ref]) := by
  refine ⟨⟨host.store, { host.locks with
    locks := host.locks.locks.insert (ref, editLockName) ⟨holder.owner, holder.now + holder.ttl⟩ }⟩,
    rfl, usable, rfl, ?_⟩
  rw [EditCall.perform, editDocument, LockTable.tryLock_of_free usable free onClock]
  rfl

/-- **An edit is atomic and gives its lock back.**  If someone else holds the lock, the call says so and changes
nothing.  Otherwise the edit is run once, on the stored document; the call ends in one of its ways; and no edit lock of
the document is left, even if the caller had it before, while every other lock is as it was. -/
theorem perform_atomic (usable : host.locks.poisoned = false)
    (onClock : holder.now + holder.ttl < LockTable.clockLimit) :
    (host.locks.heldByOther holder.now holder.owner (ref, editLockName) = true →
      call.perform holder host ref = ((.error (.store (.lockUnavailable ref editLockName)), host), [])) ∧
    (host.locks.heldByOther holder.now holder.owner (ref, editLockName) = false →
      ∃ result after, call.perform holder host ref = ((result, after), [host.store.document ref]) ∧
        call.Concludes (host.store.document ref) host.store result after.store ∧
        host.locks.Releases (ref, editLockName) after.locks) := by
  refine ⟨perform_of_held call usable, fun free => ?_⟩
  obtain ⟨locked, store, usable', taken, performed⟩ := perform_of_free call usable free onClock
  obtain ⟨concludes, kept⟩ := concludes_finishEdit call (host.store.document ref) locked
  refine ⟨_, _, performed, store ▸ concludes, ?_⟩
  rw [kept]
  exact LockTable.releases_unlock usable' taken

end

/-- A call that gives a document a title. -/
def retitled : EditCall := ⟨"retitled", fun d => .ok (true, (d.setField "title" (some (.text "News"))).2)⟩

/-- A client that edits at time 5. -/
def editor : LockHolder := ⟨"alice", 5, 10⟩

/-- The document that is edited. -/
def news : DocumentRef := ⟨"w", "Blog", "News"⟩

/-- The client has the edit lock already, and someone else has another lock of the same document. -/
def lockedBefore : Host MemoryStore where
  store := {}
  locks := { locks := OrderedMap.ofList [((news, editLockName), ⟨"alice", 12⟩), ((news, "view"), ⟨"bob", 99⟩)] }

theorem perform_atomic_lockedBefore :
    lockedBefore.locks.poisoned = false ∧ editor.now + editor.ttl < LockTable.clockLimit ∧
      (retitled.perform editor lockedBefore news).1.1 = .ok true ∧
      ∃ result after,
        retitled.perform editor lockedBefore news = ((result, after), [lockedBefore.store.document news]) ∧
        retitled.Concludes (lockedBefore.store.document news) lockedBefore.store result after.store ∧
        lockedBefore.locks.Releases (news, editLockName) after.locks := by
  have usable : lockedBefore.locks.poisoned = false := rfl
  have onClock : editor.now + editor.ttl < LockTable.clockLimit := by decide
  have free : lockedBefore.locks.heldByOther editor.now editor.owner (news, editLockName) = false := by decide
  exact ⟨usable, onClock, rfl, (perform_atomic retitled usable onClock).2 free⟩

end TypedWiki
