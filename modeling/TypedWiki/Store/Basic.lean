import TypedWiki.Document.Basic
import TypedWiki.Error

/-!
# Document stores — loading and saving documents

A store loads the primary view of any document, a fresh one where none was saved.  The store in memory keeps the
last saved copy of each document and the comments of all saves.
-/

namespace TypedWiki

/-- A state in which documents are stored. -/
class DocumentStore (σ : Type) where
  /-- Whether a document is stored. -/
  has : σ → DocumentRef → Except Error Bool
  /-- The stored document, or a fresh one. -/
  load : σ → DocumentRef → Except Error Document
  /-- The state after a save. -/
  save : σ → Document → String → Except Error σ

/-- Documents in memory with the comments of their saves. -/
structure MemoryStore where
  documents : OrderedMap DocumentRef Document := OrderedMap.empty
  /-- The comments of the saves of each document, oldest first. -/
  comments : OrderedMap DocumentRef (List String) := OrderedMap.empty
  /-- The language of fresh documents. -/
  defaultLanguage : String := ""

namespace MemoryStore

/-- The empty store whose language is configured. -/
def ofSettings (s : Settings) : MemoryStore := { defaultLanguage := s.property Settings.languageKey "" }

/-- Whether a document was saved. -/
def contains (m : MemoryStore) (r : DocumentRef) : Bool := m.documents.contains r

/-- A document that was not saved before. -/
def fresh (m : MemoryStore) (r : DocumentRef) : Document :=
  { Document.create r with defaultLanguage := m.defaultLanguage }

/-- The saved document, or a fresh one. -/
def document (m : MemoryStore) (r : DocumentRef) : Document := (m.documents.get? r).getD (m.fresh r)

/-- The comments of the saves of a document. -/
def history (m : MemoryStore) (r : DocumentRef) : List String := (m.comments.get? r).getD []

/-- The reason for which a localized view is not saved. -/
def localizedReason : String := "translations are not stored by the in-memory store"

/-- Replaces the saved copy of a document and records the comment. -/
def put (m : MemoryStore) (d : Document) (comment : String) : MemoryStore :=
  { m with
    documents := m.documents.insert d.ref d
    comments := m.comments.insert d.ref (m.history d.ref ++ [comment]) }

/-- Saves a primary document. -/
def save (m : MemoryStore) (d : Document) (comment : String) : Except StoreError MemoryStore :=
  if d.isPrimary then .ok (m.put d comment) else .error (.saveFailed d.ref localizedReason)

/-- The number of saved documents. -/
def size (m : MemoryStore) : Nat := m.documents.size

/-! ### Laws -/

/-- A save replaces the copy of the saved document and of no other. -/
theorem document_put (m : MemoryStore) (d : Document) (comment : String) (r : DocumentRef) :
    (m.put d comment).document r = if d.ref = r then d else m.document r := by
  rw [document, put, OrderedMap.get?_insert]
  by_cases h : d.ref = r
  · simp [h]
  · simp only [if_neg h]
    rfl

/-- A save adds its comment to the history of the saved document and to no other. -/
theorem history_put (m : MemoryStore) (d : Document) (comment : String) (r : DocumentRef) :
    (m.put d comment).history r = if d.ref = r then m.history r ++ [comment] else m.history r := by
  rw [history, put, OrderedMap.get?_insert]
  by_cases h : d.ref = r
  · simp [h]
  · simp only [if_neg h]
    rfl

theorem save_eq_ok_iff {m n : MemoryStore} {d : Document} {comment : String} :
    m.save d comment = .ok n ↔ d.isPrimary = true ∧ n = m.put d comment := by
  rw [save]
  split
  · rename_i h
    simp [h, eq_comm]
  · rename_i h
    simp [h]

/-- The states of a store that starts empty and is only saved to. -/
inductive Built : MemoryStore → Prop where
  | empty (language : String) : Built { defaultLanguage := language }
  | save {m n : MemoryStore} {d : Document} {comment : String} (built : Built m) (saved : m.save d comment = .ok n) :
    Built n

/-- What is loaded is the primary view of the document that was asked for. -/
theorem Built.document {m : MemoryStore} (h : m.Built) (r : DocumentRef) :
    (m.document r).ref = r ∧ (m.document r).isPrimary = true := by
  induction h with
  | empty language => exact ⟨rfl, rfl⟩
  | save _ saved ih =>
    obtain ⟨hp, rfl⟩ := save_eq_ok_iff.1 saved
    rw [document_put]
    split
    · rename_i h
      exact ⟨h, hp⟩
    · exact ih

instance : DocumentStore MemoryStore where
  has m r := .ok (m.contains r)
  load m r := .ok (m.document r)
  save m d comment := (m.save d comment).mapError .store

theorem store_save_eq_ok_iff {m n : MemoryStore} {d : Document} {comment : String} :
    DocumentStore.save m d comment = .ok n ↔ m.save d comment = .ok n := by
  show (m.save d comment).mapError Error.store = .ok n ↔ m.save d comment = .ok n
  cases m.save d comment with
  | error e =>
    constructor <;> intro h <;> cases h
  | ok n' =>
    constructor <;> intro h <;> cases h <;> rfl

end MemoryStore

/-- A store in memory that fails for some documents. -/
structure FaultyStore where
  memory : MemoryStore
  /-- Documents that fail to load. -/
  failLoad : List DocumentRef := []
  /-- Documents that fail to save. -/
  failSave : List DocumentRef := []

namespace FaultyStore

/-- The reason of the failures that are brought about on purpose. -/
def injectedReason : String := "injected"

instance : DocumentStore FaultyStore where
  has s r := .ok (s.memory.contains r)
  load s r := if s.failLoad.contains r then .error (.store (.notFound r)) else .ok (s.memory.document r)
  save s d comment :=
    if s.failSave.contains d.ref then .error (.store (.saveFailed d.ref injectedReason))
    else match s.memory.save d comment with
      | .ok m => .ok { s with memory := m }
      | .error e => .error (.store e)

end FaultyStore

end TypedWiki
