import TypedWiki.Digest.MD5
import TypedWiki.Reference.Document

/-!
# Local uids — a text that names a document within its wiki and a language

The dotted form of space, name and language is cut at its dots, and each part that is not empty is written after
its length.  The hash of a document is the head of the digest of that text.
-/

namespace TypedWiki

/-- The number of bytes of a text in UTF-8. -/
def byteLength (cs : List Char) : Nat := cs.foldr (fun c n => c.utf8Size + n) 0

/-- The parts of space, name and language between dots, without the empty ones. -/
def uidSegments (r : DocumentRef) (language : String) : List (List Char) :=
  (Text.splitAll (· = '.') (r.textInWiki.toList ++ '.' :: Text.trimChars language.toList)).filter (· ≠ [])

/-- A part after its length and a colon. -/
def uidSegment (part : List Char) : List Char := Nat.toDigits 10 (byteLength part) ++ ':' :: part

/-- The local uid of a document in a language. -/
def localUid (r : DocumentRef) (language : String) : String :=
  String.ofList ((uidSegments r language).flatMap uidSegment)

/-- The first eight bytes as one number, greatest byte first. -/
def headNumber (bytes : List UInt8) : UInt64 :=
  (bytes.take 8).foldl (fun n b => (n <<< 8) ||| b.toUInt64) 0

/-- The 64-bit hash of a document in a language. -/
def documentHash (r : DocumentRef) (language : String) : UInt64 :=
  headNumber (Digest.MD5.digest (localUid r language).toUTF8.toList)

/-! ### Laws -/

@[simp] theorem byteLength_nil : byteLength [] = 0 := rfl

@[simp] theorem byteLength_cons (c : Char) (cs : List Char) :
    byteLength (c :: cs) = c.utf8Size + byteLength cs := rfl

theorem byteLength_eq_zero_iff {cs : List Char} : byteLength cs = 0 ↔ cs = [] := by
  cases cs with
  | nil => simp
  | cons c cs =>
    have := c.utf8Size_pos
    simp only [byteLength_cons, reduceCtorEq, iff_false]
    omega

/-- The local uid does not show the wiki. -/
@[simp] theorem localUid_withWiki (r : DocumentRef) (wiki language : String) :
    localUid (r.withWiki wiki) language = localUid r language := rfl

end TypedWiki
