/-!
# FNV-1a — a fast hash of a sequence of words

Each word is mixed into 64 bits by an exclusive or, followed by a multiplication with a fixed prime.
-/

namespace TypedWiki.Digest.FNV

/-- The hash of no words. -/
def basis : UInt64 := 14695981039346656037

/-- The factor. -/
def prime : UInt64 := 1099511628211

/-- Mixes in a word. -/
def step (h word : UInt64) : UInt64 := (h ^^^ word) * prime

/-- The hash of a sequence of words. -/
def hash (words : List UInt64) : UInt64 := words.foldl step basis

end TypedWiki.Digest.FNV
