import TypedWiki.Text.CodeSet

/-!
# UTF-8 ranges — how sets of code points look as bytes

Every code point is written by one to four bytes: a leading byte and continuation bytes of six bits each.  An
interval of code points becomes a list of byte range sequences, in increasing order: each stands for all byte
strings that take one byte from each range, and together they are the written forms of the interval.
-/

namespace TypedWiki.Text.Utf8

/-- The bytes from a first to a last one. -/
abbrev ByteRange := Nat × Nat

/-- A range for each byte of a written form. -/
abbrev RangeSequence := List ByteRange

/-- The numbers from `lo` to `hi` by ranges of their digits: a leading number and `k` digits in base 64.  Incomplete
blocks at both ends are split further; the complete ones between them share one sequence. -/
def digitRanges : Nat → Nat → Nat → List RangeSequence
  | 0, lo, hi => [[(lo, hi)]]
  | k + 1, lo, hi =>
    let block := 64 ^ (k + 1)
    let first := lo / block
    let last := hi / block
    if first = last then (digitRanges k (lo % block) (hi % block)).map ((first, first) :: ·)
    else
      let isCut := lo % block ≠ 0
      let isOpen := hi % block ≠ block - 1
      let head := if isCut then (digitRanges k (lo % block) (block - 1)).map ((first, first) :: ·) else []
      let tail := if isOpen then (digitRanges k 0 (hi % block)).map ((last, last) :: ·) else []
      let start := if isCut then first + 1 else first
      let stop := if isOpen then last else last + 1
      let middle := if start < stop then [(start, stop - 1) :: List.replicate (k + 1) (0, 63)] else []
      head ++ middle ++ tail

/-- The number of continuation bytes, the first and last code point written with them, and what is added to the
leading byte. -/
def forms : List (Nat × Nat × Nat × Nat) :=
  [(0, 0, 0x7F, 0), (1, 0x80, 0x7FF, 0xC0), (2, 0x800, 0xFFFF, 0xE0), (3, 0x10000, 0x10FFFF, 0xF0)]

/-- Digits as bytes. -/
def withMarks (lead : Nat) : RangeSequence → RangeSequence
  | [] => []
  | (a, b) :: rest => (a + lead, b + lead) :: rest.map fun (a, b) => (a + 0x80, b + 0x80)

/-- The byte range sequences of an interval. -/
def sequencesBetween (lo hi : Nat) : List RangeSequence :=
  forms.flatMap fun (k, least, greatest, lead) =>
    let lo := max lo least
    let hi := min hi greatest
    if lo ≤ hi then (digitRanges k lo hi).map (withMarks lead) else []

/-- The byte range sequences of a set. -/
def sequences (s : CodeSet) : List RangeSequence := s.intervals.flatMap fun (lo, hi) => sequencesBetween lo hi

/-! ### Trees -/

/-- A node of a tree of sequences: for each byte range the number of the node below it, or none at the end. -/
abbrev Node := List (ByteRange × Option Nat)

/-- Sequences that begin alike, one list for each beginning, with what follows it. -/
def followers (seqs : List RangeSequence) : List (ByteRange × List RangeSequence) :=
  (seqs.splitBy fun a b => a.head? = b.head?).filterMap fun group => do
    return (← (← group.head?).head?, group.map List.tail)

/-- The nodes of the tree of sequences up to a depth, each after the nodes below it; their numbers start from `n`. -/
def tree : Nat → Nat → List RangeSequence → List Node
  | 0, _, _ => []
  | depth + 1, n, seqs =>
    let step (built : List Node × Node) (f : ByteRange × List RangeSequence) : List Node × Node :=
      let below := tree depth (n + built.1.length) f.2
      let nodes := built.1 ++ below
      (nodes, built.2 ++ [(f.1, if below.isEmpty then none else some (n + nodes.length - 1))])
    match (followers seqs).foldl step ([], []) with
    | (_, []) => []
    | (nodes, root) => nodes ++ [root]

/-- The bytes of a character. -/
def bytes (c : Char) : List Nat := (String.singleton c).toUTF8.toList.map UInt8.toNat

end TypedWiki.Text.Utf8
