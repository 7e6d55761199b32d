import TypedWiki.Pattern.Draft
import TypedWiki.Pattern.Reduced

/-!
# Size — how large the automata of a pattern are

A pattern has two automata, one that reads forwards and one that reads backwards, and is refused when one of the two
is too large.  A plan says what a part of a pattern adds to a draft.
-/

namespace TypedWiki.Pattern

/-- The direction in which an automaton reads. -/
inductive Direction where
  | forward
  | backward
  deriving DecidableEq, Repr

namespace Direction

/-- The number of states that are remembered. -/
def slots : Direction → Nat
  | forward => 10000
  | backward => 1000

/-- Puts two parts in reading order. -/
def order {α : Type} (d : Direction) (first second : α) : α × α :=
  match d with
  | forward => (first, second)
  | backward => (second, first)

end Direction

/-! ### Choices between words -/

/-- A prefix tree of words, as what it adds to a draft. -/
structure WordTree where
  states : Nat := 0
  transitions : Nat := 0
  ways : Nat := 0

namespace WordTree

/-- Two trees together. -/
def both (s t : WordTree) : WordTree := ⟨s.states + t.states, s.transitions + t.transitions, s.ways + t.ways⟩

/-- Cuts a list of words at the empty ones; the empty words in front count once. -/
def cutAtEnds (words : List (List Nat)) : List (List (List Nat)) :=
  match words with
  | [] :: rest => [] :: cut (rest.dropWhile List.isEmpty)
  | words => cut words
where
  /-- Cuts at every empty word. -/
  cut : List (List Nat) → List (List (List Nat))
    | [] => [[]]
    | [] :: rest => [] :: cut rest
    | w :: rest =>
      match cut rest with
      | c :: cs => (w :: c) :: cs
      | [] => [[w]]

/-- The words of one piece by their first byte, each list with what follows that byte. -/
def byFirst (words : List (List Nat)) : List (List (List Nat)) :=
  (words.filterMap List.head?).eraseDups.map fun b =>
    words.filterMap fun
      | c :: rest => if c = b then some rest else none
      | [] => none

/-- The state that selects between the beginnings of a piece, which is one way out of its node. -/
def selector : Nat → WordTree
  | 0 => {}
  | 1 => ⟨1, 0, 1⟩
  | n => ⟨1, n, 1⟩

/-- The prefix tree of words below its final state.  A node branches to a selecting state for each of its pieces and
to the final state for each end of a word in front of the last piece. -/
def below : Nat → List (List Nat) → WordTree
  | 0, _ => {}
  | depth + 1, words =>
    if words.all List.isEmpty then {}
    else
      let pieces := cutAtEnds words
      let trees := pieces.map fun piece =>
        let next := byFirst piece
        (next.map (below depth)).foldl both (selector next.length)
      trees.foldl both ⟨1, 0, pieces.length - 1⟩

/-- The prefix tree of words. -/
def ofWords (ws : List (List Nat)) : WordTree := both ⟨1, 0, 0⟩ (below ((ws.map List.length).foldl max 0 + 1) ws)

end WordTree

/-! ### Plans -/

/-- What a part adds to a draft, as a whole and, if it is a choice, by its branches. -/
structure Plan where
  build : Draft → Draft
  branches : List (Draft → Draft)

namespace Plan

/-- The plan of what is not a choice. -/
def ofBuild (build : Draft → Draft) : Plan := ⟨build, [build]⟩

/-- The plan of a number of states in a row. -/
def states (n : Nat) : Plan := ofBuild fun d => d.add n

/-- A set of characters. -/
def chars (dir : Direction) (s : Text.CodeSet) : Plan :=
  if s.intervals.all (·.2 < 128) then ofBuild (Draft.ascii s.intervals.length)
  else
    let seqs := Text.Utf8.sequences s
    match dir with
    | .forward => ofBuild (Draft.forwards (Text.Utf8.tree 4 0 seqs))
    | .backward => ofBuild (Draft.backwards seqs)

/-- Copies in a row. -/
def copies (p : Plan) : Nat → Draft → Draft
  | 0, d => d.add 1
  | n + 1, d => p.build (Draft.times (fun d => (p.build d).link) n d)

/-- A repetition.  Copies are made of what is required and, up to a bound, of what is optional. -/
def times (p : Plan) (takesText : Bool) (min : Nat) (max : Option Nat) : Plan :=
  ofBuild fun d =>
    match min, max with
    | 0, some 1 => (p.build (d.add 1)).link.add 1 0 2
    | 0, none =>
      if takesText then { (p.build (d.add 1)).link.add 0 0 1 with branching := true }
      else (p.build d).link.add 3 0 4
    | n, none => (p.copies n d).branch
    | n, some m =>
      if n = m then p.copies n d
      else Draft.times (fun d => (p.build (d.add 1 0 2)).link) (m - n) ((p.copies n d).link.add 1)

/-- One after the other. -/
def andThen (p q : Plan) : Plan := ofBuild fun d => q.build (p.build d).link

/-- Builds a choice.  The state that branches and the one where all branches meet come after the second branch. -/
def buildChoice (branches : List (Draft → Draft)) (d : Draft) : Draft :=
  match branches with
  | first :: second :: rest =>
    let d := (second (first d).link).link.add 2 0 branches.length
    rest.foldl (fun d branch => (branch d).link) d
  | [only] => only d
  | [] => d.add 1

end Plan

namespace Reduced

/-- The bytes of a word in reading order. -/
def wordBytes (dir : Direction) (cs : List Char) : List Nat :=
  match dir with
  | .forward => cs.flatMap Text.Utf8.bytes
  | .backward => (cs.flatMap Text.Utf8.bytes).reverse

/-- The least number of characters that a match takes; none if nothing can match in some place. -/
def least : Reduced → Option Nat
  | .empty => some 0
  | .never => none
  | .word cs => some cs.length
  | .chars _ => some 1
  | .boundary _ => some 0
  | .capture _ p => least p
  | .times p min _ _ => (least p).map (· * min)
  | .seq p q => do return (← least p) + (← least q)
  | .alt p q => do return min (← least p) (← least q)

/-- The words of a choice between nothing but words. -/
def words? (dir : Direction) : Reduced → Option (List (List Nat))
  | .word cs => some [wordBytes dir cs]
  | .alt p q => do return (← words? dir p) ++ (← words? dir q)
  | _ => none

/-- What a reduced pattern adds to a draft.  Only forwards are captures marked, by one state on either side. -/
def plan (dir : Direction) : Reduced → Plan
  | .empty => .states 1
  | .never => .states 2
  | .word cs => .states (wordBytes dir cs).length
  | .chars s => .chars dir s
  | .boundary _ => .states 1
  | .capture _ p =>
    let inner := plan dir p
    match dir with
    | .forward => .ofBuild fun d => (inner.build (d.add 1)).link.add 1
    | .backward => .ofBuild inner.build
  | .times p min max _ => (plan dir p).times ((least p).any (0 < ·)) min max
  | .seq p q =>
    let (first, second) := dir.order (plan dir p) (plan dir q)
    first.andThen second
  | .alt p q =>
    let branches := (plan dir p).build :: (plan dir q).branches
    let tree := Thunk.mk fun _ => (words? dir (.alt p q)).map WordTree.ofWords
    ⟨fun d => match tree.get with
      | some t => d.add t.states t.transitions t.ways
      | none => Plan.buildChoice branches d, branches⟩

/-- Whether a match can only start, in reading order, where the text starts. -/
def isAnchored (p : Reduced) : Direction → Bool
  | .forward => p.startsWith .textStart
  | .backward => p.endsWith .textEnd

/-- The whole automaton.  What is not anchored is preceded by a loop over all bytes; forwards the match itself is
captured. -/
def automaton (dir : Direction) (p : Reduced) : Draft :=
  let start := Draft.start dir.slots
  let start := if p.isAnchored dir then start.add 1 else start.add 3 1 2
  let inner := (plan dir (.capture 0 p)).build start
  inner.link.add 1

end Reduced

/-- Whether both automata of a pattern keep to the limit. -/
def isBuildable (p : Pattern) : Bool :=
  let p := p.reduced
  !(p.automaton .forward).isTooLarge && !(p.automaton .backward).isTooLarge

end TypedWiki.Pattern
