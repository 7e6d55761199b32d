import TypedWiki.Digest.FNV
import TypedWiki.Text.Utf8

/-!
# Drafts — how much an automaton under construction holds

A pattern is matched by a nondeterministic automaton over bytes.  Its states need not exist to be counted: a draft
knows how many there are, and how many transitions and ways out they have.  A set of characters reads its bytes
through states that are used again where the same bytes lead to the same state; those are remembered by a hash of
what they are, one at each slot, so that a later state can push out an earlier one.  The states are numbered in the
order in which they are made.
-/

namespace TypedWiki.Pattern

/-- What is known of an automaton under construction. -/
structure Draft where
  /-- The number of states. -/
  states : Nat := 0
  /-- The number of transitions that lead on from states which tell bytes apart. -/
  transitions : Nat := 0
  /-- The number of ways out of branching states. -/
  ways : Nat := 0
  /-- Whether what was built last ends in a branching state, so that what follows is one more way out. -/
  branching : Bool := false
  /-- The states to be used again, each with what it is. -/
  memory : Array (List Nat × Nat)

namespace Draft

/-- A draft without states that remembers as many as given. -/
def start (slots : Nat) : Draft := { memory := Array.replicate slots ([], 0) }

/-- The size in bytes: 32 for a state, 8 for a transition and 4 for a way out. -/
def size (d : Draft) : Nat := 32 * d.states + 8 * d.transitions + 4 * d.ways

/-- The greatest size, ten mebibytes. -/
def sizeLimit : Nat := 10 * 1024 * 1024

/-- Whether the draft is too large; it does not get smaller again. -/
def isTooLarge (d : Draft) : Bool := sizeLimit < d.size

/-- Adds states, transitions and ways out; the last state does not branch. -/
def add (d : Draft) (states : Nat) (transitions ways : Nat := 0) : Draft :=
  { d with
    states := d.states + states, transitions := d.transitions + transitions, ways := d.ways + ways,
    branching := false }

/-- Leads from the end of what was built last to what comes next. -/
def link (d : Draft) : Draft := if d.branching then { d with ways := d.ways + 1, branching := false } else d

/-- Adds a branching state at the end, with a way back. -/
def branch (d : Draft) : Draft := { d.link.add 1 0 1 with branching := true }

/-- Builds a part several times; a draft that is too large stays as it is. -/
def times (build : Draft → Draft) : Nat → Draft → Draft
  | 0, d => d
  | n + 1, d => if d.isTooLarge then d else times build n (build d)

/-- The state with the given description.  It is made unless it is remembered and not older than the state `since`. -/
def state (d : Draft) (since : Nat) (description : List Nat) (transitions : Nat) : Nat × Draft :=
  let slot := (Digest.FNV.hash (description.map Nat.toUInt64)).toNat % d.memory.size
  let known := d.memory.getD slot ([], 0)
  if since ≤ known.2 ∧ known.1 = description then (known.2, d)
  else
    (d.states,
      { d with
        states := d.states + 1, transitions := d.transitions + transitions, branching := false,
        memory := d.memory.setIfInBounds slot (description, d.states) })

/-! ### Sets of characters -/

/-- A set of ASCII characters: a single state tells them apart. -/
def ascii (ranges : Nat) (d : Draft) : Draft := d.add 2 ranges

/-- A set of characters that is read forwards.  Each node of the tree of its byte sequences is described by its
ranges and where they lead. -/
def forwards (tree : List Text.Utf8.Node) (d : Draft) : Draft :=
  let stop := d.states
  let step (built : Array Nat × Draft) (node : Text.Utf8.Node) : Array Nat × Draft :=
    let (numbers, d) := built
    let description := node.flatMap fun (range, below) =>
      [range.1, range.2, match below with
        | some i => numbers.getD i stop
        | none => stop]
    let (number, d) := d.state (stop + 1) description node.length
    (numbers.push number, d)
  (tree.foldl step (#[], d.add 1)).2

/-- A set of characters that is read backwards.  Each byte sequence leads from a branching state to a common end; the
states are described by where they lead and by their range. -/
def backwards (seqs : List Text.Utf8.RangeSequence) (d : Draft) : Draft :=
  let stop := d.states + 1
  let step (next : Nat × Draft) (range : Text.Utf8.ByteRange) : Nat × Draft :=
    next.2.state (stop + 1) [next.1, range.1, range.2] 0
  seqs.foldl (fun d seq => (seq.foldl step (stop, d)).2) (d.add 2 0 seqs.length)

end Draft

end TypedWiki.Pattern
