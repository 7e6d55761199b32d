import TypedWiki.Pattern.Syntax

/-!
# Reduced patterns — patterns as automata are built from them

A reduced pattern holds no parentheses but those that capture, no sequence directly in a sequence and no choice
directly in a choice.  Neighbouring characters are joined to words, a choice between characters is one set, a choice
whose branches begin alike is made after what they share, and what has no width is repeated at most once.
-/

namespace TypedWiki.Pattern

/-- A pattern in the form from which automata are built. -/
inductive Reduced where
  /-- The empty text. -/
  | empty
  /-- Nothing at all. -/
  | never
  /-- A word of one or more characters. -/
  | word (cs : List Char)
  /-- A set of two or more characters. -/
  | chars (s : Text.CodeSet)
  | boundary (b : Boundary)
  | capture (number : Nat) (p : Reduced)
  | times (p : Reduced) (min : Nat) (max : Option Nat) (greedy : Bool)
  /-- A part and the rest of a sequence. -/
  | seq (p q : Reduced)
  /-- A branch and the rest of a choice. -/
  | alt (p q : Reduced)
  deriving DecidableEq, Repr

namespace Reduced

/-- The parts of a sequence. -/
def parts : Reduced → List Reduced
  | empty => []
  | seq p q => p :: parts q
  | p => [p]

/-- The branches of a choice. -/
def branches : Reduced → List Reduced
  | alt p q => p :: branches q
  | p => [p]

/-- A set of characters. -/
def ofCodes (s : Text.CodeSet) : Reduced :=
  match s.intervals with
  | [] => never
  | [(lo, hi)] => if lo = hi then word [Char.ofNat lo] else chars s
  | _ => chars s

/-- Joins neighbouring words. -/
def joinWords : List Reduced → List Reduced
  | [] => []
  | word cs :: rest =>
    match joinWords rest with
    | word ds :: rest => word (cs ++ ds) :: rest
    | rest => word cs :: rest
  | p :: rest => p :: joinWords rest

/-- The sequence of the given parts. -/
def sequence (ps : List Reduced) : Reduced := chain (joinWords (ps.flatMap parts))
where
  /-- Parts that need no further reduction. -/
  chain : List Reduced → Reduced
    | [] => empty
    | [p] => p
    | p :: ps => seq p (chain ps)

/-- The character of a word of one. -/
def char? : Reduced → Option Char
  | word [c] => some c
  | _ => none

/-- The set of a set of characters, which may have no members. -/
def chars? : Reduced → Option Text.CodeSet
  | never => some ⟨[]⟩
  | chars s => some s
  | _ => none

/-- The choice between branches that share no beginning. -/
def choose (ps : List Reduced) : Reduced :=
  let bs := ps.flatMap branches
  match bs with
  | [] => never
  | [p] => p
  | _ =>
    match bs.mapM char?, bs.mapM chars? with
    | some cs, _ => ofCodes (.ofList (cs.map Char.toNat))
    | none, some (s :: sets) => ofCodes (sets.foldl .union s)
    | none, _ => chain bs
where
  /-- Branches that need no further reduction. -/
  chain : List Reduced → Reduced
    | [] => never
    | [p] => p
    | p :: ps => alt p (chain ps)

/-- The longest common beginning of two lists. -/
def common : List Reduced → List Reduced → List Reduced
  | p :: ps, q :: qs => if p = q then p :: common ps qs else []
  | _, _ => []

/-- The choice between branches; what sequences begin with alike comes before it. -/
def choice (ps : List Reduced) : Reduced :=
  match ps.flatMap branches with
  | p :: q :: rest =>
    let bs := p :: q :: rest
    let shared := (q :: rest).foldl (fun acc b => common acc b.parts) p.parts
    if shared.isEmpty || bs.any (·.parts.length < 2) then choose bs
    else sequence (shared ++ [choose (bs.map fun b => sequence (b.parts.drop shared.length))])
  | bs => choose bs

/-- Whether nothing but the empty text can match. -/
def isEmptyOnly : Reduced → Bool
  | empty => true
  | never => false
  | word _ => false
  | chars _ => false
  | boundary _ => true
  | capture _ p => p.isEmptyOnly
  | times p _ max _ => p.isEmptyOnly && max.isSome
  | seq p q => p.isEmptyOnly && q.isEmptyOnly
  | alt p q => p.isEmptyOnly && q.isEmptyOnly

/-- Whether a condition holds at the start of every match because the pattern says so. -/
def startsWith (b : Boundary) : Reduced → Bool
  | boundary c => b = c
  | capture _ p => p.startsWith b
  | times p min _ _ => min ≠ 0 && p.startsWith b
  | seq p q => p.startsWith b || (p.isEmptyOnly && q.startsWith b)
  | alt p q => p.startsWith b && q.startsWith b
  | _ => false

/-- Whether a condition holds at the end of every match because the pattern says so. -/
def endsWith (b : Boundary) : Reduced → Bool
  | boundary c => b = c
  | capture _ p => p.endsWith b
  | times p min _ _ => min ≠ 0 && p.endsWith b
  | seq p q => q.endsWith b || (q.isEmptyOnly && p.endsWith b)
  | alt p q => p.endsWith b && q.endsWith b
  | _ => false

/-- A repetition; what has no width is repeated at most once. -/
def repeated (p : Reduced) (min : Nat) (max : Option Nat) (greedy : Bool) : Reduced :=
  let min' := if p.isEmptyOnly then Nat.min min 1 else min
  let max' := if p.isEmptyOnly then some (max.elim 1 (Nat.min 1)) else max
  if max' = some 0 then empty
  else if min' = 1 ∧ max' = some 1 then p
  else times p min' max' greedy

end Reduced

/-- The branches of a pattern, reduced. -/
def reducedBranches : Pattern → List Reduced
  | empty => [.empty]
  | chars s => [.ofCodes s.codes]
  | boundary b => [.boundary b]
  | group none p => [.choice p.reducedBranches]
  | group (some n) p => [.capture n (.choice p.reducedBranches)]
  | seq p q => [.sequence [.choice p.reducedBranches, .choice q.reducedBranches]]
  | alt p q => p.reducedBranches ++ q.reducedBranches
  | times p min max greedy => [.repeated (.choice p.reducedBranches) min max greedy]

/-- A pattern without what makes no difference to its automata. -/
def reduced (p : Pattern) : Reduced := .choice p.reducedBranches

end TypedWiki.Pattern
