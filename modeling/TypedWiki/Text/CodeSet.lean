/-!
# Code point sets and runs — compact tables of character properties

A `CodeSet` lists where membership changes, in increasing order: a code point belongs to it when an odd number of
boundaries lie at or below it.  Two sets are combined in one walk over both lists.  Long tables are written as text,
each boundary by its distance from the one before it.  A `CodeRun` moves every
`step`-th code point of an interval by the same distance; a list of runs is a partial map on characters.
-/

namespace TypedWiki.Text

/-- A set of code points, given by the points at which membership changes. -/
structure CodeSet where
  boundaries : List Nat
  deriving DecidableEq, Repr

namespace CodeSet

/-- An odd number of boundaries at or below a code point puts it inside. -/
def contains (s : CodeSet) (c : Char) : Bool := s.boundaries.countP (· ≤ c.toNat) % 2 == 1

/-- The code points of characters. -/
def all : CodeSet := ⟨[0, 0xD800, 0xE000, 0x110000]⟩

/-- The code points from `lo` to `hi`. -/
def interval (lo hi : Nat) : CodeSet := if lo ≤ hi then ⟨[lo, hi + 1]⟩ else ⟨[]⟩

/-- The code points for which `f` holds of being in the first and being in the second set. -/
def combine (f : Bool → Bool → Bool) (a b : CodeSet) : CodeSet := ⟨walk false false a.boundaries b.boundaries⟩
where
  /-- Keeps a boundary if it changes the outcome. -/
  mark (n : Nat) (before after : Bool) (rest : List Nat) : List Nat := if before = after then rest else n :: rest
  /-- Walks on from a point that is in the sets as `x` and `y` say. -/
  walk (x y : Bool) (as bs : List Nat) : List Nat :=
    match as, bs with
    | [], [] => []
    | m :: as, [] => mark m (f x y) (f (!x) y) (walk (!x) y as [])
    | [], n :: bs => mark n (f x y) (f x !y) (walk x (!y) [] bs)
    | m :: as, n :: bs =>
      if m < n then mark m (f x y) (f (!x) y) (walk (!x) y as (n :: bs))
      else if n < m then mark n (f x y) (f x !y) (walk x (!y) (m :: as) bs)
      else mark m (f x y) (f (!x) !y) (walk (!x) (!y) as bs)
  termination_by as.length + bs.length

/-- The union. -/
def union (a b : CodeSet) : CodeSet := combine (· || ·) a b

/-- The intersection. -/
def inter (a b : CodeSet) : CodeSet := combine (· && ·) a b

/-- The members of the first set that are not in the second. -/
def diff (a b : CodeSet) : CodeSet := combine (fun x y => x && !y) a b

/-- The members of exactly one set. -/
def symmDiff (a b : CodeSet) : CodeSet := combine (· != ·) a b

/-- The set whose boundaries lie at the given distances from one another, the first from zero.  The distances are
decimal numbers between white space. -/
def ofGaps (s : String) : CodeSet := ⟨read 0 none s.toList⟩
where
  /-- Reads on from the last boundary, in the middle of a number or between two of them. -/
  read (last : Nat) : Option Nat → List Char → List Nat
    | none, [] => []
    | some gap, [] => [last + gap]
    | gap, c :: rest =>
      if '0' ≤ c && c ≤ '9' then read last (some (gap.getD 0 * 10 + (c.toNat - 48))) rest
      else match gap with
        | some gap => (last + gap) :: read (last + gap) none rest
        | none => read last none rest

/-- The set of the given code points. -/
def ofList (ns : List Nat) : CodeSet :=
  match ns.mergeSort with
  | [] => ⟨[]⟩
  | n :: rest => ⟨n :: close (n + 1) rest⟩
where
  /-- The boundaries from the end of the current interval on. -/
  close (stop : Nat) : List Nat → List Nat
    | [] => [stop]
    | n :: rest =>
      if n < stop then close stop rest
      else if n = stop then close (n + 1) rest
      else stop :: n :: close (n + 1) rest

/-- The intervals of a set as pairs of the first and the last code point. -/
def intervals (s : CodeSet) : List (Nat × Nat) := pairs s.boundaries
where
  /-- Takes the boundaries two by two. -/
  pairs : List Nat → List (Nat × Nat)
    | lo :: hi :: rest => (lo, hi - 1) :: pairs rest
    | _ => []

end CodeSet

/-- The code points `first`, `first + step`, … up to `last`, each moved by `distance`. -/
structure CodeRun where
  first : Nat
  last : Nat
  step : Nat
  distance : Int

namespace CodeRun

/-- Whether the run moves `n`. -/
def covers (r : CodeRun) (n : Nat) : Bool := r.first ≤ n && n ≤ r.last && (n - r.first) % r.step == 0

/-- The image of a character under the first run that covers it; uncovered characters stay. -/
def move (runs : List CodeRun) (c : Char) : Char :=
  match runs.find? (·.covers c.toNat) with
  | some r => Char.ofNat (Int.toNat (c.toNat + r.distance))
  | none => c

/-- The code points that the run moves. -/
def sources (r : CodeRun) : List Nat :=
  (List.range ((r.last - r.first) / r.step + 1)).map fun k => r.first + k * r.step

end CodeRun

end TypedWiki.Text
