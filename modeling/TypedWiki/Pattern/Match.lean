import TypedWiki.Pattern.Syntax

/-!
# Matching — where a pattern can end

A set of positions of a text is a natural number whose bits are its members.  A pattern takes the set of positions
where matches start to the set of those where they end.  What was tried from a position is not tried from there again:
each part remembers from where it went on, also when it is a part of repetitions within repetitions.  A part that is
repeated has a memory for each round that is counted, and one for all rounds of an unbounded rest.  A match only goes
on in the text or stands still, so that in a text of `n` characters the rounds after the first `n + 1` change nothing.
-/

namespace TypedWiki

namespace Boundary

/-- Whether a character is one that words are made of. -/
def isWordChar (ascii : Bool) (c : Char) : Bool := CharSet.isWord c && (!ascii || c.toNat < 128)

/-- Whether the character at position `i` is a word character. -/
def isWordAt (ascii : Bool) (text : Array Char) (i : Nat) : Bool := text[i]?.any (isWordChar ascii)

/-- Whether the character before position `i` is a word character. -/
def isWordBefore (ascii : Bool) (text : Array Char) (i : Nat) : Bool := i ≠ 0 && isWordAt ascii text (i - 1)

/-- Whether position `i` is at the start or the character before it is `c`. -/
def isAfter (text : Array Char) (c : Char) (i : Nat) : Bool := i == 0 || text[i - 1]? == some c

/-- Whether position `i` is at the end or the character at it is `c`. -/
def isBefore (text : Array Char) (c : Char) (i : Nat) : Bool := i == text.size || text[i]? == some c

/-- Whether position `i` lies inside of a carriage return with its line feed. -/
def isInsideLineEnd (text : Array Char) (i : Nat) : Bool :=
  i ≠ 0 && text[i - 1]? == some '\r' && text[i]? == some '\n'

/-- Whether a position satisfies the condition. -/
def holds (text : Array Char) (i : Nat) : Boundary → Bool
  | .textStart => i == 0
  | .textEnd => i == text.size
  | .lineStart => isAfter text '\n' i
  | .lineEnd => isBefore text '\n' i
  | .anyLineStart => (isAfter text '\n' i || isAfter text '\r' i) && !isInsideLineEnd text i
  | .anyLineEnd => (isBefore text '\n' i || isBefore text '\r' i) && !isInsideLineEnd text i
  | .word a => isWordBefore a text i != isWordAt a text i
  | .notWord a => isWordBefore a text i == isWordAt a text i
  | .wordStart a => !isWordBefore a text i && isWordAt a text i
  | .wordEnd a => isWordBefore a text i && !isWordAt a text i
  | .wordStartHalf a => !isWordBefore a text i
  | .wordEndHalf a => !isWordAt a text i

end Boundary

namespace Pattern

/-- A set of positions: position `i` is a member if bit `i` is set. -/
abbrev Positions := Nat

namespace Positions

/-- All positions from zero to `n`. -/
def upTo (n : Nat) : Positions := 1 <<< (n + 1) - 1

/-- The members of the first set that are not in the second. -/
def diff (a b : Positions) : Positions := a ^^^ (a &&& b)

/-- The members below `1 <<< k` that are taken by `f` when they are moved by `i`.  Halves without members are
skipped. -/
def pick (f : Nat → Bool) : Nat → Nat → Positions → Positions
  | 0, i, s => if s.testBit 0 && f i then 1 else 0
  | k + 1, i, s =>
    if s = 0 then 0
    else pick f k i (s % (1 <<< (1 <<< k))) ||| pick f k (i + (1 <<< k)) (s >>> (1 <<< k)) <<< (1 <<< k)

/-- The members up to `n` that satisfy a condition. -/
def filter (n : Nat) (f : Nat → Bool) (s : Positions) : Positions := pick f (n.log2 + 1) 0 s

theorem testBit_upTo (n i : Nat) : (upTo n).testBit i = decide (i ≤ n) := by
  rw [upTo, Nat.one_shiftLeft, Nat.testBit_two_pow_sub_one]
  exact decide_eq_decide.2 Nat.lt_succ_iff

theorem testBit_diff (a b i : Nat) : (diff a b).testBit i = (a.testBit i && !b.testBit i) := by
  rw [diff, Nat.testBit_xor, Nat.testBit_and]
  cases a.testBit i <;> cases b.testBit i <;> rfl

theorem testBit_pick (f : Nat → Bool) (k i : Nat) (s : Positions) (j : Nat) :
    (pick f k i s).testBit j = (decide (j < 1 <<< k) && (s.testBit j && f (i + j))) := by
  rw [Nat.one_shiftLeft]
  induction k generalizing i s j with
  | zero =>
    rw [pick, Nat.pow_zero]
    rcases j with _ | j
    · cases s.testBit 0 && f i <;> simp
    · cases s.testBit 0 && f i <;> simp [Nat.testBit_succ]
  | succ k ih =>
    rw [pick]
    split
    · simp_all
    · simp only [Nat.one_shiftLeft]
      rw [Nat.testBit_or, Nat.testBit_shiftLeft, ih, ih, Nat.testBit_mod_two_pow, Nat.testBit_shiftRight]
      have hk : 2 ^ (k + 1) = 2 ^ k + 2 ^ k := by rw [Nat.pow_succ]; omega
      by_cases h : j < 2 ^ k
      · have h' : ¬ 2 ^ k ≤ j := by omega
        have h'' : j < 2 ^ (k + 1) := by omega
        simp [h, h', h'']
      · have h' : 2 ^ k ≤ j := by omega
        have hj : i + 2 ^ k + (j - 2 ^ k) = i + j := by omega
        have hb : (j - 2 ^ k < 2 ^ k) ↔ (j < 2 ^ (k + 1)) := by omega
        simp [h, h', hj, hb]

theorem testBit_filter (n : Nat) (f : Nat → Bool) (s : Positions) {i : Nat} (h : i ≤ n) :
    (filter n f s).testBit i = (s.testBit i && f i) := by
  have hi : i < 2 ^ (n.log2 + 1) := Nat.lt_of_le_of_lt h Nat.lt_log2_self
  simp [filter, testBit_pick, Nat.one_shiftLeft, hi]

end Positions

/-- What a part of a pattern remembers: the positions from where it went on, and what its own parts remember. -/
inductive Memory where
  | mk (seen : Positions) (parts : List Memory)

namespace Memory

/-- The memory of what was not tried yet. -/
def blank : Memory := mk 0 []

/-- The positions from where the part went on. -/
def seen : Memory → Positions
  | mk s _ => s

/-- What the parts remember. -/
def parts : Memory → List Memory
  | mk _ ms => ms

/-- What one of the parts remembers. -/
def part (m : Memory) (i : Nat) : Memory := m.parts.getD i blank

/-- Goes on from the positions of a set that are not remembered yet. -/
def goOn (m : Memory) (s : Positions) (walk : Positions → Positions × List Memory) : Positions × Memory :=
  let new := s.diff m.seen
  if new = 0 then (0, m)
  else
    let (ends, parts) := walk new
    (ends, mk (m.seen ||| new) parts)

end Memory

/-- From a memory and a set of starts to the ends that are new to the memory, and what is remembered then. -/
abbrev Walk := Memory → Positions → Positions × Memory

namespace Walk

/-- Walks `n` rounds; what is reached after `min` or more of them are ends, from which there is no need to go on in a
later round.  The memories of the rounds are kept in a list, of which those of the rounds made are held in reverse. -/
def rounds (walk : Walk) (n min : Nat) (ahead made : List Memory) (s ends : Positions) : Positions × List Memory :=
  match n with
  | 0 => (ends ||| s, made.reverse ++ ahead)
  | n + 1 =>
    let s := if min = 0 then s.diff ends else s
    if s = 0 then (ends, made.reverse ++ ahead)
    else
      let (next, m) := walk (ahead.headD .blank) s
      rounds walk n (min - 1) ahead.tail (m :: made) next (if min = 0 then ends ||| s else ends)

/-- Walks on from what was found last, up to `n` times, until nothing new is found. -/
def spread (walk : Walk) (n : Nat) (front found : Positions) (m : Memory) : Positions × Memory :=
  match n with
  | 0 => (found, m)
  | n + 1 =>
    let (next, m) := walk m front
    let new := next.diff found
    if new = 0 then (found, m) else spread walk n new (found ||| new) m

/-- Walks one round or more.  The ends are remembered beside what the walk remembers. -/
def onward (walk : Walk) (n : Nat) : Walk := fun m s =>
  let (found, inner) := spread walk n s m.seen (m.part 0)
  (found.diff m.seen, .mk found [inner])

/-- Walks at least `min` and, if bounded, at most `max` rounds, of which no more than the first `n` make a change. -/
def repeated (walk : Walk) (n min : Nat) (max : Option Nat) : Walk := fun m s =>
  m.goOn s fun s =>
    match max with
    | some max => rounds walk (Nat.min n max) (Nat.min n min) m.parts [] s 0
    | none =>
      let needed := Nat.min n min - 1
      let (starts, rest) := rounds walk needed needed m.parts.tail [] s 0
      let (ends, first) := onward walk n (m.part 0) starts
      (if min = 0 then s ||| ends else ends, first :: rest)

end Walk

/-- The walk through a pattern. -/
def walk (text : Array Char) : Pattern → Walk
  | empty, m, s => m.goOn s fun s => (s, [])
  | chars c, m, s => m.goOn s fun s => ((s.filter text.size fun i => text[i]?.any c.contains) <<< 1, [])
  | boundary b, m, s => m.goOn s fun s => (s.filter text.size fun i => b.holds text i, [])
  | group _ p, m, s => walk text p m s
  | seq p q, m, s => m.goOn s fun s =>
    let (middle, first) := walk text p (m.part 0) s
    let (ends, second) := walk text q (m.part 1) middle
    (ends, [first, second])
  | alt p q, m, s => m.goOn s fun s =>
    let (ends, first) := walk text p (m.part 0) s
    let (ends', second) := walk text q (m.part 1) s
    (ends ||| ends', [first, second])
  | times p min max _, m, s => (walk text p).repeated (text.size + 1) min max m s

/-- The positions at which a match that starts in a given set can end. -/
def image (text : Array Char) (p : Pattern) (s : Positions) : Positions := (walk text p .blank s).1

/-- Whether a pattern matches somewhere in a text. -/
def isMatch (p : Pattern) (s : String) : Bool :=
  let text := s.toList.toArray
  image text p (.upTo text.size) ≠ 0

end Pattern

end TypedWiki
