import Mathlib.Data.Set.Lattice
import Mathlib.Logic.Relation
import TypedWiki.Pattern.Match

/-!
# Spans — the meaning of a pattern

A pattern relates the position where a match starts to the one where it ends; the relation follows the syntax.  A
match only goes on in the text or stands still, and of more rounds than there are positions one stands still.

* `Spans`: the relation of a pattern.
* `Matches`: a pattern matches the whole of a text.
* `Forward`, `forward_spans`: a match goes on and keeps to the text.
* `Forward.rounds_congr`: beyond the length of the text, one round more or less makes no difference.
* `CountsOrdered`, `Forward.repeats_truncate`: a repetition whose bounds are in order needs no more rounds than that.
-/

namespace TypedWiki.Pattern

/-! ### Relations between positions -/

/-- A number of steps of a relation. -/
def Rounds (R : Nat → Nat → Prop) : Nat → Nat → Nat → Prop
  | 0, i, j => i = j
  | n + 1, i, j => ∃ k, R i k ∧ Rounds R n k j

/-- At least `min` and, if bounded, at most `max` steps of a relation. -/
def Repeats (R : Nat → Nat → Prop) (min : Nat) (max : Option Nat) (i j : Nat) : Prop :=
  ∃ n, min ≤ n ∧ (∀ m ∈ max, n ≤ m) ∧ Rounds R n i j

/-- From a position of a text of length `n`, a step does not go back nor beyond the end. -/
def Forward (n : Nat) (R : Nat → Nat → Prop) : Prop := ∀ ⦃i j⦄, i ≤ n → R i j → i ≤ j ∧ j ≤ n

variable {R : Nat → Nat → Prop} {n k i j : Nat}

theorem rounds_one : Rounds R 1 i j ↔ R i j :=
  ⟨fun ⟨_, hR, hj⟩ => hj ▸ hR, fun hR => ⟨j, hR, rfl⟩⟩

/-- Steps in a row are parted anywhere. -/
theorem rounds_add : Rounds R (n + k) i j ↔ ∃ m, Rounds R n i m ∧ Rounds R k m j := by
  induction n generalizing i with
  | zero => simp [Rounds]
  | succ n ih =>
    rw [Nat.succ_add]
    simp only [Rounds, ih]
    constructor
    · rintro ⟨l, hl, m, hm, hj⟩
      exact ⟨m, ⟨l, hl, hm⟩, hj⟩
    · rintro ⟨m, ⟨l, hl, hm⟩, hj⟩
      exact ⟨l, hl, m, hm, hj⟩

/-- One or more steps are a number of them. -/
theorem transGen_iff_rounds : Relation.TransGen R i j ↔ ∃ n, Rounds R (n + 1) i j := by
  constructor
  · intro h
    induction h with
    | single hR => exact ⟨0, rounds_one.2 hR⟩
    | tail _ hR ih =>
      obtain ⟨n, hn⟩ := ih
      exact ⟨n + 1, rounds_add.2 ⟨_, hn, rounds_one.2 hR⟩⟩
  · rintro ⟨n, h⟩
    induction n generalizing i with
    | zero => exact .single (rounds_one.1 h)
    | succ n ih =>
      obtain ⟨k, hk, hj⟩ := h
      exact .head hk (ih hj)

/-! ### Steps that go on -/

theorem Forward.rounds (fwd : Forward n R) (k : Nat) : Forward n (Rounds R k) := by
  intro i j hi h
  induction k generalizing i with
  | zero => exact ⟨h.le, h ▸ hi⟩
  | succ k ih =>
    obtain ⟨m, hm, hj⟩ := h
    obtain ⟨him, hmn⟩ := fwd hi hm
    obtain ⟨hmj, hjn⟩ := ih hmn hj
    exact ⟨him.trans hmj, hjn⟩

theorem Forward.repeats (fwd : Forward n R) (min : Nat) (max : Option Nat) : Forward n (Repeats R min max) := by
  rintro i j hi ⟨k, -, -, h⟩
  exact fwd.rounds k hi h

theorem Forward.transGen (fwd : Forward n R) : Forward n (Relation.TransGen R) := by
  intro i j hi h
  obtain ⟨k, hk⟩ := transGen_iff_rounds.1 h
  exact fwd.rounds _ hi hk

/-- Of more steps than the distance they cover, one stands still: it can be left out and made twice. -/
theorem Forward.pump (fwd : Forward n R) (hi : i ≤ n) (h : Rounds R (k + 1) i j) (hk : j < i + (k + 1)) :
    Rounds R k i j ∧ Rounds R (k + 2) i j := by
  induction k generalizing i with
  | zero =>
    have hR := rounds_one.1 h
    obtain rfl : i = j := by have := fwd hi hR; omega
    exact ⟨rfl, i, hR, h⟩
  | succ k ih =>
    obtain ⟨m, hm, hj⟩ := h
    obtain ⟨him, hmn⟩ := fwd hi hm
    obtain rfl | hlt := him.eq_or_lt
    · exact ⟨hj, i, hm, i, hm, hj⟩
    · obtain ⟨fewer, more⟩ := ih hmn hj (by omega)
      exact ⟨⟨m, hm, fewer⟩, m, hm, more⟩

/-- Beyond the length of the text, the number of steps makes no difference. -/
theorem Forward.rounds_congr (fwd : Forward n R) (hi : i ≤ n) (hk : n < k) : Rounds R k i j ↔ Rounds R (n + 1) i j := by
  induction k, hk using Nat.le_induction with
  | base => rfl
  | succ k hk ih =>
    refine Iff.trans ⟨fun h => ?_, fun h => ?_⟩ ih
    · have hj := (fwd.rounds _ hi h).2
      exact (fwd.pump hi h (by omega)).1
    · obtain ⟨k, rfl⟩ := Nat.exists_eq_add_of_lt hk
      have hj := (fwd.rounds _ hi h).2
      exact (fwd.pump hi h (by omega)).2

/-- A repetition whose bounds are in order can do with as many rounds as there are positions. -/
theorem Forward.repeats_truncate (fwd : Forward n R) {low : Nat} {high : Option Nat} (ordered : ∀ m ∈ high, low ≤ m)
    (hi : i ≤ n) :
    Repeats R (Nat.min (n + 1) low) (high.map (Nat.min (n + 1))) i j ↔ Repeats R low high i j := by
  constructor
  · rintro ⟨k, hk, hmax, h⟩
    by_cases le : low ≤ n + 1
    · refine ⟨k, (Nat.min_eq_right le).ge.trans hk, fun m hm => ?_, h⟩
      exact (hmax _ (Option.mem_map_of_mem _ hm)).trans (Nat.min_le_right _ _)
    · have hk : n + 1 ≤ k := (Nat.min_eq_left (by omega)).ge.trans hk
      refine ⟨low, le_rfl, ordered, ?_⟩
      rw [fwd.rounds_congr hi (by omega)] at h ⊢
      exact h
  · rintro ⟨k, hk, hmax, h⟩
    by_cases le : k ≤ n + 1
    · refine ⟨k, (Nat.min_le_right _ _).trans hk, fun m hm => ?_, h⟩
      obtain ⟨m, mem, rfl⟩ := Option.mem_map.1 hm
      exact Nat.le_min.2 ⟨le, hmax m mem⟩
    · refine ⟨n + 1, Nat.min_le_left _ _, fun m hm => ?_, (fwd.rounds_congr hi (by omega)).1 h⟩
      obtain ⟨m, mem, rfl⟩ := Option.mem_map.1 hm
      have := hmax m mem
      exact Nat.le_min.2 ⟨le_rfl, by omega⟩

/-! ### The relation of a pattern -/

/-- Whether a match that starts at one position of a text can end at another. -/
def Spans (text : Array Char) : Pattern → Nat → Nat → Prop
  | empty, i, j => j = i
  | chars s, i, j => ∃ c, text[i]? = some c ∧ s.contains c = true ∧ j = i + 1
  | boundary b, i, j => b.holds text i = true ∧ j = i
  | group _ p, i, j => Spans text p i j
  | seq p q, i, j => ∃ k, Spans text p i k ∧ Spans text q k j
  | alt p q, i, j => Spans text p i j ∨ Spans text q i j
  | times p min max _, i, j => Repeats (Spans text p) min max i j

/-- A pattern matches a text from its first to its last character. -/
def Matches (p : Pattern) (s : String) : Prop := Spans s.toList.toArray p 0 s.toList.length

/-- No repetition asks for more rounds than it allows. -/
def CountsOrdered : Pattern → Prop
  | group _ p => p.CountsOrdered
  | seq p q => p.CountsOrdered ∧ q.CountsOrdered
  | alt p q => p.CountsOrdered ∧ q.CountsOrdered
  | times p min max _ => (∀ m ∈ max, min ≤ m) ∧ p.CountsOrdered
  | _ => True

theorem forward_spans (text : Array Char) (p : Pattern) : Forward text.size (Spans text p) := by
  induction p with
  | empty =>
    rintro i j hi rfl
    exact ⟨le_rfl, hi⟩
  | chars s =>
    rintro i j - ⟨c, hc, -, rfl⟩
    have := (Array.getElem?_eq_some_iff.1 hc).1
    omega
  | boundary b =>
    rintro i j hi ⟨-, rfl⟩
    exact ⟨le_rfl, hi⟩
  | group _ p ih => exact ih
  | seq p q ihp ihq =>
    rintro i j hi ⟨k, hk, hj⟩
    obtain ⟨hik, hkn⟩ := ihp hi hk
    obtain ⟨hkj, hjn⟩ := ihq hkn hj
    exact ⟨hik.trans hkj, hjn⟩
  | alt p q ihp ihq =>
    rintro i j hi (h | h)
    · exact ihp hi h
    · exact ihq hi h
  | times p min max _ ih => exact ih.repeats min max

end TypedWiki.Pattern
