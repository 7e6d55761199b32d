import Mathlib.Data.Finset.Card
import TypedWiki.Proofs.Pattern.Rounds

/-!
# Walks — the ends that are found are those that there are

* `members_spread`, `explores_onward`: going on until nothing new is found.
* `exists_explores_repeated`: repetitions whose bounds are in order.
* `exists_explores_walk`, `members_image`: the walk through a pattern gives the ends of its spans.
* `isMatch_iff`: a pattern is found in a text if it spans some part of it.
* `isMatch_enclosed_iff`: between the marks for start and end, it is found if it matches the whole text.
-/

namespace TypedWiki.Pattern

/-! ### Uncounted rounds -/

/-- The number of positions of a text of length `n` that were not found. -/
def missing (n : Nat) (found : Positions) : Nat := ((Finset.range (n + 1)).filter (found.testBit · = false)).card

section Onward

variable {n : Nat} {walk : Walk} {R : Nat → Nat → Prop} {Stands : Memory → Set Nat → Prop} {S T : Set Nat}

open Relation (TransGen)

theorem missing_le (n : Nat) (found : Positions) : missing n found ≤ n + 1 :=
  (Finset.card_filter_le _ _).trans (Finset.card_range _).le

theorem subset_of_missing_eq_zero {found : Positions} (h : missing n found = 0) : Set.Iic n ⊆ found.members := by
  intro i hi
  have none := Finset.filter_eq_empty_iff.1 (Finset.card_eq_zero.1 h) (Finset.mem_range.2 (Nat.lt_succ_of_le hi))
  simpa [Positions.mem_members] using none

/-- What is found anew is missing no more. -/
theorem missing_lt {found next : Positions} (bound : next.members ⊆ Set.Iic n) (ne : next.diff found ≠ 0) :
    missing n (found ||| next.diff found) < missing n found := by
  obtain ⟨i, hi⟩ := Set.nonempty_iff_ne_empty.2 (mt Positions.members_eq_empty_iff.1 ne)
  rw [Positions.members_diff] at hi
  refine Finset.card_lt_card ((Finset.ssubset_iff_of_subset ?_).2 ⟨i, ?_, ?_⟩)
  · refine Finset.monotone_filter_right _ fun j _ hj => ?_
    rw [Nat.testBit_or, Bool.or_eq_false_iff] at hj
    exact hj.1
  · exact Finset.mem_filter.2 ⟨Finset.mem_range.2 (Nat.lt_succ_of_le (bound hi.1)), eq_false_of_ne_true hi.2⟩
  · have : (next.diff found).testBit i = true := by rwa [← Positions.mem_members, Positions.members_diff]
    simp [Nat.testBit_or, this]

/-- Spreading finds all that is reached in one step or more: from what was found and is not in front, a step leads
to what was found. -/
theorem members_spread (ex : Explores n .blank walk R Stands) (fwd : Forward n R) (hS : S ⊆ Set.Iic n) (fuel : Nat)
    {front found : Positions} {m : Memory} (stands : Stands m T) (within : T ∪ front.members ⊆ S ∪ found.members)
    (sound : found.members ⊆ reach (TransGen R) S) (walked : reach R T ⊆ found.members)
    (closed : reach R ((S ∪ found.members) \ front.members) ⊆ found.members) (enough : missing n found ≤ fuel) :
    (walk.spread fuel front found m).1.members = reach (TransGen R) S ∧
      ∃ T' ⊆ S ∪ reach (TransGen R) S, Stands (walk.spread fuel front found m).2 T' := by
  induction fuel generalizing front found m T with
  | zero =>
    have all := subset_of_missing_eq_zero (Nat.le_zero.1 enough)
    refine ⟨Set.Subset.antisymm sound ((fwd.transGen.reach_subset hS).trans all), T, ?_, stands⟩
    exact (Set.subset_union_left.trans within).trans (Set.union_subset_union_right S sound)
  | succ fuel ih =>
    have bound : S ∪ found.members ⊆ Set.Iic n := Set.union_subset hS (sound.trans (fwd.transGen.reach_subset hS))
    have stands' := ex.keeps stands (within.trans bound)
    have reaches := ex.reaches stands (within.trans bound)
    rw [Walk.spread]
    generalize walk m front = walkedTo at stands' reaches
    obtain ⟨next, m'⟩ := walkedTo
    have next_sound : next.members ⊆ reach (TransGen R) S := by
      have : next.members ⊆ reach R (T ∪ front.members) := reaches ▸ Set.subset_union_right
      refine (this.trans (reach_mono (within.trans ?_))).trans reach_reach_transGen
      exact Set.union_subset_union_right S sound
    -- from all that was found so far, a step leads to what was found or is found now
    have step : reach R (S ∪ found.members) ⊆ found.members ∪ next.members := by
      rintro j ⟨i, hi, hR⟩
      by_cases hf : i ∈ front.members
      · have : j ∈ reach R T ∪ next.members := reaches ▸ ⟨i, .inr hf, hR⟩
        exact this.imp_left fun hj => walked hj
      · exact .inl (closed ⟨i, ⟨hi, hf⟩, hR⟩)
    have grown : (found ||| next.diff found).members = found.members ∪ next.members := by
      rw [Positions.members_or, Positions.members_diff, Set.union_sdiff_self]
    dsimp only
    split
    · rename_i none
      have sub : next.members ⊆ found.members := by
        rw [← Positions.members_eq_empty_iff, Positions.members_diff] at none
        exact Set.sdiff_eq_empty.1 none
      rw [Set.union_eq_self_of_subset_right sub] at step
      refine ⟨Set.Subset.antisymm sound (reach_transGen_subset step), _, ?_, stands'⟩
      exact within.trans (Set.union_subset_union_right S sound)
    · rename_i some
      refine ih stands' ?_ ?_ ?_ ?_ ?_
      · rw [grown, Positions.members_diff, ← Set.union_assoc]
        exact Set.union_subset_union within Set.sdiff_subset
      · rw [grown]
        exact Set.union_subset sound next_sound
      · rw [grown, ← reaches]
        exact Set.union_subset_union_left _ walked
      · rw [grown]
        refine (reach_mono ?_).trans step
        rw [Positions.members_diff]
        rintro i ⟨hi | hi | hi, new⟩
        · exact .inl hi
        · exact .inr hi
        · exact .inr (not_not.1 fun unfound => new ⟨hi, unfound⟩)
      · have := missing_lt (next_sound.trans (fwd.transGen.reach_subset hS)) some
        omega

/-- Walking one round or more explores the steps in a row. -/
theorem explores_onward (ex : Explores n .blank walk R Stands) (fwd : Forward n R) :
    Explores n .blank (walk.onward (n + 1)) (TransGen R) fun m S =>
      m.seen.members = reach (TransGen R) S ∧ ∃ T ⊆ S ∪ reach (TransGen R) S, Stands (m.part 0) T := by
  have found : ∀ {m : Memory} {S T : Set Nat} {s : Positions}, m.seen.members = reach (TransGen R) S →
      T ⊆ S ∪ reach (TransGen R) S → Stands (m.part 0) T → S ∪ s.members ⊆ Set.Iic n →
      (walk.spread (n + 1) s m.seen (m.part 0)).1.members = reach (TransGen R) (S ∪ s.members) ∧
        ∃ T' ⊆ (S ∪ s.members) ∪ reach (TransGen R) (S ∪ s.members),
          Stands (walk.spread (n + 1) s m.seen (m.part 0)).2 T' := by
    intro m S T s seen hT stands bound
    refine members_spread ex fwd bound (n + 1) stands ?_ ?_ ?_ ?_ (missing_le n m.seen)
    · rw [seen]
      refine Set.union_subset (hT.trans ?_) (Set.subset_union_right.trans Set.subset_union_left)
      exact Set.union_subset_union_left _ Set.subset_union_left
    · rw [seen]
      exact reach_mono Set.subset_union_left
    · rw [seen]
      exact (reach_mono hT).trans reach_reach_transGen
    · rw [seen]
      refine (reach_mono ?_).trans reach_reach_transGen
      rintro i ⟨(hi | hi) | hi, ahead⟩
      · exact .inl hi
      · exact absurd hi ahead
      · exact .inr hi
  refine ⟨⟨?_, ∅, Set.empty_subset _, ex.blank⟩, ?_, ?_⟩
  · rw [reach_empty]
    exact Positions.members_zero
  · rintro m S s ⟨seen, T, hT, stands⟩ bound
    obtain ⟨eq, T', hT', stands'⟩ := found seen hT stands bound
    exact ⟨eq, T', hT', stands'⟩
  · rintro m S s ⟨seen, T, hT, stands⟩ bound
    have eq := (found seen hT stands bound).1
    rw [Walk.onward, Positions.members_diff, ← seen, Set.union_sdiff_self, eq, seen, reach_union]
    simp

/-- A required number of rounds and one more or many more. -/
theorem repeats_succ_iff {needed i j : Nat} :
    Repeats R (needed + 1) none i j ↔ ∃ k, Repeats R needed (some needed) i k ∧ TransGen R k j := by
  constructor
  · rintro ⟨l, hl, -, h⟩
    obtain ⟨d, rfl⟩ := Nat.exists_eq_add_of_le hl
    rw [Nat.add_assoc, Nat.add_comm 1, rounds_add] at h
    obtain ⟨k, hk, hj⟩ := h
    exact ⟨k, ⟨needed, le_rfl, fun m hm => (Option.mem_some.1 hm).le, hk⟩, transGen_iff_rounds.2 ⟨d, hj⟩⟩
  · rintro ⟨k, ⟨l, hmin, -, hk⟩, h⟩
    obtain ⟨d, hd⟩ := transGen_iff_rounds.1 h
    exact ⟨l + (d + 1), by omega, nofun, rounds_add.2 ⟨k, hk, hd⟩⟩

theorem repeats_zero_iff {i j : Nat} : Repeats R 0 none i j ↔ i = j ∨ Repeats R 1 none i j := by
  constructor
  · rintro ⟨_ | l, -, -, h⟩
    · exact .inl h
    · exact .inr ⟨l + 1, by omega, nofun, h⟩
  · rintro (h | ⟨l, -, -, h⟩)
    · exact ⟨0, le_rfl, nofun, h⟩
    · exact ⟨l, Nat.zero_le l, nofun, h⟩

/-- An unbounded repetition that is not optional gives what is found onward from the rounds needed before. -/
theorem repeated_of_ne_zero (walk : Walk) (n : Nat) {low : Nat} (h : low ≠ 0) :
    walk.repeated n low none = fun m s => m.goOn s fun s =>
      let (starts, rest) := walk.rounds (Nat.min n low - 1) (Nat.min n low - 1) m.parts.tail [] s 0
      let (ends, first) := walk.onward n (m.part 0) starts
      (ends, first :: rest) := by
  funext m s
  simp only [Walk.repeated, if_neg h]

/-- A repeated walk explores the repetition if its bounds are in order. -/
theorem exists_explores_repeated (ex : Explores n .blank walk R Stands) (fwd : Forward n R) {low : Nat}
    {high : Option Nat} (ordered : ∀ m ∈ high, low ≤ m) :
    ∃ Stands', Explores n .blank (walk.repeated (n + 1) low high) (Repeats R low high) Stands' := by
  cases high with
  | some high =>
    have counts : Nat.min (n + 1) low ≤ Nat.min (n + 1) high :=
      Nat.le_min.2 ⟨Nat.min_le_left _ _, (Nat.min_le_right _ _).trans (ordered high rfl)⟩
    exact ⟨_, ((explores_rounds ex fwd counts).goOn).congr fun i hi j => fwd.repeats_truncate ordered hi⟩
  | none =>
    have needed := explores_rounds ex fwd (le_refl (Nat.min (n + 1) low - 1))
    have both := needed.andThen [] (fun memories => (memories.tail, memories.getD 0 .blank))
      (fun rest first => first :: rest) (explores_onward ex fwd) (fwd.repeats _ _) rfl fun _ _ => rfl
    by_cases optional : low = 0
    · subst optional
      refine ⟨_, both.orStand.goOn.congr fun i hi j => ?_⟩
      rw [repeats_zero_iff, repeats_succ_iff]
      rfl
    · have same : Nat.min (n + 1) low - 1 + 1 = Nat.min (n + 1) low :=
        Nat.sub_add_cancel (Nat.le_min.2 ⟨by omega, by omega⟩)
      refine ⟨_, repeated_of_ne_zero walk (n + 1) optional ▸ both.goOn.congr fun i hi j => ?_⟩
      rw [← repeats_succ_iff, same]
      exact fwd.repeats_truncate ordered hi

end Onward

/-! ### The walk through a pattern -/

/-- The memories of two parts. -/
def two (memories : List Memory) : Memory × Memory := (memories.getD 0 .blank, memories.getD 1 .blank)

/-- The walk through a pattern whose counts are in order explores its spans. -/
theorem exists_explores_walk (text : Array Char) {p : Pattern} (ordered : p.CountsOrdered) :
    ∃ Stands, Explores text.size .blank (walk text p) (Spans text p) Stands := by
  induction p with
  | empty =>
    refine ⟨_, (explores_leaf fun s _ => ?_).goOn⟩
    ext j
    simp [reach, Spans]
  | chars c =>
    refine ⟨_, (explores_leaf fun s bound => ?_).goOn⟩
    ext j
    cases j with
    | zero => simp [Positions.mem_members, reach, Spans]
    | succ i =>
      have shifted : i + 1 ∈ ((s.filter text.size fun i => text[i]?.any c.contains) <<< 1).members ↔
          i ∈ (s.filter text.size fun i => text[i]?.any c.contains).members := by
        simp [Positions.mem_members, Nat.testBit_shiftLeft]
      rw [shifted, Positions.mem_members_filter_iff bound, Option.any_eq_true]
      simp [reach, Spans]
  | boundary b =>
    refine ⟨_, (explores_leaf fun s bound => ?_).goOn⟩
    ext j
    rw [Positions.mem_members_filter_iff bound]
    simp [reach, Spans]
  | group _ p ih => exact ih ordered
  | seq p q ihp ihq =>
    obtain ⟨_, exp⟩ := ihp ordered.1
    obtain ⟨_, exq⟩ := ihq ordered.2
    exact ⟨_, (exp.andThen [] two (fun first second => [first, second]) exq (forward_spans text p) rfl
      fun _ _ => rfl).goOn⟩
  | alt p q ihp ihq =>
    obtain ⟨_, exp⟩ := ihp ordered.1
    obtain ⟨_, exq⟩ := ihq ordered.2
    exact ⟨_, (exp.orElse [] two (fun first second => [first, second]) exq rfl fun _ _ => rfl).goOn⟩
  | times p low high _ ih =>
    obtain ⟨_, ex⟩ := ih ordered.2
    exact exists_explores_repeated ex (forward_spans text p) ordered.1

/-- The ends of a pattern from a set of starts are those of its spans. -/
theorem members_image (text : Array Char) {p : Pattern} (ordered : p.CountsOrdered) {s : Positions}
    (bound : s.members ⊆ Set.Iic text.size) : (image text p s).members = reach (Spans text p) s.members := by
  obtain ⟨_, ex⟩ := exists_explores_walk text ordered
  have reaches := ex.reaches ex.blank ((Set.empty_union _).trans_subset bound)
  rwa [reach_empty, Set.empty_union, Set.empty_union] at reaches

/-- A pattern is found in a text if it spans some part of it. -/
theorem isMatch_iff {p : Pattern} (ordered : p.CountsOrdered) (s : String) :
    p.isMatch s = true ↔ ∃ i ≤ s.toList.length, ∃ j, Spans s.toList.toArray p i j := by
  have ends := members_image s.toList.toArray ordered (Positions.members_upTo s.toList.toArray.size).subset
  rw [Positions.members_upTo, List.size_toArray] at ends
  rw [isMatch, decide_eq_true_iff, List.size_toArray, ne_eq, ← Positions.members_eq_empty_iff, ← ne_eq,
    ← Set.nonempty_iff_ne_empty, ends]
  constructor
  · rintro ⟨j, i, hi, h⟩
    exact ⟨i, hi, j, h⟩
  · rintro ⟨i, hi, j, h⟩
    exact ⟨j, i, hi, h⟩

/-- A pattern between the marks for the start and the end is found where it matches the whole text. -/
theorem isMatch_enclosed_iff {p : Pattern} (ordered : p.CountsOrdered) (s : String) :
    (seq (boundary .textStart) (seq (group none p) (boundary .textEnd))).isMatch s = true ↔ p.Matches s := by
  have ordered : (seq (boundary .textStart) (seq (group none p) (boundary .textEnd))).CountsOrdered :=
    ⟨trivial, ordered, trivial⟩
  rw [isMatch_iff ordered]
  simp only [Spans, Boundary.holds, beq_iff_eq, Matches, List.size_toArray]
  constructor
  · rintro ⟨i, -, j, _, ⟨rfl, rfl⟩, _, h, rfl, rfl⟩
    exact h
  · intro h
    exact ⟨0, Nat.zero_le _, _, _, ⟨rfl, rfl⟩, _, h, rfl, rfl⟩

end TypedWiki.Pattern
