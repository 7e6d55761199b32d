import TypedWiki.Proofs.Pattern.Exploring

/-!
# Rounds — the memories of counted repetitions

Each round of a counted repetition has a memory, which outlives the walk: it holds from where the round went on in
any of the walks so far.  A round goes on from where the one before it led, but leaves out what is an end already, for
which an earlier round has the same ways to go on.

* `Levels`: what the memories of the rounds stand for in the middle of a walk.
* `Levels.absorb`, `Levels.round`: a round that is walked.
* `Levels.between_eq`: when nothing is left to be walked, the ends are those of the repetition.
* `explores_rounds`: counted rounds explore the repetition.
-/

namespace TypedWiki.Pattern

/-- The members of some sets of a sequence, the last one left out. -/
def between (T : Nat → Set Nat) (a b : Nat) : Set Nat := {x | ∃ l, a ≤ l ∧ l < b ∧ x ∈ T l}

/-- What round `i` need not go on from once more: its own starts and, where they are ends, those of the rounds
before. -/
def covered (min : Nat) (T : Nat → Set Nat) (i : Nat) : Set Nat := T i ∪ between T min i

/-- Where a round starts: the first one from the starts of the repetition, a later one where the one before it leads. -/
def arrivals (R : Nat → Nat → Prop) (S : Set Nat) (T : Nat → Set Nat) : Nat → Set Nat
  | 0 => S
  | i + 1 => reach R (T i)

/-- The sets that memories of rounds stand for, from the starts `S` of a repetition: each round started from where
the one before it led, unless it was among the ends by then or is still to be walked from, as `ahead` says. -/
structure Levels (R : Nat → Nat → Prop) (Stands : Memory → Set Nat → Prop) (last min : Nat) (S : Set Nat)
    (memories : List Memory) (T ahead : Nat → Set Nat) : Prop where
  stands : ∀ i < last, Stands (memories.getD i .blank) (T i)
  sound : ∀ i, T i ∪ ahead i ⊆ reach (Rounds R i) S
  complete : ∀ i ≤ last, arrivals R S T i ⊆ covered min T i ∪ ahead i

/-- A single set of a sequence. -/
def only (k : Nat) (s : Set Nat) : Nat → Set Nat := Function.update (fun _ => ∅) k s

/-- A sequence of sets with more members in one of them. -/
def extend (T : Nat → Set Nat) (k : Nat) (s : Set Nat) : Nat → Set Nat := Function.update T k (T k ∪ s)

section Levels

variable {n last min k : Nat} {walk : Walk} {R : Nat → Nat → Prop} {Stands : Memory → Set Nat → Prop} {S : Set Nat}
  {memories memories' : List Memory} {T T' ahead ahead' : Nat → Set Nat} {s q : Set Nat}

@[simp] theorem only_self : only k s k = s := Function.update_self ..

theorem only_of_ne {i : Nat} (h : i ≠ k) : only k s i = ∅ := Function.update_of_ne h ..

theorem only_subset {i : Nat} (h : i = k → s ⊆ q) : only k s i ⊆ q := by
  by_cases hi : i = k
  · rw [hi, only_self]
    exact h hi
  · rw [only_of_ne hi]
    exact Set.empty_subset _

@[simp] theorem only_empty : only k ∅ = fun _ => ∅ := Function.update_eq_self k fun _ => ∅

@[simp] theorem extend_self : extend T k s k = T k ∪ s := Function.update_self ..

theorem extend_of_ne {i : Nat} (h : i ≠ k) : extend T k s i = T i := Function.update_of_ne h ..

theorem subset_extend (i : Nat) : T i ⊆ extend T k s i := by
  by_cases h : i = k
  · rw [h, extend_self]
    exact Set.subset_union_left
  · rw [extend_of_ne h]

theorem between_mono (h : ∀ i, T i ⊆ T' i) (a b : Nat) : between T a b ⊆ between T' a b := fun _ ⟨l, ha, hb, hx⟩ =>
  ⟨l, ha, hb, h l hx⟩

theorem covered_mono (h : ∀ i, T i ⊆ T' i) (i : Nat) : covered min T i ⊆ covered min T' i :=
  Set.union_subset_union (h i) (between_mono h _ _)

theorem between_extend {a b : Nat} (ha : a ≤ k) (hb : k < b) : between (extend T k s) a b = between T a b ∪ s := by
  apply Set.Subset.antisymm
  · rintro x ⟨l, hal, hlb, hx⟩
    by_cases h : l = k
    · subst h
      rw [extend_self] at hx
      exact hx.imp_left fun hx => ⟨l, hal, hlb, hx⟩
    · rw [extend_of_ne h] at hx
      exact .inl ⟨l, hal, hlb, hx⟩
  · refine Set.union_subset (between_mono subset_extend _ _) fun x hx => ⟨k, ha, hb, ?_⟩
    rw [extend_self]
    exact .inr hx

theorem between_extend_of_lt {a b : Nat} (ha : k < a) : between (extend T k s) a b = between T a b := by
  ext x
  refine exists_congr fun l => and_congr_right fun hal => ?_
  rw [extend_of_ne (by omega)]

/-- The memory of the next round is the first of those ahead. -/
theorem getD_append_self (made unmade : List Memory) :
    (made.reverse ++ unmade).getD made.length .blank = unmade.headD .blank := by
  cases unmade <;> simp [List.getD_eq_getElem?_getD]

/-- Walking a round changes its own memory and no other. -/
theorem getD_walked (made unmade : List Memory) (m : Memory) (i : Nat) :
    ((m :: made).reverse ++ unmade.tail).getD i .blank =
      if i = made.length then m else (made.reverse ++ unmade).getD i .blank := by
  simp only [List.getD_eq_getElem?_getD, List.reverse_cons, List.append_assoc]
  obtain lt | rfl | gt := Nat.lt_trichotomy i made.length
  · rw [if_neg lt.ne, List.getElem?_append_left (by simpa), List.getElem?_append_left (by simpa)]
  · simp
  · obtain ⟨d, rfl⟩ := Nat.exists_eq_add_of_lt gt
    have rest : made.length + d + 1 - made.length = d + 1 := by omega
    have past : made.reverse.length ≤ made.length + d + 1 := by
      rw [List.length_reverse]
      omega
    rw [if_neg (by omega), List.getElem?_append_right past, List.length_reverse, rest,
      List.getElem?_append_right past, List.length_reverse, rest]
    cases unmade <;> simp

namespace Levels

/-- Where nothing is ahead, a round leads to the starts of the next one or to ends. -/
theorem arrivals_subset (h : Levels R Stands last min S memories T fun _ => ∅) {i : Nat} (hi : i ≤ last) :
    arrivals R S T i ⊆ covered min T i :=
  (h.complete i hi).trans (Set.union_empty _).subset

/-- The starts that are new are ahead of the first round. -/
theorem start (h : Levels R Stands last min S memories T fun _ => ∅) :
    Levels R Stands last min (S ∪ s) memories T (only 0 s) where
  stands := h.stands
  sound i := by
    have old := (Set.subset_union_left.trans (h.sound i)).trans (reach_mono (Set.subset_union_left (t := s)))
    refine Set.union_subset old (only_subset ?_)
    rintro rfl x hx
    exact ⟨x, .inr hx, rfl⟩
  complete i hi := by
    have old := h.arrivals_subset hi
    cases i with
    | zero =>
      rw [only_self]
      exact Set.union_subset_union_left s old
    | succ i => exact old.trans Set.subset_union_left

/-- Starts among the ends can be left out. -/
theorem narrow (h : Levels R Stands last min S memories T ahead) (sub : ∀ i, ahead' i ⊆ ahead i)
    (left : ∀ i, ahead i ⊆ covered min T i ∪ ahead' i) : Levels R Stands last min S memories T ahead' where
  stands := h.stands
  sound i := (Set.union_subset_union_right _ (sub i)).trans (h.sound i)
  complete i hi := (h.complete i hi).trans (Set.union_subset Set.subset_union_left (left i))

/-- A round goes on from what was ahead, and what it gives is ahead of the next one. -/
theorem absorb (h : Levels R Stands last min S memories T (only k s))
    (stands : k < last → Stands (memories'.getD k .blank) (T k ∪ s))
    (others : ∀ i, i ≠ k → memories'.getD i .blank = memories.getD i .blank)
    (new : k < last → reach R (T k) ∪ q = reach R (T k ∪ s)) (sub : q ⊆ reach R (T k ∪ s)) :
    Levels R Stands last min S memories' (extend T k s) (only (k + 1) q) where
  stands i hi := by
    by_cases hk : i = k
    · subst hk
      rw [extend_self]
      exact stands hi
    · rw [extend_of_ne hk, others i hk]
      exact h.stands i hi
  sound i := by
    have here : T k ∪ s ⊆ reach (Rounds R k) S := by
      have := h.sound k
      rwa [only_self] at this
    apply Set.union_subset
    · by_cases hk : i = k
      · subst hk
        rw [extend_self]
        exact here
      · rw [extend_of_ne hk]
        exact Set.subset_union_left.trans (h.sound i)
    · refine only_subset ?_
      rintro rfl
      refine (sub.trans (reach_mono here)).trans ?_
      rintro j ⟨m, ⟨i, hi, hR⟩, hj⟩
      exact ⟨i, hi, rounds_add.2 ⟨m, hR, rounds_one.2 hj⟩⟩
  complete i hi := by
    -- what led to a round before leads there still, and what was ahead has become part of it
    have old : arrivals R S T i ⊆ covered min (extend T k s) i := by
      refine (h.complete i hi).trans (Set.union_subset (covered_mono subset_extend i) (only_subset ?_))
      rintro rfl
      rw [covered, extend_self]
      exact Set.subset_union_right.trans Set.subset_union_left
    cases i with
    | zero => exact old.trans Set.subset_union_left
    | succ i =>
      by_cases hk : i = k
      · subst hk
        rw [arrivals, extend_self, ← new hi, only_self]
        exact Set.union_subset_union_left q old
      · rw [arrivals, extend_of_ne hk]
        exact old.trans Set.subset_union_left

/-- Where nothing is ahead, a number of rounds from the starts leads to the starts of the next one or to ends. -/
theorem rounds_subset (h : Levels R Stands last min S memories T fun _ => ∅) {i : Nat} (hi : i ≤ last) :
    reach (Rounds R i) S ⊆ covered min T i := by
  induction i with
  | zero =>
    rintro j ⟨i, hS, rfl⟩
    exact h.arrivals_subset hi hS
  | succ i ih =>
    rintro j ⟨a, ha, hR⟩
    obtain ⟨m, hm, hj⟩ := rounds_add.1 hR
    have hj := rounds_one.1 hj
    obtain here | ⟨l, hmin, hl, hm⟩ := ih (by omega) ⟨a, ha, hm⟩
    · exact h.arrivals_subset hi ⟨m, here, hj⟩
    · have next : j ∈ arrivals R S T (l + 1) := ⟨m, hm, hj⟩
      obtain here | ⟨l', hmin', hl', hj⟩ := h.arrivals_subset (by omega) next
      · exact .inr ⟨l + 1, by omega, by omega, here⟩
      · exact .inr ⟨l', hmin', by omega, hj⟩

/-- Where nothing is ahead, the starts of the rounds from the least number on are the ends of the repetition. -/
theorem between_eq (h : Levels R Stands last min S memories T fun _ => ∅) :
    between T min (last + 1) = reach (Repeats R min (some last)) S := by
  apply Set.Subset.antisymm
  · rintro x ⟨l, hmin, hlast, hx⟩
    obtain ⟨i, hi, hR⟩ := h.sound l (.inl hx)
    exact ⟨i, hi, l, hmin, fun m hm => Option.mem_some.1 hm ▸ Nat.le_of_lt_succ hlast, hR⟩
  · rintro x ⟨i, hi, l, hmin, hmax, hR⟩
    have hlast := hmax last rfl
    obtain here | ⟨l', hmin', hl', hx⟩ := h.rounds_subset hlast ⟨i, hi, hR⟩
    · exact ⟨l, hmin, by omega, here⟩
    · exact ⟨l', hmin', by omega, hx⟩

/-- What is ahead of a round whose starts are ends need not hold what is an end already. -/
theorem leaveOut {s ends : Positions} (h : Levels R Stands last min S memories T (only k s.members))
    (hends : ends.members ⊆ between T min k) :
    Levels R Stands last min S memories T (only k (if min - k = 0 then s.diff ends else s).members) := by
  split
  · refine h.narrow (fun i => only_subset ?_) fun i => only_subset ?_
    · rintro rfl
      rw [only_self, Positions.members_diff]
      exact Set.sdiff_subset
    · rintro rfl
      rw [only_self, Positions.members_diff]
      intro x hx
      by_cases he : x ∈ ends.members
      · exact .inl (.inr (hends he))
      · exact .inr ⟨hx, he⟩
  · exact h

/-- A round that is walked. -/
theorem round (ex : Explores n .blank walk R Stands) (fwd : Forward n R) (hS : S ⊆ Set.Iic n)
    {made unmade : List Memory} {s : Positions}
    (h : Levels R Stands last min S (made.reverse ++ unmade) T (only made.length s.members))
    (hlast : made.length < last) :
    Levels R Stands last min S (((walk (unmade.headD .blank) s).2 :: made).reverse ++ unmade.tail)
      (extend T made.length s.members) (only (made.length + 1) (walk (unmade.headD .blank) s).1.members) := by
  have stands := h.stands _ hlast
  rw [getD_append_self] at stands
  have bound : T made.length ∪ s.members ⊆ Set.Iic n := by
    have := h.sound made.length
    rw [only_self] at this
    exact this.trans ((fwd.rounds _).reach_subset hS)
  have reaches := ex.reaches stands bound
  refine h.absorb (fun _ => ?_) (fun i hi => ?_) (fun _ => reaches) (reaches ▸ Set.subset_union_right)
  · rw [getD_walked, if_pos rfl]
    exact ex.keeps stands bound
  · rw [getD_walked, if_neg hi]

end Levels

/-- The ends after a round hold those before it, and what the round adds to the sets that count as ends. -/
theorem ends_of_round {s ends : Positions} (hends : ends.members ⊆ between T min k) (hlast : k < last) :
    let ends' := if min - k = 0 then ends ||| s else ends
    ends.members ⊆ ends'.members ∧ ends'.members ⊆ between (extend T k s.members) min (k + 1) ∧
      between (extend T k s.members) min (last + 1) ⊆ between T min (last + 1) ∪ ends'.members := by
  have grown : between T min k ⊆ between (extend T k s.members) min (k + 1) := fun x hx => by
    obtain ⟨l, hmin, hl, hx⟩ := between_mono subset_extend _ _ hx
    exact ⟨l, hmin, by omega, hx⟩
  by_cases counts : min ≤ k
  · simp only [Nat.sub_eq_zero_of_le counts, if_true, Positions.members_or]
    refine ⟨Set.subset_union_left, Set.union_subset (hends.trans grown) ?_, ?_⟩
    · rw [between_extend counts (by omega)]
      exact Set.subset_union_right
    · rw [between_extend counts (by omega)]
      exact Set.union_subset_union_right _ Set.subset_union_right
  · simp only [Nat.sub_eq_zero_iff_le, counts, if_false]
    refine ⟨Set.Subset.rfl, hends.trans grown, ?_⟩
    rw [between_extend_of_lt (by omega)]
    exact Set.subset_union_left

/-- Walking the rounds that are left absorbs all that is ahead; what is new from the least number on is given. -/
theorem levels_rounds (ex : Explores n .blank walk R Stands) (fwd : Forward n R) (hS : S ⊆ Set.Iic n)
    (hmin : min ≤ last) (rest : Nat) {made unmade : List Memory} {s ends : Positions}
    (hlast : made.length + rest = last)
    (h : Levels R Stands last min S (made.reverse ++ unmade) T (only made.length s.members))
    (hends : ends.members ⊆ between T min made.length) :
    let found := walk.rounds rest (min - made.length) unmade made s ends
    ends.members ⊆ found.1.members ∧ ∃ T', Levels R Stands last min S found.2 T' (fun _ => ∅) ∧
      between T' min (last + 1) = between T min (last + 1) ∪ found.1.members := by
  have within : ends.members ⊆ between T min (last + 1) := fun x hx => by
    obtain ⟨l, hmin, hl, hx⟩ := hends hx
    exact ⟨l, hmin, by omega, hx⟩
  induction rest generalizing made unmade s ends T with
  | zero =>
    obtain rfl : made.length = last := hlast
    have absorbed : Levels R Stands made.length min S (made.reverse ++ unmade) _ (only (made.length + 1) ∅) :=
      h.absorb (fun h => absurd h (lt_irrefl _)) (fun _ _ => rfl) (fun h => absurd h (lt_irrefl _)) (Set.empty_subset _)
    rw [only_empty] at absorbed
    refine ⟨?_, _, absorbed, ?_⟩
    · rw [Walk.rounds, Positions.members_or]
      exact Set.subset_union_left
    · rw [between_extend hmin (by omega), Walk.rounds, Positions.members_or, ← Set.union_assoc,
        Set.union_eq_self_of_subset_right within]
  | succ rest ih =>
    have h := h.leaveOut hends
    rw [Walk.rounds]
    generalize (if min - made.length = 0 then s.diff ends else s) = s at h ⊢
    split
    · rename_i none
      rw [none, Positions.members_zero, only_empty] at h
      exact ⟨Set.Subset.rfl, T, h, (Set.union_eq_self_of_subset_right within).symm⟩
    · have next := h.round ex fwd hS (by omega)
      obtain ⟨kept, counted, enough⟩ := ends_of_round (s := s) hends (show made.length < last by omega)
      generalize (if min - made.length = 0 then ends ||| s else ends) = ends' at kept counted enough ⊢
      have within' : ends'.members ⊆ between (extend T made.length s.members) min (last + 1) := fun x hx => by
        obtain ⟨l, hmin, hl, hx⟩ := counted hx
        exact ⟨l, hmin, by omega, hx⟩
      obtain ⟨found, T', levels, eq⟩ := ih (by rw [List.length_cons]; omega) next counted within'
      refine ⟨kept.trans found, T', levels, eq.trans (Set.Subset.antisymm ?_ ?_)⟩
      · refine Set.union_subset (enough.trans ?_) Set.subset_union_right
        exact Set.union_subset_union_right _ found
      · exact Set.union_subset_union_left _ (between_mono subset_extend _ _)

/-- Counted rounds explore the repetition. -/
theorem explores_rounds (ex : Explores n .blank walk R Stands) (fwd : Forward n R) (hmin : min ≤ last) :
    Explores n [] (fun memories s => walk.rounds last min memories [] s 0) (Repeats R min (some last))
      fun memories S => ∃ T, Levels R Stands last min S memories T fun _ => ∅ := by
  have levels : ∀ {memories : List Memory} {S : Set Nat} {s : Positions} {T : Nat → Set Nat},
      Levels R Stands last min S memories T (fun _ => ∅) → S ∪ s.members ⊆ Set.Iic n →
      ∃ T', Levels R Stands last min (S ∪ s.members) (walk.rounds last min memories [] s 0).2 T' (fun _ => ∅) ∧
        between T' min (last + 1) = between T min (last + 1) ∪ (walk.rounds last min memories [] s 0).1.members := by
    intro memories S s T h bound
    have started : Levels R Stands last min (S ∪ s.members) (([] : List Memory).reverse ++ memories) T _ := h.start
    have none : (0 : Positions).members ⊆ between T min ([] : List Memory).length := by
      rw [Positions.members_zero]
      exact Set.empty_subset _
    exact (levels_rounds ex fwd bound hmin last (Nat.zero_add _) started none).2
  refine ⟨⟨fun _ => ∅, fun _ _ => ex.blank, ?_, ?_⟩, ?_, ?_⟩
  · exact fun i => (Set.union_empty _).subset.trans (Set.empty_subset _)
  · rintro (_ | i) -
    · exact Set.empty_subset _
    · exact reach_empty.subset.trans (Set.empty_subset _)
  · rintro memories S s ⟨T, h⟩ bound
    obtain ⟨T', h', -⟩ := levels h bound
    exact ⟨T', h'⟩
  · rintro memories S s ⟨T, h⟩ bound
    obtain ⟨T', h', eq⟩ := levels h bound
    rw [← h.between_eq, ← h'.between_eq, eq]

end Levels

end TypedWiki.Pattern
