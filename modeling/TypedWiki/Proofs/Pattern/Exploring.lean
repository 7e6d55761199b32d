import TypedWiki.Proofs.Pattern.Spans

/-!
# Exploring — walks that do not go the same way twice

A walk is not told twice where a match can start, so that it has no need to give the same end twice.  What it gives
is therefore compared with all starts that it was told so far: together with the ends given before, they are the ends
of matches from any of them.

* `reach`: where a relation leads from a set.
* `Explores`: a memory stands for the starts so far, and a walk adds to the ends what the new starts add to them.
* `Explores.goOn`: what was tried is not tried again.
* `Explores.andThen`, `Explores.orElse`: parts one after the other and side by side.
-/

namespace TypedWiki.Pattern

/-! ### Sets of positions -/

/-- The members of a set of positions. -/
def Positions.members (s : Positions) : Set Nat := {i | s.testBit i = true}

namespace Positions

variable {s t : Positions} {n i : Nat}

theorem mem_members : i ∈ s.members ↔ s.testBit i = true := Iff.rfl

@[simp] theorem members_zero : members 0 = ∅ := by
  ext i
  simp [mem_members]

theorem members_eq_empty_iff : s.members = ∅ ↔ s = 0 := by
  refine ⟨fun h => Nat.eq_of_testBit_eq fun i => ?_, fun h => h ▸ members_zero⟩
  have : i ∉ s.members := h ▸ Set.notMem_empty i
  simpa [mem_members] using this

@[simp] theorem members_or (s t : Positions) : members (s ||| t) = s.members ∪ t.members := by
  ext i
  simp [mem_members, Nat.testBit_or]

@[simp] theorem members_diff (s t : Positions) : (s.diff t).members = s.members \ t.members := by
  ext i
  simp [mem_members, testBit_diff]

@[simp] theorem members_upTo (n : Nat) : (upTo n).members = Set.Iic n := by
  ext i
  simp [mem_members, testBit_upTo]

theorem mem_members_filter_iff {f : Nat → Bool} (bound : s.members ⊆ Set.Iic n) :
    i ∈ (filter n f s).members ↔ i ∈ s.members ∧ f i = true := by
  by_cases hi : i ≤ n
  · rw [mem_members, testBit_filter n f s hi, Bool.and_eq_true, mem_members]
  · have out : s.testBit i ≠ true := fun h => hi (bound h)
    simp [mem_members, filter, testBit_pick, out]

end Positions

/-- Where a relation leads from a set. -/
def reach (R : Nat → Nat → Prop) (S : Set Nat) : Set Nat := {j | ∃ i ∈ S, R i j}

section Reach

variable {R Q : Nat → Nat → Prop} {S S' : Set Nat} {n : Nat}

theorem reach_mono (h : S ⊆ S') : reach R S ⊆ reach R S' := fun _ ⟨i, hi, hR⟩ => ⟨i, h hi, hR⟩

@[simp] theorem reach_empty : reach R ∅ = ∅ := by
  ext j
  simp [reach]

theorem reach_union : reach R (S ∪ S') = reach R S ∪ reach R S' := by
  ext j
  simp only [reach, Set.mem_union, Set.mem_ofPred_eq, or_and_right, exists_or]

theorem reach_congr (h : ∀ i ∈ S, ∀ j, R i j ↔ Q i j) : reach R S = reach Q S := by
  ext j
  exact exists_congr fun i => and_congr_right fun hi => h i hi j

theorem reach_reach : reach Q (reach R S) = reach (fun i j => ∃ k, R i k ∧ Q k j) S := by
  ext j
  constructor
  · rintro ⟨k, ⟨i, hi, hR⟩, hQ⟩
    exact ⟨i, hi, k, hR, hQ⟩
  · rintro ⟨i, hi, k, hR, hQ⟩
    exact ⟨k, ⟨i, hi, hR⟩, hQ⟩

theorem reach_or : reach (fun i j => R i j ∨ Q i j) S = reach R S ∪ reach Q S := by
  ext j
  simp only [reach, Set.mem_union, Set.mem_ofPred_eq, and_or_left, exists_or]

theorem Forward.reach_subset (fwd : Forward n R) (h : S ⊆ Set.Iic n) : reach R S ⊆ Set.Iic n := by
  rintro j ⟨i, hi, hR⟩
  exact (fwd (h hi) hR).2

/-- Where all steps from a set and what was found lead to what was found, nothing else is reached. -/
theorem reach_transGen_subset (h : reach R (S ∪ S') ⊆ S') : reach (Relation.TransGen R) S ⊆ S' := by
  rintro j ⟨i, hi, hR⟩
  induction hR with
  | single hR => exact h ⟨i, .inl hi, hR⟩
  | tail _ hR ih => exact h ⟨_, .inr ih, hR⟩

/-- Another step does not lead out of what many lead to. -/
theorem reach_reach_transGen :
    reach R (S ∪ reach (Relation.TransGen R) S) ⊆ reach (Relation.TransGen R) S := by
  rintro j ⟨k, hk | ⟨i, hi, hR⟩, hj⟩
  · exact ⟨k, hk, .single hj⟩
  · exact ⟨i, hi, hR.tail hj⟩

end Reach

/-! ### Exploring -/

/-- A walk explores a relation in a text of length `n`: where a memory stands for the starts so far, it stands for
them and the new ones afterwards, and the ends that are given are what these add to the ends. -/
structure Explores {α : Type} (n : Nat) (blank : α) (walk : α → Positions → Positions × α) (R : Nat → Nat → Prop)
    (Stands : α → Set Nat → Prop) : Prop where
  blank : Stands blank ∅
  keeps : ∀ {m S s}, Stands m S → S ∪ s.members ⊆ Set.Iic n → Stands (walk m s).2 (S ∪ s.members)
  reaches : ∀ {m S s}, Stands m S → S ∪ s.members ⊆ Set.Iic n →
    reach R S ∪ (walk m s).1.members = reach R (S ∪ s.members)

section Explores

variable {α : Type} {n : Nat} {blank : α} {walk : α → Positions → Positions × α} {R Q : Nat → Nat → Prop}
  {Stands : α → Set Nat → Prop}

theorem Explores.congr (ex : Explores n blank walk R Stands) (h : ∀ i ≤ n, ∀ j, R i j ↔ Q i j) :
    Explores n blank walk Q Stands where
  blank := ex.blank
  keeps := ex.keeps
  reaches hm bound := by
    have bound' := Set.union_subset_iff.1 bound
    rw [← reach_congr fun i hi => h i (bound'.1 hi), ← reach_congr fun i hi => h i (bound hi)]
    exact ex.reaches hm bound

/-- Going on from the new starts only explores what the parts explore. -/
theorem Explores.goOn {walk : List Memory → Positions → Positions × List Memory} {Stands : List Memory → Set Nat → Prop}
    (ex : Explores n [] walk R Stands) :
    Explores n Memory.blank (fun m s => m.goOn s (walk m.parts)) R fun m S =>
      m.seen.members = S ∧ Stands m.parts S := by
  have new : ∀ (m : Memory) (s : Positions), m.seen.members ∪ (s.diff m.seen).members = m.seen.members ∪ s.members := by
    intro m s
    rw [Positions.members_diff, Set.union_sdiff_self]
  refine ⟨⟨Positions.members_zero, ex.blank⟩, ?_, ?_⟩
  · rintro m _ s ⟨rfl, hm⟩ bound
    rw [← new] at bound ⊢
    rw [Memory.goOn]
    split
    · rename_i none
      rw [none, Positions.members_zero, Set.union_empty]
      exact ⟨rfl, hm⟩
    · exact ⟨Positions.members_or _ _, ex.keeps hm bound⟩
  · rintro m _ s ⟨rfl, hm⟩ bound
    rw [← new] at bound ⊢
    rw [Memory.goOn]
    split
    · rename_i none
      rw [none, Positions.members_zero, Set.union_empty, Set.union_empty]
    · exact ex.reaches hm bound

/-- A part without parts of its own explores where it leads from the new starts. -/
theorem explores_leaf {ends : Positions → Positions}
    (h : ∀ s : Positions, s.members ⊆ Set.Iic n → (ends s).members = reach R s.members) :
    Explores n [] (fun _ s => (ends s, ([] : List Memory))) R fun _ _ => True where
  blank := trivial
  keeps _ _ := trivial
  reaches _ bound := by rw [reach_union, h _ (Set.union_subset_iff.1 bound).2]

/-- Standing still is one more way to go. -/
theorem Explores.orStand (ex : Explores n blank walk R Stands) :
    Explores n blank (fun m s => (s ||| (walk m s).1, (walk m s).2)) (fun i j => i = j ∨ R i j) Stands where
  blank := ex.blank
  keeps := ex.keeps
  reaches hm bound := by
    have stand : ∀ S : Set Nat, reach Eq S = S := fun S => by
      ext j
      simp [reach]
    rw [reach_or, reach_or, stand, stand, Positions.members_or, ← ex.reaches hm bound, Set.union_union_union_comm]

section Parts

variable {β γ : Type} {blank' : β} {walk' : β → Positions → Positions × β} {Stands' : β → Set Nat → Prop}
  (empty : γ) (split : γ → α × β) (join : α → β → γ)

/-- Two parts that are walked one after the other. -/
theorem Explores.andThen (ex : Explores n blank walk R Stands) (ex' : Explores n blank' walk' Q Stands')
    (fwd : Forward n R) (split_empty : split empty = (blank, blank')) (split_join : ∀ a b, split (join a b) = (a, b)) :
    Explores n empty
      (fun m s =>
        let (middle, first) := walk (split m).1 s
        let (ends, second) := walk' (split m).2 middle
        (ends, join first second))
      (fun i j => ∃ k, R i k ∧ Q k j) fun m S => Stands (split m).1 S ∧ Stands' (split m).2 (reach R S) := by
  have bound' : ∀ {m : γ} {S : Set Nat} {s : Positions}, Stands (split m).1 S → S ∪ s.members ⊆ Set.Iic n →
      reach R S ∪ (walk (split m).1 s).1.members ⊆ Set.Iic n := by
    intro m S s hm bound
    rw [ex.reaches hm bound]
    exact fwd.reach_subset bound
  refine ⟨?_, ?_, ?_⟩
  · rw [split_empty, reach_empty]
    exact ⟨ex.blank, ex'.blank⟩
  · rintro m S s ⟨hm, hm'⟩ bound
    rw [split_join, ← ex.reaches hm bound]
    exact ⟨ex.keeps hm bound, ex'.keeps hm' (bound' hm bound)⟩
  · rintro m S s ⟨hm, hm'⟩ bound
    rw [← reach_reach, ← reach_reach, ← ex.reaches hm bound]
    exact ex'.reaches hm' (bound' hm bound)

/-- Two parts that are walked side by side. -/
theorem Explores.orElse (ex : Explores n blank walk R Stands) (ex' : Explores n blank' walk' Q Stands')
    (split_empty : split empty = (blank, blank')) (split_join : ∀ a b, split (join a b) = (a, b)) :
    Explores n empty
      (fun m s =>
        let (ends, first) := walk (split m).1 s
        let (ends', second) := walk' (split m).2 s
        (ends ||| ends', join first second))
      (fun i j => R i j ∨ Q i j) fun m S => Stands (split m).1 S ∧ Stands' (split m).2 S := by
  refine ⟨?_, ?_, ?_⟩
  · rw [split_empty]
    exact ⟨ex.blank, ex'.blank⟩
  · rintro m S s ⟨hm, hm'⟩ bound
    rw [split_join]
    exact ⟨ex.keeps hm bound, ex'.keeps hm' bound⟩
  · rintro m S s ⟨hm, hm'⟩ bound
    rw [reach_or, reach_or, Positions.members_or, Set.union_union_union_comm, ex.reaches hm bound,
      ex'.reaches hm' bound]

end Parts

end Explores

end TypedWiki.Pattern
