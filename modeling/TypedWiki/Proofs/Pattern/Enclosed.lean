import TypedWiki.Proofs.Pattern.Spans
import TypedWiki.Proofs.Pattern.Token

/-!
# Enclosed patterns — a pattern put as text between the marks for start and end

What is a pattern by itself is the same pattern within a group, since the group is closed by the first parenthesis
that it leaves open.  It does not go the other way: a text that is no pattern by itself can close the group around it.

* `agree_readAlternatives`: alternatives are read in both a text and the text that goes on with the closing.
* `countsOrdered_of_parse`: the bounds of what is read are in order.
* `parseAnchored_eq`: a pattern that is one by itself is read as itself between the marks.
-/

namespace TypedWiki.Pattern

variable {flags : Flags}

/-- Alternatives are read in both. -/
theorem agree_readAlternatives {n n' : Nat} (captures : Captures) (done : List Pattern) (items : List Item)
    (hn : n ≤ n') :
    Agree (readAlternatives n flags captures done items) (readAlternatives n' flags captures done items) := by
  induction n generalizing n' flags captures done items with
  | zero => exact .error _
  | succ n ih =>
    obtain _ | n' := n'
    · cases hn
    have hn := Nat.le_of_succ_le_succ hn
    intro cs cs' found r hf hr
    rw [readAlternatives_succ] at hr ⊢
    cases htoken : readToken flags captures cs with
    | error e =>
      rw [htoken] at hr
      cases hr
    | ok read =>
      obtain ⟨token, t⟩ := read
      obtain ⟨t', htoken', hf⟩ := steady_readToken captures hf htoken
      rw [htoken] at hr
      rw [htoken']
      cases token with
      | stop =>
        cases hr
        exact ⟨_, rfl, hf⟩
      | bar => exact ih _ _ _ hn hf hr
      | counted min max greedy =>
        simp only at hr ⊢
        cases hitems : repeatLast items min max greedy with
        | error e =>
          rw [hitems] at hr
          cases hr
        | ok items =>
          rw [hitems] at hr
          exact ih _ _ _ hn hf hr
      | part p => exact ih _ _ _ hn hf hr
      | directive inner => exact ih _ _ _ hn hf hr
      | opening number inner captures =>
        simp only at hr ⊢
        cases hinner : readAlternatives n inner captures [] [] t with
        | error e =>
          rw [hinner] at hr
          cases hr
        | ok group =>
          obtain ⟨⟨p, captures⟩, u⟩ := group
          obtain ⟨u', hinner', hf⟩ := ih _ _ _ hn hf hinner
          rw [hinner] at hr
          rw [hinner']
          cases hf with
          | taken => cases hr
          | closed => cases hr
          | cons c hf =>
            by_cases close : c = ')'
            · subst close
              exact ih _ _ _ hn hf hr
            · simp only [Prod.mk.injEq, List.cons.injEq, close, false_and, and_false, imp_self, implies_true] at hr
              cases hr

/-! ### The bounds of repetitions -/

/-- The bounds of a token are in order. -/
def Token.BoundsOrdered : Token → Prop
  | .counted min max _ => ∀ m ∈ max, min ≤ m
  | .part p => p.CountsOrdered
  | _ => True

theorem boundsOrdered_readCount {cs r : List Char} {min : Nat} {max : Option Nat}
    (h : readCount flags cs = .ok ((min, max), r)) : ∀ m ∈ max, min ≤ m := by
  simp only [readCount] at h
  cases hlow : readCountNumber flags (skipBlanks flags cs) with
  | error e =>
    rw [hlow] at h
    cases h
  | ok low =>
    rw [hlow] at h
    simp only [bind, Except.bind] at h
    split at h
    · cases h
      rintro _ ⟨⟩
      exact Nat.le_refl _
    · split at h
      · cases h
        rintro _ ⟨⟩
      · split at h
        · cases h
        · split at h
          · split at h
            · rename_i ordered
              cases h
              rintro _ ⟨⟩
              exact ordered
            · cases h
          · cases h
    · cases h

theorem boundsOrdered_readToken {captures : Captures} {cs r : List Char} {token : Token}
    (h : readToken flags captures cs = .ok (token, r)) : token.BoundsOrdered := by
  simp only [readToken] at h
  generalize skipBlanks flags cs = u at h
  split at h
  · cases h
    trivial
  · cases h
    trivial
  · cases h
    trivial
  · cases h
    rintro _ ⟨⟩
    exact Nat.zero_le 1
  · cases h
    rintro _ ⟨⟩
  · cases h
    rintro _ ⟨⟩
  · obtain ⟨bounds, hcount, h⟩ := exists_of_bind h
    cases h
    exact boundsOrdered_readCount hcount
  · obtain ⟨found, -, h⟩ := exists_of_map h
    cases h
    trivial
  · obtain ⟨⟨atom, t⟩, -, h⟩ := exists_of_map h
    cases h
    cases atom <;> trivial
  · split at h
    · cases h
    · cases h
      trivial
  · cases h
    trivial
  · cases h
    trivial
  · obtain ⟨⟨start, t⟩, -, h⟩ := exists_of_bind h
    obtain ⟨token, htoken, h⟩ := exists_of_bind h
    cases h
    cases start with
    | directive inner =>
      cases htoken
      trivial
    | plain inner =>
      cases htoken
      trivial
    | capture name =>
      simp only [GroupStart.token] at htoken
      split at htoken
      · cases htoken
      · cases htoken
        trivial
  · cases h
    trivial

theorem countsOrdered_sequence {ps : List Pattern} (h : ∀ p ∈ ps, p.CountsOrdered) : (sequence ps).CountsOrdered := by
  induction ps with
  | nil => trivial
  | cons p ps ih =>
    have ih := ih fun q hq => h q (List.mem_cons_of_mem p hq)
    have hp := h p List.mem_cons_self
    cases ps with
    | nil => exact hp
    | cons q ps => exact ⟨hp, ih⟩

theorem countsOrdered_choice {ps : List Pattern} (h : ∀ p ∈ ps, p.CountsOrdered) : (choice ps).CountsOrdered := by
  induction ps with
  | nil => trivial
  | cons p ps ih =>
    have ih := ih fun q hq => h q (List.mem_cons_of_mem p hq)
    have hp := h p List.mem_cons_self
    cases ps with
    | nil => exact hp
    | cons q ps => exact ⟨hp, ih⟩

theorem countsOrdered_items {items : List Item} (h : ∀ item ∈ items, item.pattern.CountsOrdered) :
    (Item.sequence items).CountsOrdered := by
  refine countsOrdered_sequence fun p hp => ?_
  obtain ⟨item, hitem, rfl⟩ := List.mem_map.1 hp
  exact h item (List.mem_reverse.1 hitem)

theorem countsOrdered_cons (item : Item) {items : List Item} (h : item.pattern.CountsOrdered)
    (hitems : ∀ item ∈ items, item.pattern.CountsOrdered) : ∀ i ∈ item :: items, i.pattern.CountsOrdered :=
  List.forall_mem_cons.2 ⟨h, hitems⟩

/-- Reading keeps the bounds of repetitions in order. -/
theorem countsOrdered_readAlternatives {n : Nat} {captures captures' : Captures} {done : List Pattern}
    {items : List Item} {cs r : List Char} {p : Pattern} (hdone : ∀ p ∈ done, p.CountsOrdered)
    (hitems : ∀ item ∈ items, item.pattern.CountsOrdered)
    (h : readAlternatives n flags captures done items cs = .ok ((p, captures'), r)) : p.CountsOrdered := by
  have hend : ∀ {done : List Pattern} {items : List Item}, (∀ p ∈ done, p.CountsOrdered) →
      (∀ item ∈ items, item.pattern.CountsOrdered) → ∀ p ∈ Item.sequence items :: done, p.CountsOrdered :=
    fun hdone hitems => List.forall_mem_cons.2 ⟨countsOrdered_items hitems, hdone⟩
  induction n generalizing flags captures captures' done items cs r p with
  | zero => cases h
  | succ n ih =>
    rw [readAlternatives_succ] at h
    cases htoken : readToken flags captures cs with
    | error e =>
      rw [htoken] at h
      cases h
    | ok read =>
      obtain ⟨token, t⟩ := read
      have ordered := boundsOrdered_readToken htoken
      rw [htoken] at h
      cases token with
      | stop =>
        cases h
        exact countsOrdered_choice fun p hp => hend hdone hitems p (List.mem_reverse.1 hp)
      | bar => exact ih (hend hdone hitems) (List.forall_mem_nil _) h
      | counted min max greedy =>
        cases items with
        | nil => cases h
        | cons item items =>
          cases item with
          | directive => cases h
          | part q =>
            have hitems := List.forall_mem_cons.1 hitems
            exact ih hdone (countsOrdered_cons (.part (.times q min max greedy)) ⟨ordered, hitems.1⟩ hitems.2) h
      | part q => exact ih hdone (countsOrdered_cons (.part q) ordered hitems) h
      | directive inner => exact ih hdone (countsOrdered_cons .directive trivial hitems) h
      | opening number inner captures =>
        simp only at h
        split at h
        · cases h
        · rename_i hinner
          have hq := ih (List.forall_mem_nil _) (List.forall_mem_nil _) hinner
          exact ih hdone (countsOrdered_cons (.part (.group number _)) hq hitems) h
        · cases h

/-- What a whole text is read as leaves nothing to be read. -/
theorem readAlternatives_of_parse {cs : List Char} {p : Pattern} (h : parse cs = .ok p) :
    ∃ captures, readAlternatives (cs.length + 1) {} [] [] [] cs = .ok ((p, captures), []) := by
  rw [parse] at h
  split at h
  · rename_i hread
    split at h
    · cases h
    · split at h
      · cases h
        exact ⟨_, hread⟩
      · cases h
  · cases h
  · cases h

/-- A pattern that is read has the bounds of its repetitions in order. -/
theorem countsOrdered_of_parse {cs : List Char} {p : Pattern} (h : parse cs = .ok p) : p.CountsOrdered := by
  obtain ⟨captures, hread⟩ := readAlternatives_of_parse h
  exact countsOrdered_readAlternatives (List.forall_mem_nil _) (List.forall_mem_nil _) hread

/-! ### Between the marks -/

/-- A pattern that is one by itself is read as itself between the marks for start and end. -/
theorem parseAnchored_eq {source : String} {p q : Pattern} (h : parse source.toList = .ok p)
    (enclosed : parseAnchored source = .ok q) :
    q = seq (boundary .textStart) (seq (group none p) (boundary .textEnd)) := by
  obtain ⟨captures, hread⟩ := readAlternatives_of_parse h
  obtain ⟨captures', hread'⟩ := readAlternatives_of_parse enclosed
  have marks : "^(?:".toList ++ source.toList ++ ")$".toList =
      '^' :: '(' :: '?' :: ':' :: (source.toList ++ closing) := by
    simp [closing]
  have start : ∀ r, readToken {} [] ('^' :: r) = .ok (.part (.boundary .textStart), r) := fun r => rfl
  have opening : ∀ r, readToken {} [] ('(' :: '?' :: ':' :: r) = .ok (.opening none {} [], r) := fun r => rfl
  rw [marks] at hread'
  simp only [List.length_cons] at hread'
  rw [readAlternatives_succ, start] at hread'
  simp only at hread'
  rw [readAlternatives_succ, opening] at hread'
  simp only at hread'
  -- within the group, the pattern is read as it is by itself
  have fuel : source.toList.length + 1 ≤ (source.toList ++ closing).length + 1 + 1 + 1 := by
    rw [List.length_append]
    omega
  obtain ⟨r, hinner, hf⟩ := agree_readAlternatives [] [] [] fuel (.append_closing _) hread
  rw [hinner] at hread'
  cases hf with
  | taken => cases hread'
  | closed =>
    cases hread'
    rfl

end TypedWiki.Pattern
