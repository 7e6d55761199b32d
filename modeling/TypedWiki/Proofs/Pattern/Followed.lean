import TypedWiki.Pattern.Parser

/-!
# Reading ahead — a pattern with a closing parenthesis after it

A reader that finds what it looks for finds the same when the text goes on after its end with a closing parenthesis:
nothing that can be read starts with it, and nothing but a comment, a class or a name between braces can hold it.  A
comment at the end takes what follows it.

* `Followed`: a text and the same text with the closing after it, unless the closing was taken by a comment.
* `Agree`: what one reader finds, the other finds in the text that goes on; `Agree.bind` and `Agree.map` for readers
  one after the other.
* `IsScan.followed`: a scan over characters of one kind ends at the same place in both.
-/

namespace TypedWiki.Pattern

/-- The text after an enclosed pattern. -/
def closing : List Char := [')', '$']

/-- A text and one that goes on with the closing.  Where the rest of the text was a comment, the closing is gone. -/
inductive Followed : List Char → List Char → Prop
  | taken : Followed [] []
  | closed : Followed [] closing
  | cons (c : Char) {r r' : List Char} : Followed r r' → Followed (c :: r) (c :: r')

namespace Followed

variable {c : Char} {cs cs' : List Char}

theorem append_closing (cs : List Char) : Followed cs (cs ++ closing) := by
  induction cs with
  | nil => exact closed
  | cons c cs ih => exact ih.cons c

theorem of_cons {r : List Char} (h : Followed (c :: r) cs') : ∃ r', cs' = c :: r' ∧ Followed r r' := by
  cases h with
  | cons _ h => exact ⟨_, rfl, h⟩

theorem length_le (h : Followed cs cs') : cs.length ≤ cs'.length := by
  induction h with
  | taken => exact Nat.le_refl _
  | closed => exact Nat.zero_le _
  | cons c _ ih => exact Nat.succ_le_succ ih

/-- What is next is next in both, if it is not the end. -/
theorem head?_eq_some_iff (h : Followed cs cs') (hc : c ≠ ')') : cs'.head? = some c ↔ cs.head? = some c := by
  cases h with
  | taken => exact Iff.rfl
  | closed => simp [closing, Ne.symm hc]
  | cons c _ => exact Iff.rfl

/-- Blanks are skipped in both. -/
theorem skipBlanks (flags : Flags) (h : Followed cs cs') :
    Followed (skipBlanks flags cs) (skipBlanks flags cs') := by
  have go : ∀ comment, Followed (skipBlanks.go comment cs) (skipBlanks.go comment cs') := by
    induction h with
    | taken =>
      rintro (_ | _)
      · exact taken
      · exact taken
    | closed =>
      -- outside a comment the parenthesis is no blank, inside it is skipped
      rintro (_ | _)
      · exact closed
      · exact taken
    | cons c h ih =>
      rintro (_ | _)
      · simp only [skipBlanks.go]
        split
        · exact ih false
        · split
          · exact ih true
          · exact h.cons c
      · exact ih _
  rw [Pattern.skipBlanks, Pattern.skipBlanks]
  split
  · exact go false
  · exact h

/-- After blanks, either the text ends or both go on with the same character. -/
theorem next (flags : Flags) (h : Followed cs cs') :
    Pattern.skipBlanks flags cs = [] ∨ ∃ c r r', Pattern.skipBlanks flags cs = c :: r ∧
      Pattern.skipBlanks flags cs' = c :: r' ∧ Followed r r' := by
  have h := h.skipBlanks flags
  generalize Pattern.skipBlanks flags cs = t at h
  generalize Pattern.skipBlanks flags cs' = t' at h
  cases h with
  | taken => exact .inl rfl
  | closed => exact .inl rfl
  | cons c h => exact .inr ⟨c, _, _, rfl, rfl, h⟩

/-- White space is skipped in both. -/
theorem dropWhile_isSpace (h : Followed cs cs') :
    Followed (cs.dropWhile Text.isSpace) (cs'.dropWhile Text.isSpace) := by
  induction h with
  | taken => exact taken
  | closed => exact closed
  | cons c h ih =>
    simp only [List.dropWhile_cons]
    split
    · exact ih
    · exact h.cons c

end Followed

/-! ### Readers that agree -/

section Found

variable {α β : Type} {x : Except Fault α} {b : β}

theorem exists_of_bind {f : α → Except Fault β} (h : x >>= f = .ok b) : ∃ a, x = .ok a ∧ f a = .ok b := by
  cases x with
  | error e => cases h
  | ok a => exact ⟨a, rfl, h⟩

theorem exists_of_map {f : α → β} (h : x.map f = .ok b) : ∃ a, x = .ok a ∧ f a = b := by
  cases x with
  | error e => cases h
  | ok a =>
    cases h
    exact ⟨a, rfl, rfl⟩

end Found

/-- What the first reader finds in a text, the second one finds in it when it goes on with the closing. -/
def Agree {α : Type} (read read' : List Char → Except Fault (Read α)) : Prop :=
  ∀ ⦃cs cs' : List Char⦄ ⦃a : α⦄ ⦃r : List Char⦄, Followed cs cs' → read cs = .ok (a, r) →
    ∃ r', read' cs' = .ok (a, r') ∧ Followed r r'

/-- A reader that agrees with itself. -/
abbrev Steady {α : Type} (read : List Char → Except Fault (Read α)) : Prop := Agree read read

namespace Agree

variable {α β : Type} {read read' : List Char → Except Fault (Read α)} {c : Char}

/-- A reader that finds nothing agrees with any. -/
theorem error (e : Fault) : Agree (fun _ => .error e) read' := fun _ _ _ _ _ h => by cases h

/-- Taking nothing more finds the same. -/
theorem ok (a : α) : Steady fun cs => .ok (a, cs) := by
  rintro cs cs' _ _ h ⟨⟩
  exact ⟨cs', rfl, h⟩

/-- Skipping blanks before reading. -/
theorem skip (flags : Flags) (h : Agree read read') :
    Agree (fun cs => read (skipBlanks flags cs)) (fun cs => read' (skipBlanks flags cs)) :=
  fun _ _ _ _ hf hr => h (hf.skipBlanks flags) hr

/-- Reading on after what was found. -/
theorem bind {next next' : Read α → Except Fault (Read β)} (h : Agree read read')
    (hn : ∀ a, Agree (fun r => next (a, r)) (fun r => next' (a, r))) :
    Agree (fun cs => read cs >>= next) (fun cs => read' cs >>= next') := by
  intro cs cs' b r hf hr
  obtain ⟨⟨a, rest⟩, found, hr⟩ := exists_of_bind hr
  obtain ⟨rest', found', hf⟩ := h hf found
  obtain ⟨r', hr', hf⟩ := hn a hf hr
  dsimp only
  rw [found']
  exact ⟨r', hr', hf⟩

/-- Making something else of what was found. -/
theorem map (f : α → β) (h : Agree read read') :
    Agree (fun cs => (read cs).map fun (a, r) => (f a, r)) (fun cs => (read' cs).map fun (a, r) => (f a, r)) := by
  intro cs cs' b r hf hr
  obtain ⟨⟨a, rest⟩, found, hr⟩ := exists_of_map hr
  obtain ⟨rest', found', hf⟩ := h hf found
  cases hr
  dsimp only
  rw [found']
  exact ⟨rest', rfl, hf⟩

end Agree

/-! ### Scans -/

/-- A scan takes characters from the start of a text as long as they are of a kind, with blanks between them skipped. -/
structure IsScan {α : Type} (flags : Flags) (takes : Char → Bool) (nil : α) (cons : Char → α → α)
    (scan : Nat → List Char → α × List Char) : Prop where
  stop : ∀ n cs, (∀ c ∈ cs.head?, takes c = false) → scan n cs = (nil, cs)
  step : ∀ n c r, takes c = true →
    scan (n + 1) (c :: r) =
      (cons c (scan n (skipBlanks flags r)).1, (scan n (skipBlanks flags r)).2)

theorem length_skipBlanks_le (flags : Flags) (cs : List Char) : (skipBlanks flags cs).length ≤ cs.length := by
  have go : ∀ comment, (skipBlanks.go comment cs).length ≤ cs.length := by
    induction cs with
    | nil =>
      rintro (_ | _)
      · exact Nat.le_refl 0
      · exact Nat.le_refl 0
    | cons c cs ih =>
      have ih := fun comment => Nat.le_succ_of_le (ih comment)
      rintro (_ | _)
      · simp only [skipBlanks.go]
        split
        · exact ih _
        · split
          · exact ih _
          · exact Nat.le_refl _
      · exact ih _
  rw [skipBlanks]
  split
  · exact go false
  · exact Nat.le_refl _

/-- Both scans take the same if the text is not too long for them. -/
theorem IsScan.followed {α : Type} {flags : Flags} {takes : Char → Bool} {nil : α} {cons : Char → α → α}
    {scan : Nat → List Char → α × List Char} (h : IsScan flags takes nil cons scan) (hclosing : takes ')' = false)
    {n n' : Nat} {cs cs' : List Char} (hf : Followed cs cs') (hn : cs.length ≤ n) (hn' : cs'.length ≤ n') :
    (scan n' cs').1 = (scan n cs).1 ∧ Followed (scan n cs).2 (scan n' cs').2 := by
  have taken : ∀ n n', (scan n' []).1 = (scan n []).1 ∧ Followed (scan n []).2 (scan n' []).2 := by
    intro n n'
    rw [h.stop n [] nofun, h.stop n' [] nofun]
    exact ⟨rfl, .taken⟩
  have closed : ∀ n n', (scan n' closing).1 = (scan n []).1 ∧ Followed (scan n []).2 (scan n' closing).2 := by
    intro n n'
    rw [h.stop n [] nofun, h.stop n' closing (by rintro _ ⟨⟩; exact hclosing)]
    exact ⟨rfl, .closed⟩
  induction n generalizing n' cs cs' with
  | zero =>
    obtain rfl := List.eq_nil_of_length_eq_zero (Nat.le_zero.1 hn)
    cases hf with
    | taken => exact taken 0 n'
    | closed => exact closed 0 n'
  | succ n ih =>
    cases hf with
    | taken => exact taken (n + 1) n'
    | closed => exact closed (n + 1) n'
    | cons c hf =>
      obtain _ | n' := n'
      · cases hn'
      cases kind : takes c with
      | false =>
        rw [h.stop _ _ (by rintro _ ⟨⟩; exact kind), h.stop _ _ (by rintro _ ⟨⟩; exact kind)]
        exact ⟨rfl, hf.cons c⟩
      | true =>
        rw [h.step _ _ _ kind, h.step _ _ _ kind]
        have short := Nat.le_trans (length_skipBlanks_le flags _) (Nat.le_of_succ_le_succ hn)
        have short' := Nat.le_trans (length_skipBlanks_le flags _) (Nat.le_of_succ_le_succ hn')
        obtain ⟨same, rest⟩ := ih (hf.skipBlanks flags) short short'
        exact ⟨congrArg (cons c) same, rest⟩

end TypedWiki.Pattern
