import TypedWiki.Proofs.Pattern.Escapes

/-!
# Classes with a closing parenthesis after them

* `steady_readClassRange`: a character of a class, or two with a hyphen between them.
* `steady_readClassOpening`: a bracket and what may stand right after it.
* `together_readNamedClass`: the classes that have a name of their own between colons.
* `agree_readClass`: classes between brackets, with the classes inside them.
-/

namespace TypedWiki.Pattern

variable {flags : Flags}

/-- Both find nothing, or both find the same. -/
def Together {α : Type} : Option (Read α) → Option (Read α) → Prop :=
  Option.Rel fun x y => x.1 = y.1 ∧ Followed x.2 y.2

section Classes

variable {cs cs' : List Char}

theorem Together.map {α β : Type} {x y : Option (Read α)} (f : α → β) (h : Together x y) :
    Together (x.map fun (a, r) => (f a, r)) (y.map fun (a, r) => (f a, r)) := by
  cases h with
  | none => exact .none
  | some h => exact .some ⟨congrArg f h.1, h.2⟩

/-- A separator that is not in the closing is found in both. -/
theorem together_splitFirst (sep : Char) (hsep : sep ∉ closing) (hf : Followed cs cs') :
    Together (Text.splitFirst sep cs) (Text.splitFirst sep cs') := by
  induction hf with
  | taken => exact .none
  | closed =>
    rw [Text.splitFirst_eq_none_iff.2 hsep]
    exact .none
  | cons c hf ih =>
    simp only [Text.splitFirst]
    split
    · exact .some ⟨rfl, hf⟩
    · exact ih.map (c :: ·)

theorem classOp?_eq_some_iff {op : ClassOp} {r : List Char} :
    classOp? cs = some (op, r) ↔ ∃ c, cs = c :: c :: r ∧
      (op = .inter ∧ c = '&' ∨ op = .diff ∧ c = '-' ∨ op = .symmDiff ∧ c = '~') := by
  constructor
  · intro h
    unfold classOp? at h
    split at h
    · cases h
      exact ⟨_, rfl, .inl ⟨rfl, rfl⟩⟩
    · cases h
      exact ⟨_, rfl, .inr (.inl ⟨rfl, rfl⟩)⟩
    · cases h
      exact ⟨_, rfl, .inr (.inr ⟨rfl, rfl⟩)⟩
    · cases h
  · rintro ⟨c, rfl, ⟨rfl, rfl⟩ | ⟨rfl, rfl⟩ | ⟨rfl, rfl⟩⟩ <;> rfl

theorem together_classOp? (hf : Followed cs cs') : Together (classOp? cs) (classOp? cs') := by
  cases found : classOp? cs with
  | some p =>
    obtain ⟨op, r⟩ := p
    obtain ⟨c, rfl, hop⟩ := classOp?_eq_some_iff.1 found
    cases hf with
    | cons _ hf =>
      cases hf with
      | cons _ hf =>
        rw [classOp?_eq_some_iff.2 ⟨c, rfl, hop⟩]
        exact .some ⟨rfl, hf⟩
  | none =>
    cases found' : classOp? cs' with
    | none => exact .none
    | some p =>
      obtain ⟨op, r⟩ := p
      obtain ⟨c, rfl, hop⟩ := classOp?_eq_some_iff.1 found'
      -- no operator starts in the closing
      have hc : c ≠ ')' := by
        rintro rfl
        simp at hop
      cases hf with
      | cons _ hf =>
        cases hf with
        | closed => exact absurd rfl hc
        | cons _ hf =>
          rw [classOp?_eq_some_iff.2 ⟨c, rfl, hop⟩] at found
          cases found

end Classes

theorem steady_readClassAtom : Steady (readClassAtom flags) := by
  intro cs cs' a r hf hr
  cases hf with
  | taken => cases hr
  | closed => cases hr
  | cons c hf =>
    by_cases hc : c = '\\'
    · subst hc
      exact steady_readEscape hf hr
    · simp only [readClassAtom] at hr ⊢
      cases hr
      exact ⟨_, rfl, hf⟩

theorem isLoneHyphen_iff {cs : List Char} :
    isLoneHyphen flags cs = true ↔
      (skipBlanks flags cs).head? = some ']' ∨ (skipBlanks flags cs).head? = some '-' := by
  rw [isLoneHyphen]
  split
  · rename_i h
    simp [h]
  · rename_i h
    simp [h]
  · rename_i bracket hyphen
    simp only [Bool.false_eq_true, List.head?_eq_some_iff, false_iff, not_or, not_exists]
    exact ⟨bracket, hyphen⟩

theorem isLoneHyphen_followed {cs cs' : List Char} (hf : Followed cs cs') :
    isLoneHyphen flags cs' = isLoneHyphen flags cs := by
  have hf := hf.skipBlanks flags
  rw [Bool.eq_iff_iff, isLoneHyphen_iff, isLoneHyphen_iff, hf.head?_eq_some_iff (by decide),
    hf.head?_eq_some_iff (by decide)]

/-- What is no range depends on what was read of it alone. -/
theorem steady_single (atom : Atom) : Steady fun r => match atom with
    | .literal c => .ok (CharSet.single c, r)
    | .set s => .ok (s, r)
    | .boundary _ => .error .badEscape := by
  cases atom with
  | literal c => exact .ok _
  | set s => exact .ok _
  | boundary b => exact .error _

theorem steady_readClassRange : Steady (readClassRange flags) := by
  intro cs cs' s r hf hr
  simp only [readClassRange] at hr ⊢
  refine steady_readClassAtom.bind (fun first => ?_) hf hr
  intro cs cs' s r hf hr
  obtain nil | ⟨c, t, t', next, next', hf⟩ := hf.next flags
  · simp only [nil, reduceCtorEq] at hr
  simp only [next] at hr
  simp only [next']
  by_cases hc : c = '-'
  · subst hc
    simp only at hr ⊢
    rw [isLoneHyphen_followed hf]
    split at hr
    · rename_i lone
      rw [if_pos lone]
      exact steady_single first (hf.cons _) hr
    · rename_i lone
      rw [if_neg lone]
      refine steady_readClassAtom.bind (fun last => ?_) (hf.skipBlanks flags) hr
      intro cs cs' s r hf hr
      simp only at hr ⊢
      split at hr
      · split at hr
        · rename_i ordered
          rw [if_pos ordered]
          cases hr
          exact ⟨_, rfl, hf⟩
        · cases hr
      · cases hr
  · simp only [List.cons.injEq, hc, false_and, imp_self, implies_true] at hr ⊢
    exact steady_single first (hf.cons c) hr

/-- Hyphens at the start are counted. -/
theorem isScan_dropHyphens (flags : Flags) :
    IsScan flags (· == '-') 0 (fun _ n => n + 1) (readClassOpening.dropHyphens flags) where
  stop n cs h := by
    unfold readClassOpening.dropHyphens
    split
    · cases h '-' rfl
    · rfl
  step n c r h := by
    obtain rfl : c = '-' := by simpa using h
    rfl

/-- The hyphens and the bracket at the start of a class. -/
theorem steady_leading (negated : Bool) :
    Steady fun r =>
      let (hyphens, r) := readClassOpening.dropHyphens flags r.length r
      let items := List.replicate hyphens (CharSet.single '-')
      match r with
      | [] => .error .unclosedClass
      | ']' :: r' =>
        if hyphens = 0 then
          match skipBlanks flags r' with
          | [] => .error .unclosedClass
          | r'' => .ok ((negated, [CharSet.single ']']), r'')
        else .ok ((negated, items), r)
      | _ => .ok ((negated, items), r) := by
  intro cs cs' a r hf hr
  obtain ⟨count, hf⟩ := (isScan_dropHyphens flags).followed rfl hf (Nat.le_refl _) (Nat.le_refl _)
  dsimp only at hr ⊢
  generalize readClassOpening.dropHyphens flags cs.length cs = dropped at count hf hr
  generalize readClassOpening.dropHyphens flags cs'.length cs' = dropped' at count hf ⊢
  obtain ⟨hyphens, t⟩ := dropped
  obtain ⟨_, t'⟩ := dropped'
  obtain rfl : _ = hyphens := count
  dsimp only at hf hr ⊢
  cases hf with
  | taken => cases hr
  | closed => cases hr
  | cons c hf =>
    by_cases hc : c = ']'
    · subst hc
      simp only at hr ⊢
      split at hr
      · rename_i first
        rw [if_pos first]
        obtain nil | ⟨d, u, u', next, next', hf⟩ := hf.next flags
        · simp only [nil, reduceCtorEq] at hr
        simp only [next] at hr
        simp only [next']
        cases hr
        exact ⟨_, rfl, hf.cons d⟩
      · rename_i first
        rw [if_neg first]
        cases hr
        exact ⟨_, rfl, hf.cons _⟩
    · simp only [List.cons.injEq, hc, false_and, imp_self, implies_true] at hr ⊢
      cases hr
      exact ⟨_, rfl, hf.cons c⟩

theorem steady_readClassOpening : Steady (readClassOpening flags) := by
  intro cs cs' a r hf hr
  have hf := hf.skipBlanks flags
  simp only [readClassOpening] at hr ⊢
  generalize skipBlanks flags cs = t at hf hr
  generalize skipBlanks flags cs' = t' at hf ⊢
  cases hf with
  | taken => cases hr
  | closed => cases hr
  | cons c hf =>
    by_cases hc : c = '^'
    · subst hc
      exact steady_leading true (hf.skipBlanks flags) hr
    · simp only [List.cons.injEq, hc, false_and, imp_self, implies_true] at hr ⊢
      exact steady_leading false (hf.cons c) hr

theorem together_close {cs cs' : List Char} (hf : Followed cs cs') :
    Together (readNamedClass.close cs) (readNamedClass.close cs') := by
  have hcut := together_splitFirst ':' (by decide) hf
  unfold readNamedClass.close
  generalize Text.splitFirst ':' cs = cut at hcut ⊢
  generalize Text.splitFirst ':' cs' = cut' at hcut ⊢
  cases hcut with
  | none => exact .none
  | @some a b h =>
    obtain ⟨name, t⟩ := a
    obtain ⟨_, t'⟩ := b
    obtain ⟨rfl, hf⟩ := h
    dsimp only at hf ⊢
    cases hf with
    | taken => exact .none
    | closed => exact .none
    | cons c hf =>
      by_cases hc : c = ']'
      · subst hc
        simp only
        cases namedClass? (String.ofList name) with
        | none => exact .none
        | some s => exact .some ⟨rfl, hf⟩
      · simp only [Option.some.injEq, Prod.mk.injEq, List.cons.injEq, hc, false_and, and_false, imp_self, implies_true]
        exact .none

theorem readNamedClass_of_ne {cs : List Char} (h : cs.head? ≠ some ':') : readNamedClass flags cs = none := by
  unfold readNamedClass
  split
  · exact absurd rfl h
  · exact absurd rfl h
  · rfl

theorem readNamedClass_colon {cs : List Char} (h : cs.head? ≠ some '^') :
    readNamedClass flags (':' :: cs) = readNamedClass.close cs := by
  unfold readNamedClass
  split
  · rename_i heq
    obtain rfl := (List.cons.inj heq).2
    exact absurd rfl h
  · rename_i heq
    rw [(List.cons.inj heq).2]
  · rename_i none
    exact absurd rfl (none cs)

theorem together_readNamedClass (flags : Flags) {cs cs' : List Char} (hf : Followed cs cs') :
    Together (readNamedClass flags cs) (readNamedClass flags cs') := by
  by_cases colon : cs.head? = some ':'
  · cases hf with
    | taken => cases colon
    | closed => cases colon
    | @cons c r r' hf =>
      cases colon
      by_cases caret : r.head? = some '^'
      · cases hf with
        | taken => cases caret
        | closed => cases caret
        | cons d hf =>
          cases caret
          exact (together_close hf).map fun s => CharSet.compl (foldCase flags s)
      · rw [readNamedClass_colon caret, readNamedClass_colon ((not_congr (hf.head?_eq_some_iff (by decide))).2 caret)]
        exact together_close hf
  · have colon' := (not_congr (hf.head?_eq_some_iff (by decide))).2 colon
    rw [readNamedClass_of_ne colon, readNamedClass_of_ne colon']
    exact .none

section Members

variable {n n' : Nat} {left : Option (CharSet × ClassOp)}

/-- What is only read on if a set is allowed. -/
theorem agree_allowed {α : Type} {read read' : List Char → Except Fault (Read α)} (s : CharSet)
    (h : Agree read read') :
    Agree (fun r => if isAllowed flags s then read r else .error .notAscii)
      fun r => if isAllowed flags s then read' r else .error .notAscii := by
  split
  · exact h
  · exact .error _

/-- A class whose members are read in both. -/
theorem agree_readClass_succ
    (members : ∀ left items,
      Agree (readClass.members flags n left items) (readClass.members flags n' left items)) :
    Agree (readClass flags (n + 1)) (readClass flags (n' + 1)) := by
  intro cs cs' s r hf hr
  simp only [readClass] at hr ⊢
  refine steady_readClassOpening.bind (fun opening => ?_) hf hr
  intro cs cs' s r hf hr
  simp only at hr ⊢
  refine (members _ _).bind (fun s => ?_) hf hr
  dsimp only
  exact agree_allowed _ (.ok _)

/-- What follows a bracket within a class: the name of a class, or a class. -/
theorem agree_nested (inner : Agree (readClass flags n) (readClass flags n')) (items : List CharSet)
    (members : ∀ items, Agree (readClass.members flags n left items) (readClass.members flags n' left items)) :
    Agree
      (fun r => match readNamedClass flags r with
        | some (s, rest) =>
          if isAllowed flags s then readClass.members flags n left (items ++ [s]) rest else .error .notAscii
        | none => match readClass flags n r with
          | .ok (s, rest) => readClass.members flags n left (items ++ [s]) rest
          | .error e => .error e)
      fun r => match readNamedClass flags r with
        | some (s, rest) =>
          if isAllowed flags s then readClass.members flags n' left (items ++ [s]) rest else .error .notAscii
        | none => match readClass flags n' r with
          | .ok (s, rest) => readClass.members flags n' left (items ++ [s]) rest
          | .error e => .error e := by
  intro cs cs' s r hf hr
  have hnamed := together_readNamedClass flags hf
  dsimp only at hr ⊢
  generalize readNamedClass flags cs = named at hnamed hr
  generalize readNamedClass flags cs' = named' at hnamed ⊢
  cases hnamed with
  | @some a b h =>
    obtain ⟨set, u⟩ := a
    obtain ⟨_, u'⟩ := b
    obtain ⟨rfl, hf⟩ := h
    exact agree_allowed set (members _) hf hr
  | none =>
    dsimp only at hr ⊢
    split at hr
    · rename_i found
      obtain ⟨u', found', hf⟩ := inner hf found
      rw [found']
      exact members _ hf hr
    · cases hr

/-- The members of a class in which the members further on and the classes within are read in both. -/
theorem agree_members_succ (items : List CharSet) (inner : Agree (readClass flags n) (readClass flags n'))
    (members : ∀ left items,
      Agree (readClass.members flags n left items) (readClass.members flags n' left items)) :
    Agree (readClass.members flags (n + 1) left items) (readClass.members flags (n' + 1) left items) := by
  intro cs cs' s r hf hr
  simp only [readClass.members] at hr ⊢
  have hf := hf.skipBlanks flags
  have hop := together_classOp? hf
  generalize skipBlanks flags cs = t at hf hop hr
  generalize skipBlanks flags cs' = t' at hf hop ⊢
  generalize classOp? t = op at hop hr
  generalize classOp? t' = op' at hop ⊢
  cases hop with
  | @some a b h =>
    obtain ⟨op, u⟩ := a
    obtain ⟨_, u'⟩ := b
    obtain ⟨rfl, hf⟩ := h
    exact members _ _ hf hr
  | none =>
    simp only at hr ⊢
    cases hf with
    | taken => cases hr
    | closed => cases hr
    | cons c hf =>
      by_cases close : c = ']'
      · subst close
        simp only at hr ⊢
        cases hr
        exact ⟨_, rfl, hf⟩
      by_cases opening : c = '['
      · subst opening
        exact agree_nested inner items (members left) hf hr
      · simp only [List.cons.injEq, close, opening, false_and, imp_self, implies_true] at hr ⊢
        split at hr
        · rename_i found
          obtain ⟨u', found', hf⟩ := steady_readClassRange (hf.cons c) found
          rw [found']
          exact agree_allowed _ (members _ _) hf hr
        · cases hr

end Members

/-- A class between brackets is read in both, and so are the classes within it. -/
theorem agree_readClass (n : Nat) :
    (∀ n', n ≤ n' → Agree (readClass flags n) (readClass flags n')) ∧
      ∀ n', n ≤ n' → ∀ left items,
        Agree (readClass.members flags n left items) (readClass.members flags n' left items) := by
  induction n with
  | zero => exact ⟨fun _ _ => .error _, fun _ _ _ _ => .error _⟩
  | succ n ih =>
    obtain ⟨inner, members⟩ := ih
    refine ⟨?_, ?_⟩
    · rintro (_ | n') hn
      · cases hn
      exact agree_readClass_succ (members n' (Nat.le_of_succ_le_succ hn))
    · rintro (_ | n') hn left items
      · cases hn
      exact agree_members_succ items (inner n' (Nat.le_of_succ_le_succ hn)) (members n' (Nat.le_of_succ_le_succ hn))

end TypedWiki.Pattern
