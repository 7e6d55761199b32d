import Mathlib.Tactic.SplitIfs
import TypedWiki.Proofs.Pattern.Followed

/-!
# Escape sequences with a closing parenthesis after them

* `steady_readCode`: characters by their code.
* `steady_readProperty`: classes by the name of a property.
* `steady_readNamedBoundary`: boundaries by a name between braces, which may turn out to be none.
* `steady_readEscape`: what stands after a backslash.
-/

namespace TypedWiki.Pattern

variable {flags : Flags}

theorem agree_readBracedCode {n n' : Nat} (acc : List Char) (hn : n ≤ n') :
    Agree (readBracedCode flags acc n) (readBracedCode flags acc n') := by
  induction n generalizing acc n' with
  | zero => exact .error _
  | succ n ih =>
    obtain _ | n' := n'
    · cases hn
    intro cs cs' d r hf hr
    obtain nil | ⟨c, t, t', next, next', hf⟩ := hf.next flags
    · simp only [readBracedCode, nil, reduceCtorEq] at hr
    simp only [readBracedCode, next] at hr
    simp only [readBracedCode, next']
    by_cases hc : c = '\x7d'
    · subst hc
      simp only at hr ⊢
      split at hr
      · cases hr
      · rename_i some
        split at hr
        · cases hr
          rw [if_neg some]
          exact ⟨_, rfl, hf.skipBlanks flags⟩
        · cases hr
    · simp only at hr ⊢
      split at hr
      · rename_i hex
        rw [if_pos hex]
        exact ih _ (Nat.le_of_succ_le_succ hn) hf hr
      · cases hr

theorem steady_readFixedCode (acc : List Char) (n : Nat) : Steady (readFixedCode flags acc n) := by
  induction n generalizing acc with
  | zero =>
    intro cs cs' d r hf hr
    simp only [readFixedCode] at hr ⊢
    split at hr
    · cases hr
      exact ⟨_, rfl, hf.skipBlanks flags⟩
    · cases hr
  | succ n ih =>
    intro cs cs' d r hf hr
    obtain nil | ⟨c, t, t', next, next', hf⟩ := hf.next flags
    · simp only [readFixedCode, nil, reduceCtorEq] at hr
    simp only [readFixedCode, next] at hr
    simp only [readFixedCode, next']
    split at hr
    · rename_i hex
      rw [if_pos hex]
      exact ih _ hf hr
    · cases hr

theorem steady_readCode (digits : Nat) : Steady (readCode flags digits) := by
  intro cs cs' d r hf hr
  obtain nil | ⟨c, t, t', next, next', hf⟩ := hf.next flags
  · simp only [readCode, nil, reduceCtorEq] at hr
  simp only [readCode, next] at hr
  simp only [readCode, next']
  by_cases hc : c = '\x7b'
  · subst hc
    simp only at hr ⊢
    exact agree_readBracedCode [] (Nat.succ_le_succ hf.length_le) hf hr
  · simp only at hr ⊢
    exact steady_readFixedCode [] digits (hf.cons c) hr

theorem agree_readPropertyName {n n' : Nat} (name : List Char) (hn : n ≤ n') :
    Agree (readPropertyName flags name n) (readPropertyName flags name n') := by
  induction n generalizing name n' with
  | zero => exact .error _
  | succ n ih =>
    obtain _ | n' := n'
    · cases hn
    intro cs cs' d r hf hr
    obtain nil | ⟨c, t, t', next, next', hf⟩ := hf.next flags
    · simp only [readPropertyName, nil, reduceCtorEq] at hr
    simp only [readPropertyName, next] at hr
    simp only [readPropertyName, next']
    by_cases hc : c = '\x7d'
    · subst hc
      cases hr
      exact ⟨_, rfl, hf⟩
    · simp only at hr ⊢
      exact ih _ (Nat.le_of_succ_le_succ hn) hf hr

/-- The class of a property depends on its name alone. -/
theorem steady_property (negated : Bool) (name : List Char) : Steady fun r =>
    if flags.ascii then .error .notAscii
    else match propertyOf? name with
      | none => .error .unknownProperty
      | some (s, excluded) =>
        .ok (if negated != excluded then .compl (foldCase flags s) else foldCase flags s, r) := by
  intro cs cs' d r hf hr
  dsimp only at hr ⊢
  split at hr
  · cases hr
  · rename_i ascii
    rw [if_neg ascii]
    split at hr
    · cases hr
    · cases hr
      exact ⟨_, rfl, hf⟩

theorem steady_readProperty (negated : Bool) : Steady (readProperty flags negated) := by
  have named : Steady fun r => readPropertyName flags [] (r.length + 1) r := fun _ _ _ _ hf =>
    agree_readPropertyName [] (Nat.succ_le_succ hf.length_le) hf
  intro cs cs' d r hf hr
  obtain nil | ⟨c, t, t', next, next', hf⟩ := hf.next flags
  · simp only [readProperty, nil] at hr
    cases hr
  simp only [readProperty, next] at hr
  simp only [readProperty, next']
  by_cases hc : c = '\x7b'
  · subst hc
    simp only at hr ⊢
    exact named.bind (steady_property negated) hf hr
  · simp only at hr ⊢
    exact steady_property negated _ hf hr

/-- A name with its closing brace is collected in both. -/
theorem collect_followed {n n' : Nat} {cs cs' name rest : List Char} (hn : n ≤ n') (hf : Followed cs cs')
    (h : readNamedBoundary.collect flags n cs = (name, '\x7d' :: rest)) :
    ∃ rest', readNamedBoundary.collect flags n' cs' = (name, '\x7d' :: rest') ∧ Followed rest rest' := by
  have stop : ∀ n r, readNamedBoundary.collect flags n ('\x7d' :: r) = ([], '\x7d' :: r) := by
    rintro (_ | n) r <;> rfl
  induction n generalizing n' cs cs' name with
  | zero =>
    obtain ⟨rfl, rfl⟩ := Prod.mk.inj h
    cases hf with
    | cons _ hf => exact ⟨_, stop _ _, hf⟩
  | succ n ih =>
    obtain _ | n' := n'
    · cases hn
    cases hf with
    | taken => cases h
    | closed => cases h
    | cons c hf =>
      simp only [readNamedBoundary.collect] at h ⊢
      split at h
      · rename_i isName
        obtain ⟨rfl, hrest⟩ := Prod.mk.inj h
        obtain ⟨rest', found, hf'⟩ :=
          ih (Nat.le_of_succ_le_succ hn) (hf.skipBlanks flags) (Prod.ext rfl hrest)
        rw [if_pos isName, found]
        exact ⟨rest', rfl, hf'⟩
      · rename_i isName
        obtain ⟨rfl, hrest⟩ := Prod.mk.inj h
        obtain ⟨rfl, rfl⟩ := List.cons.inj hrest
        rw [if_neg isName]
        exact ⟨_, rfl, hf⟩

theorem readNamedBoundary_of_ne {cs : List Char} (h : cs.head? ≠ some '\x7b') :
    readNamedBoundary flags cs = .ok (.word flags.ascii, cs) := by
  unfold readNamedBoundary
  split
  · exact absurd rfl h
  · rfl

theorem steady_readNamedBoundary : Steady (readNamedBoundary flags) := by
  intro cs cs' b r hf hr
  by_cases brace : cs.head? = some '\x7b'
  · cases hf with
    | taken => cases brace
    | closed => cases brace
    | cons c hf =>
      cases brace
      obtain nil | ⟨d, t, t', next, next', hf'⟩ := hf.next flags
      · simp only [readNamedBoundary, nil, reduceCtorEq] at hr
      simp only [readNamedBoundary, next] at hr
      simp only [readNamedBoundary, next']
      split at hr
      · rename_i isName
        rw [if_pos isName]
        generalize hbody : readNamedBoundary.collect flags t.length (d :: t) = body at hr
        obtain ⟨name, tail⟩ := body
        split at hr
        case h_5 => cases hr
        all_goals
          rename_i htail hname
          obtain rfl : tail = _ := htail
          obtain ⟨rest', found, hf''⟩ := collect_followed hf'.length_le (hf'.cons d) hbody
          cases hr
          simp only [found, hname]
          exact ⟨rest', rfl, hf''⟩
      · rename_i isName
        rw [if_neg isName]
        cases hr
        exact ⟨_, rfl, hf.cons _⟩
  · have brace' := (not_congr (hf.head?_eq_some_iff (by decide))).2 brace
    rw [readNamedBoundary_of_ne brace] at hr
    rw [readNamedBoundary_of_ne brace']
    cases hr
    exact ⟨_, rfl, hf⟩

theorem steady_readEscape : Steady (readEscape flags) := by
  intro cs cs' a r hf hr
  cases hf with
  | taken => cases hr
  | closed => cases hr
  | cons c hf =>
    unfold readEscape at hr ⊢
    simp only at hr ⊢
    split_ifs at hr ⊢ with digit x u U property escapable
    · refine (steady_readCode 2).bind (fun d => ?_) hf hr
      -- whether the code is that of a byte is seen before it is read
      have byte := (hf.skipBlanks flags).head?_eq_some_iff (c := '\x7b') (by decide)
      intro cs cs' a r hf hr
      simp only [ne_eq, byte] at hr ⊢
      split at hr
      · cases hr
      · rename_i fits
        rw [if_neg fits]
        cases hr
        exact ⟨_, rfl, hf⟩
    · exact (steady_readCode 4).map Atom.literal hf hr
    · exact (steady_readCode 8).map Atom.literal hf hr
    · exact (steady_readProperty _).map Atom.set hf hr
    · split at hr
      · cases hr
        exact ⟨_, rfl, hf⟩
      · cases hr
        exact ⟨_, rfl, hf⟩
    · split at hr
      · cases hr
        exact ⟨_, rfl, hf⟩
      · split at hr
        · cases hr
          exact ⟨_, rfl, hf⟩
        · split at hr
          case h_6 => exact steady_readNamedBoundary.map Atom.boundary hf hr
          all_goals cases hr
          all_goals exact ⟨_, rfl, hf⟩

end TypedWiki.Pattern
