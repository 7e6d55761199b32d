import TypedWiki.Text.CodeSet

/-!
# Blank text — white space, trimming and emptiness

White space is the Unicode property `White_Space`; it contains U+0085, U+00A0 and U+3000 and leaves out the
zero-width characters U+200B and U+FEFF.  `trim` removes it at both ends of a text, and a text is blank when
nothing else is in it.
-/

namespace TypedWiki.Text

/-- The code points with the property `White_Space`. -/
def isSpace (c : Char) : Bool :=
  let n := c.toNat
  (9 ≤ n && n ≤ 13) || n == 32 || n == 0x85 || n == 0xA0 || n == 0x1680 || (0x2000 ≤ n && n ≤ 0x200A)
    || n == 0x2028 || n == 0x2029 || n == 0x202F || n == 0x205F || n == 0x3000

/-- White space as a set of code points. -/
def spaceTable : CodeSet :=
  ⟨[9, 14, 32, 33, 0x85, 0x86, 0xA0, 0xA1, 0x1680, 0x1681, 0x2000, 0x200B, 0x2028, 0x202A, 0x202F, 0x2030, 0x205F,
    0x2060, 0x3000, 0x3001]⟩

/-- Drops the white space at the start. -/
def trimStart (cs : List Char) : List Char := cs.dropWhile isSpace

/-- Drops the white space at the end. -/
def trimEnd (cs : List Char) : List Char := (cs.reverse.dropWhile isSpace).reverse

/-- Drops the white space at both ends. -/
def trimChars (cs : List Char) : List Char := trimEnd (trimStart cs)

/-- The text without the white space at its ends. -/
def trim (s : String) : String := String.ofList (trimChars s.toList)

/-- True for a text of white space only, the empty text included. -/
def isBlank (s : String) : Bool := s.toList.all isSpace

/-! ### Laws -/

theorem trimEnd_append_of_not_space {cs : List Char} {c : Char} (h : isSpace c = false) :
    trimEnd (cs ++ [c]) = cs ++ [c] := by
  simp [trimEnd, h]

/-- What is left after dropping leading white space starts with another character. -/
theorem isSpace_head_trimStart {cs ds : List Char} {d : Char} (h : trimStart cs = d :: ds) :
    isSpace d = false := by
  have := List.head?_dropWhile_not isSpace cs
  rw [trimStart] at h
  simpa [h] using this

/-- No white space at the start or the end. -/
def IsTight (cs : List Char) : Prop := cs.head?.any isSpace = false ∧ cs.getLast?.any isSpace = false

/-- Trimming leaves a text without white space at its ends. -/
theorem IsTight.trimChars_eq {cs : List Char} (h : IsTight cs) : trimChars cs = cs := by
  have start : trimStart cs = cs := by
    cases cs with
    | nil => rfl
    | cons c cs =>
      have hc : isSpace c = false := h.1
      rw [trimStart, List.dropWhile_cons_of_neg (by simp [hc])]
  rw [trimChars, start]
  rcases List.eq_nil_or_concat cs with rfl | ⟨init, last, rfl⟩
  · rfl
  · have hlast := h.2
    rw [List.concat_eq_append, List.getLast?_concat] at hlast
    rw [List.concat_eq_append]
    exact trimEnd_append_of_not_space hlast

theorem trimEnd_isPrefix (cs : List Char) : trimEnd cs <+: cs := by
  have suffix := List.dropWhile_suffix (l := cs.reverse) isSpace
  rw [trimEnd]
  simpa using List.reverse_prefix.2 suffix

/-- Trimming takes a piece out of the text. -/
theorem trimChars_isInfix (cs : List Char) : trimChars cs <:+: cs :=
  (trimEnd_isPrefix _).isInfix.trans (List.dropWhile_suffix isSpace).isInfix

theorem isTight_trimEnd {cs : List Char} (start : cs.head?.any isSpace = false) : IsTight (trimEnd cs) := by
  refine ⟨?_, ?_⟩
  · obtain ⟨blank, hcs⟩ := trimEnd_isPrefix cs
    cases hd : trimEnd cs with
    | nil => rfl
    | cons d ds =>
      rw [← hcs, hd] at start
      exact start
  · have kept := List.head?_dropWhile_not isSpace cs.reverse
    rw [trimEnd, List.getLast?_reverse]
    cases hd : (cs.reverse.dropWhile isSpace).head? with
    | none => rfl
    | some d => simpa [hd] using kept

/-- Trimming leaves no white space at the ends. -/
theorem isTight_trimChars (cs : List Char) : IsTight (trimChars cs) := by
  refine isTight_trimEnd ?_
  cases hd : trimStart cs with
  | nil => rfl
  | cons d ds => exact isSpace_head_trimStart hd

theorem trimChars_eq_self_iff {cs : List Char} : trimChars cs = cs ↔ IsTight cs :=
  ⟨fun h => h ▸ isTight_trimChars cs, IsTight.trimChars_eq⟩

/-- Trimming keeps every character that is no white space. -/
theorem count_trimChars {c : Char} (h : isSpace c = false) (cs : List Char) :
    (trimChars cs).count c = cs.count c := by
  have dropped : ∀ ds : List Char, (ds.dropWhile isSpace).count c = ds.count c := by
    intro ds
    have none : c ∉ ds.takeWhile isSpace := by
      intro hc
      have space := List.all_eq_true.1 List.all_takeWhile c hc
      simp [space] at h
    conv => rhs; rw [← List.takeWhile_append_dropWhile (p := isSpace) (l := ds)]
    rw [List.count_append, List.count_eq_zero.2 none, Nat.zero_add]
  rw [trimChars, trimEnd, List.count_reverse, dropped, List.count_reverse, trimStart, dropped]

/-- Between two texts anything may stand. -/
theorem IsTight.append {l m r : List Char} (hl : IsTight l) (hr : IsTight r) (left : l ≠ []) (right : r ≠ []) :
    IsTight (l ++ m ++ r) := by
  obtain ⟨c, l, rfl⟩ := List.exists_cons_of_ne_nil left
  obtain ⟨init, d, rfl⟩ := (List.eq_nil_or_concat r).resolve_left right
  have hlast := hr.2
  refine ⟨hl.1, ?_⟩
  rw [List.concat_eq_append, List.getLast?_concat] at hlast
  rw [List.concat_eq_append, ← List.append_assoc, List.getLast?_concat]
  exact hlast

end TypedWiki.Text
