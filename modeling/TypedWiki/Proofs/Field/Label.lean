import TypedWiki.Field.Name

/-!
# Labels — what the words of a label keep of a name

A name is cut into words by looking at a character, the one before it and the one after it.  A label is read by the
same rules, where a blank stands between words and every word starts with a capital: it is cut at the blanks and
nowhere else.

* `Unbroken`: no word starts within some characters, given what follows them.
* `IsWord`: what the words of every name are.
* `flatten_words`: the words hold the letters and digits of the name.
* `words_intercalate`: words with blanks between them are cut at the blanks.
* `isWord_capitalize`: a capital in front does not cut a word.
* `IsLabelOf`, `isLabelOf_pretty`: the label of a name of ASCII.
-/

namespace TypedWiki.FieldName

open Text (isAlphanumeric isAsciiDigit isAsciiLetter isUpper isLower asciiUpper asciiLower)

/-! ### Words -/

/-- No word starts within the characters, with `next` after them. -/
def Unbroken (next : Option Char) : List Char → Prop
  | p :: c :: r => isWordStart p c (r.head?.or next) = false ∧ Unbroken next (c :: r)
  | _ => True

/-- Letters and digits in which no word starts. -/
structure IsWord (w : List Char) : Prop where
  ne_nil : w ≠ []
  alphanumeric : ∀ c ∈ w, isAlphanumeric c = true
  unbroken : Unbroken none w

variable {p c : Char} {next : Option Char} {w word cs : List Char} {ws : List (List Char)}

/-- A small letter ahead can only start a word. -/
theorem isWordStart_none (h : isWordStart p c next = false) : isWordStart p c none = false := by
  simp only [isWordStart, Bool.or_eq_false_iff, Option.any_none, Bool.and_false, and_true] at h ⊢
  exact ⟨⟨h.1.1.1, h.1.2⟩, h.2⟩

theorem Unbroken.none (h : Unbroken next w) : Unbroken none w := by
  induction w with
  | nil => trivial
  | cons p w ih =>
    cases w with
    | nil => trivial
    | cons c r =>
      refine ⟨?_, ih h.2⟩
      cases r with
      | nil => exact isWordStart_none h.1
      | cons d r => exact h.1

/-- A word goes on with a character that does not end it. -/
theorem Unbroken.concat (h : Unbroken (some c) word) (joins : endsBefore word c next = false) :
    Unbroken next (word ++ [c]) := by
  induction word with
  | nil => trivial
  | cons p word ih =>
    cases word with
    | nil => exact ⟨joins, trivial⟩
    | cons q word =>
      refine ⟨?_, ih h.2 joins⟩
      cases word with
      | nil => exact h.1
      | cons d word => exact h.1

/-- What is read of a name is a word each time. -/
theorem isWord_of_mem_words (alphanumeric : ∀ c ∈ word, isAlphanumeric c = true) (unbroken : Unbroken cs.head? word)
    (h : w ∈ words word cs) : IsWord w := by
  have finished : ∀ {word next}, (∀ c ∈ word, isAlphanumeric c = true) → Unbroken next word → w ∈ finish word →
      IsWord w := by
    intro word next alphanumeric unbroken h
    rw [finish] at h
    split at h
    · cases h
    · rename_i ne
      rw [List.mem_singleton.1 h]
      exact ⟨ne, alphanumeric, unbroken.none⟩
  induction cs generalizing word with
  | nil => exact finished alphanumeric unbroken h
  | cons c r ih =>
    rw [words] at h
    split at h
    · rcases List.mem_append.1 h with h | h
      · exact finished alphanumeric unbroken h
      · exact ih (fun _ h => absurd h List.not_mem_nil) trivial h
    · rename_i visible
      have own : isAlphanumeric c = true := by simpa using visible
      split at h
      · rename_i ends
        rcases List.mem_cons.1 h with rfl | h
        · have ne : w ≠ [] := by
            rintro rfl
            cases ends
          exact ⟨ne, alphanumeric, unbroken.none⟩
        · exact ih (fun d hd => List.mem_singleton.1 hd ▸ own) trivial h
      · rename_i joins
        refine ih (fun d hd => ?_) (unbroken.concat (Bool.eq_false_iff.2 joins)) h
        rcases List.mem_append.1 hd with hd | hd
        · exact alphanumeric d hd
        · exact List.mem_singleton.1 hd ▸ own

/-- The words hold the letters and digits in order. -/
theorem flatten_words (word cs : List Char) : (words word cs).flatten = word ++ cs.filter isAlphanumeric := by
  have finished : ∀ word : List Char, (finish word).flatten = word := by
    intro word
    rw [finish]
    split <;> simp [*]
  induction cs generalizing word with
  | nil => simp [words, finished]
  | cons c r ih =>
    rw [words]
    split
    · rename_i blank
      rw [List.flatten_append, finished, ih, List.filter_cons_of_neg (by simpa using blank), List.nil_append]
    · rename_i visible
      rw [List.filter_cons_of_pos (by simpa using visible)]
      split
      · rw [List.flatten_cons, ih, List.singleton_append]
      · rw [ih, List.append_assoc, List.singleton_append]

/-! ### Words with blanks between them -/

/-- Where no word starts none ends. -/
theorem endsBefore_of_unbroken {acc : List Char} (h : Unbroken none (acc ++ c :: w)) :
    endsBefore acc c w.head? = false := by
  induction acc with
  | nil => rfl
  | cons p acc ih =>
    cases acc with
    | nil =>
      have first := h.1
      rw [Option.or_none] at first
      exact first
    | cons q acc => exact ih h.2

/-- An unbroken word is read up to the blank after it, or to the end. -/
theorem words_append {acc rest : List Char} (alphanumeric : ∀ c ∈ w, isAlphanumeric c = true)
    (unbroken : Unbroken none (acc ++ w)) (blank : ∀ c, rest.head? = some c → c = ' ') :
    words acc (w ++ rest) = finish (acc ++ w) ++ words [] rest := by
  induction w generalizing acc with
  | nil =>
    rw [List.append_nil, List.nil_append]
    cases rest with
    | nil => simp [words, finish]
    | cons c rest =>
      obtain rfl := blank c rfl
      have visible : (!isAlphanumeric ' ') = true := rfl
      rw [words, words, if_pos visible, if_pos visible]
      rfl
  | cons c w ih =>
    have own := alphanumeric c List.mem_cons_self
    have joins : endsBefore acc c (w ++ rest).head? = false := by
      have within := endsBefore_of_unbroken unbroken
      cases w with
      | cons d w => exact within
      | nil =>
        -- a blank ahead is no small letter
        cases rest with
        | nil => exact within
        | cons d rest =>
          obtain rfl := blank d rfl
          exact within
    rw [List.append_cons acc c w] at unbroken ⊢
    rw [List.cons_append, words, own, joins]
    exact ih (fun d hd => alphanumeric d (List.mem_cons_of_mem c hd)) unbroken

/-- **Words with single blanks between them are cut at the blanks and nowhere else.** -/
theorem words_intercalate (h : ∀ w ∈ ws, IsWord w) : words [] (List.intercalate [' '] ws) = ws := by
  have single : ∀ {w rest}, IsWord w → (∀ c, rest.head? = some c → c = ' ') →
      words [] (w ++ rest) = w :: words [] rest := by
    intro w rest isWord blank
    have read : words [] (w ++ rest) = finish ([] ++ w) ++ words [] rest :=
      words_append isWord.alphanumeric isWord.unbroken blank
    rw [List.nil_append, finish, if_neg isWord.ne_nil] at read
    exact read
  induction ws with
  | nil => rfl
  | cons w ws ih =>
    obtain ⟨first, others⟩ := List.forall_mem_cons.1 h
    cases ws with
    | nil =>
      have alone : words [] (w ++ []) = [w] := single first (by simp)
      rw [List.intercalate_singleton, ← List.append_nil w, alone, List.append_nil]
    | cons v ws =>
      have skipped : ∀ cs, words [] (' ' :: cs) = words [] cs := fun _ => rfl
      rw [List.intercalate_cons_cons, List.append_assoc, single first (by simp), List.singleton_append, skipped,
        ih others]

/-- The blanks can be taken away again. -/
theorem filter_intercalate (h : ∀ w ∈ ws, ' ' ∉ w) : (List.intercalate [' '] ws).filter (· ≠ ' ') = ws.flatten := by
  have all : ∀ w ∈ ws, w.filter (· ≠ ' ') = w := fun w hw =>
    List.filter_eq_self.2 fun c hc => decide_eq_true fun blank => h w hw (blank ▸ hc)
  induction ws with
  | nil => rfl
  | cons w ws ih =>
    obtain ⟨first, others⟩ := List.forall_mem_cons.1 all
    cases ws with
    | nil => rw [List.intercalate_singleton, first, List.flatten_singleton]
    | cons v ws =>
      rw [List.intercalate_cons_cons, List.filter_append, List.filter_append, first, List.flatten_cons,
        ih (fun w hw => h w (List.mem_cons_of_mem _ hw)) others]
      simp

/-! ### Capitals -/

section Ascii

variable (ascii : ∀ c ∈ w, c.toNat < 128)
include ascii

theorem map_asciiLower_capitalize : (capitalize w).map asciiLower = w.map asciiLower := by
  cases w with
  | nil => rfl
  | cons c w =>
    have first := ascii c List.mem_cons_self
    rw [capitalize, Text.upper_ascii first, List.singleton_append, List.map_cons, List.map_cons,
      Text.asciiLower_asciiUpper first]

theorem capitalize_capitalize : capitalize (capitalize w) = capitalize w := by
  cases w with
  | nil => rfl
  | cons c w =>
    have first := ascii c List.mem_cons_self
    have capital := Text.asciiUpper_lt first
    rw [capitalize, Text.upper_ascii first, List.singleton_append, capitalize, Text.upper_ascii capital,
      Text.asciiUpper_of_not_isLower capital (Text.isLower_asciiUpper first), List.singleton_append]

/-- A capital in front of a word does not cut it: what comes after the first letter is no capital unless it was one. -/
theorem isWord_capitalize (h : IsWord w) : IsWord (capitalize w) := by
  cases w with
  | nil => exact h
  | cons p w =>
    have first := ascii p List.mem_cons_self
    rw [capitalize, Text.upper_ascii first, List.singleton_append]
    refine ⟨List.cons_ne_nil _ _, fun c hc => ?_, ?_⟩
    · rcases List.mem_cons.1 hc with rfl | hc
      · rw [Text.isAlphanumeric_asciiUpper first]
        exact h.alphanumeric p List.mem_cons_self
      · exact h.alphanumeric c (List.mem_cons_of_mem p hc)
    · cases w with
      | nil => trivial
      | cons c r =>
        refine ⟨?_, h.unbroken.2⟩
        have joins := h.unbroken.1
        simp only [isWordStart, Text.isUpper_asciiUpper first, Text.isAsciiDigit_asciiUpper first] at joins ⊢
        by_cases small : isLower p = true
        · cases capital : isUpper c <;> cases isUpper p <;> simp_all
        · simpa [small] using joins

theorem ascii_capitalize : ∀ c ∈ capitalize w, c.toNat < 128 := by
  cases w with
  | nil => exact ascii
  | cons p w =>
    have first := ascii p List.mem_cons_self
    rw [capitalize, Text.upper_ascii first, List.singleton_append]
    intro c hc
    rcases List.mem_cons.1 hc with rfl | hc
    · exact Text.asciiUpper_lt first
    · exact ascii c (List.mem_cons_of_mem p hc)

theorem head?_capitalize : (capitalize w).head?.any isLower = false := by
  cases w with
  | nil => rfl
  | cons p w =>
    have first := ascii p List.mem_cons_self
    rw [capitalize, Text.upper_ascii first]
    exact Text.isLower_asciiUpper first

/-- A word has letters only, or digits only. -/
theorem uniform_of_isWord (h : IsWord w) :
    (∀ c ∈ w, isAsciiLetter c = true) ∨ ∀ c ∈ w, isAsciiDigit c = true := by
  have same : ∀ {p : Char} {w : List Char}, Unbroken none (p :: w) → ∀ c ∈ w, isAsciiDigit c = isAsciiDigit p := by
    intro p w
    induction w generalizing p with
    | nil => exact fun _ c hc => absurd hc List.not_mem_nil
    | cons d w ih =>
      intro unbroken c hc
      have joins : isAsciiDigit d = isAsciiDigit p := by
        have start := unbroken.1
        simp only [isWordStart, Bool.or_eq_false_iff] at start
        cases hd : isAsciiDigit d <;> cases hp : isAsciiDigit p <;> simp_all
      rcases List.mem_cons.1 hc with rfl | hc
      · exact joins
      · exact (ih unbroken.2 c hc).trans joins
  have either : ∀ c ∈ w, isAsciiLetter c = true ∨ isAsciiDigit c = true := by
    intro c hc
    have visible := h.alphanumeric c hc
    rw [isAlphanumeric, if_pos (ascii c hc), Bool.or_eq_true] at visible
    exact visible
  cases w with
  | nil => exact .inl fun c hc => absurd hc List.not_mem_nil
  | cons p w =>
    cases first : isAsciiDigit p with
    | true =>
      refine .inr fun c hc => ?_
      rcases List.mem_cons.1 hc with rfl | hc
      · exact first
      · exact (same h.unbroken c hc).trans first
    | false =>
      refine .inl fun c hc => (either c hc).resolve_right fun digit => ?_
      rcases List.mem_cons.1 hc with rfl | hc
      · rw [first] at digit
        cases digit
      · rw [same h.unbroken c hc, first] at digit
        cases digit

end Ascii

/-! ### Labels -/

/-- A word of a label: letters or digits, with no small letter in front. -/
structure IsLabelWord (w : List Char) : Prop where
  ne_nil : w ≠ []
  uniform : (∀ c ∈ w, isAsciiLetter c = true) ∨ ∀ c ∈ w, isAsciiDigit c = true
  capital : w.head?.any isLower = false

/-- What a label says of a name. -/
structure IsLabelOf (label name : String) : Prop where
  /-- It is made of words with single blanks between them. -/
  exists_words : ∃ ws, label.toList = List.intercalate [' '] ws ∧ ∀ w ∈ ws, IsLabelWord w
  /-- It has the letters and digits of the name up to case. -/
  keeps : (label.toList.filter (· ≠ ' ')).map asciiLower = (name.toList.filter isAlphanumeric).map asciiLower
  /-- It is its own label. -/
  stable : pretty label = label

theorem toList_pretty (name : String) :
    (pretty name).toList = List.intercalate [' '] ((words [] name.toList).map capitalize) := by
  simp [pretty, Text.join, Function.comp_def]

/-- **The label of a name of ASCII** is made of words, keeps the letters and digits, and is its own label. -/
theorem isLabelOf_pretty {name : String} (ascii : ∀ c ∈ name.toList, c.toNat < 128) : IsLabelOf (pretty name) name := by
  have content := flatten_words [] name.toList
  rw [List.nil_append] at content
  have wordAscii : ∀ w ∈ words [] name.toList, ∀ c ∈ w, c.toNat < 128 := by
    intro w hw c hc
    have kept : c ∈ (words [] name.toList).flatten := List.mem_flatten.2 ⟨w, hw, hc⟩
    rw [content] at kept
    exact ascii c (List.mem_filter.1 kept).1
  have isWord : ∀ w ∈ words [] name.toList, IsWord w := fun w hw =>
    isWord_of_mem_words (fun _ h => absurd h List.not_mem_nil) trivial hw
  have capitals : ∀ v ∈ (words [] name.toList).map capitalize, IsWord v := by
    intro v hv
    obtain ⟨w, hw, rfl⟩ := List.mem_map.1 hv
    exact isWord_capitalize (wordAscii w hw) (isWord w hw)
  refine ⟨⟨_, toList_pretty name, ?_⟩, ?_, ?_⟩
  · intro v hv
    obtain ⟨w, hw, rfl⟩ := List.mem_map.1 hv
    have word := capitals _ hv
    exact ⟨word.ne_nil, uniform_of_isWord (ascii_capitalize (wordAscii w hw)) word, head?_capitalize (wordAscii w hw)⟩
  · have blankFree : ∀ v ∈ (words [] name.toList).map capitalize, ' ' ∉ v := by
      intro v hv blank
      cases (capitals v hv).alphanumeric ' ' blank
    have lowered : ∀ ws : List (List Char), (∀ w ∈ ws, ∀ c ∈ w, c.toNat < 128) →
        (ws.map capitalize).flatten.map asciiLower = ws.flatten.map asciiLower := by
      intro ws h
      induction ws with
      | nil => rfl
      | cons w ws ih =>
        obtain ⟨first, others⟩ := List.forall_mem_cons.1 h
        rw [List.map_cons, List.flatten_cons, List.flatten_cons, List.map_append, List.map_append, ih others,
          map_asciiLower_capitalize first]
    rw [toList_pretty, filter_intercalate blankFree, lowered _ wordAscii, content]
  · apply String.toList_injective
    rw [toList_pretty, toList_pretty, words_intercalate capitals, List.map_map]
    refine congrArg _ (List.map_congr_left fun w hw => ?_)
    exact capitalize_capitalize (wordAscii w hw)

theorem isLabelOf_pretty_httpResponse :
    (∀ c ∈ "parseHTTPResponse_2x".toList, c.toNat < 128) ∧ pretty "parseHTTPResponse_2x" = "Parse HTTP Response 2 X" ∧
      IsLabelOf (pretty "parseHTTPResponse_2x") "parseHTTPResponse_2x" := by
  have ascii : ∀ c ∈ "parseHTTPResponse_2x".toList, c.toNat < 128 := by simp
  exact ⟨ascii, by decide, isLabelOf_pretty ascii⟩

end TypedWiki.FieldName
