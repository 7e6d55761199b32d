import TypedWiki.Proofs.Pattern.Classes

/-!
# Tokens — what is read of a pattern in one step

* `Token`, `readToken`: the next mark, repetition, part or group.
* `readAlternatives_succ`: reading alternatives goes from token to token.
* `steady_readToken`: a token is read in both a text and the text that goes on with the closing.
-/

namespace TypedWiki.Pattern

/-- What comes next in a pattern. -/
inductive Token where
  /-- The end of the alternatives. -/
  | stop
  /-- The mark between alternatives. -/
  | bar
  /-- The repetition of the part before. -/
  | counted (min : Nat) (max : Option Nat) (greedy : Bool)
  | part (p : Pattern)
  | directive (flags : Flags)
  /-- A parenthesis, with the number of the group, its flags and the captures up to it. -/
  | opening (number : Option Nat) (flags : Flags) (captures : Captures)

/-- The token of a group. -/
def GroupStart.token (flags : Flags) (captures : Captures) : GroupStart → Except Fault Token
  | .directive inner => .ok (.directive inner)
  | .plain inner => .ok (.opening none inner captures)
  | .capture name =>
    if name.isSome && captures.contains name then .error .badGroupName
    else .ok (.opening (some captures.length) flags (name :: captures))

/-- The token of a repetition, which may have a question mark after it. -/
def readCounted (flags : Flags) (min : Nat) (max : Option Nat) (cs : List Char) : Except Fault (Read Token) :=
  let (greedy, r) := readGreed flags cs
  .ok (.counted min max greedy, r)

/-- Reads what comes next. -/
def readToken (flags : Flags) (captures : Captures) (cs : List Char) : Except Fault (Read Token) :=
  match skipBlanks flags cs with
  | [] => .ok (.stop, [])
  | ')' :: r => .ok (.stop, ')' :: r)
  | '|' :: r => .ok (.bar, r)
  | '?' :: r => readCounted flags 0 (some 1) r
  | '*' :: r => readCounted flags 0 none r
  | '+' :: r => readCounted flags 1 none r
  | '\x7b' :: r => do
    let ((min, max), r) ← readCount flags r
    readCounted flags min max (skipBlanks flags r)
  | '[' :: r => (readClass flags (2 * r.length + 2) r).map fun (s, r) => (.part (.chars s), r)
  | '\\' :: r => (readEscape flags r).map fun (a, r) => (.part (a.pattern flags), r)
  | '.' :: r => if flags.ascii then .error .notAscii else .ok (.part (.chars (anyChar flags)), r)
  | '^' :: r => .ok (.part (.boundary (startMark flags)), r)
  | '$' :: r => .ok (.part (.boundary (endMark flags)), r)
  | '(' :: r => do
    let (start, r) ← readGroupStart flags r
    let token ← start.token flags captures
    .ok (token, r)
  | c :: r => .ok (.part (literal flags c), r)

/-- Reading alternatives goes from token to token. -/
theorem readAlternatives_succ (fuel : Nat) (flags : Flags) (captures : Captures) (done : List Pattern)
    (items : List Item) (cs : List Char) :
    readAlternatives (fuel + 1) flags captures done items cs =
      match readToken flags captures cs with
      | .error e => .error e
      | .ok (.stop, r) => .ok ((Pattern.choice (Item.sequence items :: done).reverse, captures), r)
      | .ok (.bar, r) => readAlternatives fuel flags captures (Item.sequence items :: done) [] r
      | .ok (.counted min max greedy, r) =>
        match repeatLast items min max greedy with
        | .ok items => readAlternatives fuel flags captures done items r
        | .error e => .error e
      | .ok (.part p, r) => readAlternatives fuel flags captures done (.part p :: items) r
      | .ok (.directive inner, r) => readAlternatives fuel inner captures done (.directive :: items) r
      | .ok (.opening number inner captures, r) =>
        match readAlternatives fuel inner captures [] [] r with
        | .error e => .error e
        | .ok ((p, captures), ')' :: r) =>
          readAlternatives fuel flags captures done (.part (.group number p) :: items) r
        | .ok _ => .error .unclosedGroup := by
  simp only [readAlternatives, readToken]
  generalize skipBlanks flags cs = t
  split
  · rfl
  · rfl
  · rfl
  · rfl
  · rfl
  · rfl
  · rename_i r
    simp only [bind, Except.bind]
    cases readCount flags r with
    | error e => rfl
    | ok found => rfl
  · rename_i r
    simp only [Except.map]
    cases readClass flags (2 * r.length + 2) r with
    | error e => rfl
    | ok found => rfl
  · rename_i r
    simp only [Except.map]
    cases readEscape flags r with
    | error e => rfl
    | ok found => rfl
  · by_cases ascii : flags.ascii = true
    · simp only [if_pos ascii]
    · simp only [if_neg ascii]
  · rfl
  · rfl
  · rename_i r
    simp only [bind, Except.bind]
    cases readGroupStart flags r with
    | error e => rfl
    | ok found =>
      obtain ⟨start, r⟩ := found
      cases start with
      | plain inner => rfl
      | directive inner => rfl
      | capture name =>
        simp only [GroupStart.token]
        split
        · rfl
        · rfl
  · simp only

/-! ### Counts -/

variable {flags : Flags}

theorem isScan_digits (flags : Flags) :
    IsScan flags Text.isAsciiDigit [] (fun c ds => c :: ds) (readCountNumber.digits flags) where
  stop n cs h := by
    unfold readCountNumber.digits
    split
    · rw [h _ rfl]
      rfl
    · rfl
  step n c r h := by
    simp only [readCountNumber.digits, h, if_true]

theorem steady_readCountNumber : Steady (readCountNumber flags) := by
  intro cs cs' a r hf hr
  obtain ⟨same, hf⟩ := (isScan_digits flags).followed rfl hf.dropWhile_isSpace (Nat.le_refl _) (Nat.le_refl _)
  have hf := hf.dropWhile_isSpace.skipBlanks flags
  simp only [readCountNumber] at hr ⊢
  rw [same]
  split at hr
  · rename_i none
    rw [if_pos none]
    cases hr
    exact ⟨_, rfl, hf⟩
  · rename_i none
    split at hr
    · rename_i fits
      rw [if_neg none, if_pos fits]
      cases hr
      exact ⟨_, rfl, hf⟩
    · cases hr

/-- A count ends with a brace, if its bounds are in order. -/
theorem steady_bounded (n : Nat) (high : Option Nat) : Steady fun r =>
    match high, r with
    | some m, '\x7d' :: r => if n ≤ m then .ok ((n, some m), r) else .error .badCount
    | _, _ => .error .badCount := by
  intro cs cs' a r hf hr
  dsimp only at hr ⊢
  obtain _ | m := high
  · cases hr
  cases hf with
  | taken => cases hr
  | closed => cases hr
  | cons c hf =>
    by_cases brace : c = '\x7d'
    · subst brace
      simp only at hr ⊢
      split at hr
      · rename_i ordered
        rw [if_pos ordered]
        cases hr
        exact ⟨_, rfl, hf⟩
      · cases hr
    · simp only [List.cons.injEq, brace, false_and, imp_self, implies_true] at hr
      cases hr

/-- After the comma of a count comes its end or the greatest number. -/
theorem steady_upper (n : Nat) : Steady (fun r => match skipBlanks flags r with
    | '\x7d' :: r => .ok ((n, none), r)
    | r => do
      let (high, r) ← readCountNumber flags r
      match high, r with
      | some m, '\x7d' :: r => if n ≤ m then .ok ((n, some m), r) else .error .badCount
      | _, _ => .error .badCount) := by
  intro cs cs' a r hf hr
  have hf := hf.skipBlanks flags
  dsimp only at hr ⊢
  generalize skipBlanks flags cs = t at hf hr
  generalize skipBlanks flags cs' = t' at hf ⊢
  by_cases brace : t.head? = some '\x7d'
  · cases hf with
    | taken => cases brace
    | closed => cases brace
    | cons c hf =>
      cases brace
      cases hr
      exact ⟨_, rfl, hf⟩
  · have brace' := (not_congr (hf.head?_eq_some_iff (by decide))).2 brace
    split at hr
    · exact absurd rfl brace
    split
    · exact absurd rfl brace'
    exact steady_readCountNumber.bind (steady_bounded n) hf hr

theorem steady_readCount : Steady (readCount flags) := by
  intro cs cs' a r hf hr
  simp only [readCount] at hr ⊢
  refine steady_readCountNumber.bind (fun low => ?_) (hf.skipBlanks flags) hr
  intro cs cs' a r hf hr
  dsimp only at hr ⊢
  obtain _ | n := low
  · cases hr
  cases hf with
  | taken => cases hr
  | closed => cases hr
  | cons c hf =>
    by_cases brace : c = '\x7d'
    · subst brace
      cases hr
      exact ⟨_, rfl, hf⟩
    by_cases comma : c = ','
    · subst comma
      exact steady_upper n hf hr
    · simp only [List.cons.injEq, brace, comma, false_and, imp_self, implies_true] at hr
      cases hr

/-! ### Groups -/

theorem steady_readGroupName : Steady readGroupName := by
  intro cs cs' name r hf hr
  have hcut := together_splitFirst '>' (by decide) hf
  unfold readGroupName at hr ⊢
  generalize Text.splitFirst '>' cs = cut at hcut hr
  generalize Text.splitFirst '>' cs' = cut' at hcut ⊢
  cases hcut with
  | none => cases hr
  | @some a b h =>
    obtain ⟨name, t⟩ := a
    obtain ⟨_, t'⟩ := b
    obtain ⟨rfl, hf⟩ := h
    cases name with
    | nil => cases hr
    | cons c name =>
      dsimp only at hf hr ⊢
      split at hr
      · rename_i valid
        rw [if_pos valid]
        cases hr
        exact ⟨_, rfl, hf⟩
      · cases hr

theorem steady_readFlags (seen : List Char) (on : Bool) (flags : Flags) : Steady (readFlags seen on flags) := by
  intro cs cs' a r hf hr
  induction hf generalizing seen on flags with
  | taken => cases hr
  | closed => cases hr
  | cons c hf ih =>
    simp only [readFlags] at hr ⊢
    split at hr
    · rename_i stop
      rw [if_pos stop]
      split at hr
      · cases hr
      · rename_i whole
        rw [if_neg whole]
        cases hr
        exact ⟨_, rfl, hf.cons c⟩
    · rename_i stop
      rw [if_neg stop]
      split at hr
      · cases hr
      · rename_i fresh
        rw [if_neg fresh]
        split at hr
        · rename_i negated
          rw [if_pos negated]
          exact ih _ _ _ hr
        · rename_i negated
          rw [if_neg negated]
          split at hr
          · exact ih _ _ _ hr
          · cases hr

/-- What is no look-around is none when the text goes on. -/
theorem isLookAround_followed {cs cs' : List Char} (hf : Followed cs cs') (h : isLookAround cs = false) :
    isLookAround cs' = false := by
  unfold isLookAround
  split
  · cases hf with
    | cons _ hf =>
      cases hf with
      | cons _ hf => cases h
  · cases hf with
    | cons _ hf =>
      cases hf with
      | cons _ hf => cases h
  · cases hf with
    | cons _ hf =>
      cases hf with
      | cons _ hf =>
        cases hf with
        | cons _ hf => cases h
  · cases hf with
    | cons _ hf =>
      cases hf with
      | cons _ hf =>
        cases hf with
        | cons _ hf => cases h
  · rfl

/-- The flags at the start of a group or of a directive. -/
theorem steady_flagged : Steady fun r =>
    match readFlags [] true flags r with
    | .ok ((inner, _), ':' :: r) => .ok (GroupStart.plain inner, r)
    | .ok ((inner, isEmpty), ')' :: r) => if isEmpty then .error .missingOperand else .ok (.directive inner, r)
    | .ok _ => .error .badFlag
    | .error e => .error e := by
  intro cs cs' a r hf hr
  dsimp only at hr ⊢
  cases hread : readFlags [] true flags cs with
  | error e =>
    rw [hread] at hr
    cases hr
  | ok found =>
    obtain ⟨⟨inner, isEmpty⟩, rest⟩ := found
    obtain ⟨rest', hread', hf⟩ := steady_readFlags [] true flags hf hread
    rw [hread] at hr
    rw [hread']
    cases hf with
    | taken => cases hr
    | closed => cases hr
    | cons c hf =>
      by_cases colon : c = ':'
      · subst colon
        cases hr
        exact ⟨_, rfl, hf⟩
      by_cases close : c = ')'
      · subst close
        simp only at hr ⊢
        split at hr
        · cases hr
        · rename_i some
          rw [if_neg some]
          cases hr
          exact ⟨_, rfl, hf⟩
      · simp only [List.cons.injEq, Prod.mk.injEq, colon, close, false_and, and_false, imp_self, implies_true] at hr
        cases hr

theorem steady_readGroupStart : Steady (readGroupStart flags) := by
  intro cs cs' a r hf hr
  have hf := hf.skipBlanks flags
  simp only [readGroupStart] at hr ⊢
  generalize skipBlanks flags cs = t at hf hr
  generalize skipBlanks flags cs' = t' at hf ⊢
  split at hr
  · cases hr
  · rename_i around
    rw [if_neg (Bool.eq_false_iff.1 (isLookAround_followed hf (eq_false_of_ne_true around)))]
    split at hr
    · cases hf with
      | cons _ hf =>
        cases hf with
        | cons _ hf =>
          cases hf with
          | cons _ hf => exact steady_readGroupName.map (fun name => GroupStart.capture (some name)) hf hr
    · cases hf with
      | cons _ hf =>
        cases hf with
        | cons _ hf => exact steady_readGroupName.map (fun name => GroupStart.capture (some name)) hf hr
    · rename_i u unnamed unnamed'
      cases hf with
      | @cons _ _ u' hf =>
        -- no name starts here when the text goes on
        split
        · rename_i heq
          obtain rfl := (List.cons.inj heq).2
          cases hf with
          | cons _ hf =>
            cases hf with
            | cons _ hf => exact (unnamed _ rfl).elim
        · rename_i heq
          obtain rfl := (List.cons.inj heq).2
          cases hf with
          | cons _ hf => exact (unnamed' _ rfl).elim
        · rename_i heq
          obtain rfl := (List.cons.inj heq).2
          exact steady_flagged hf hr
        · rename_i none
          exact (none _ rfl).elim
    · rename_i none
      have mark : t.head? ≠ some '?' := by
        intro h
        obtain ⟨u, rfl⟩ := List.head?_eq_some_iff.1 h
        exact none u rfl
      have mark' := (not_congr (hf.head?_eq_some_iff (by decide))).2 mark
      split
      · exact absurd rfl mark'
      · exact absurd rfl mark'
      · exact absurd rfl mark'
      · cases hr
        exact ⟨_, rfl, hf⟩

theorem readGreed_followed (flags : Flags) {cs cs' : List Char} (hf : Followed cs cs') :
    (readGreed flags cs').1 = (readGreed flags cs).1 ∧ Followed (readGreed flags cs).2 (readGreed flags cs').2 := by
  cases hf with
  | taken => exact ⟨rfl, .taken⟩
  | closed => exact ⟨rfl, .closed⟩
  | cons c hf =>
    by_cases hc : c = '?'
    · subst hc
      exact ⟨rfl, hf⟩
    · simp only [readGreed, List.cons.injEq, hc, false_and, imp_self, implies_true, true_and]
      exact hf.cons c

theorem steady_readCounted (min : Nat) (max : Option Nat) : Steady (readCounted flags min max) := by
  intro cs cs' a r hf hr
  obtain ⟨same, hf⟩ := readGreed_followed flags hf
  simp only [readCounted] at hr ⊢
  cases hr
  rw [same]
  exact ⟨_, rfl, hf⟩

/-- A token is read in both. -/
theorem steady_readToken (captures : Captures) : Steady (readToken flags captures) := by
  intro cs cs' token r hf hr
  have hf := hf.skipBlanks flags
  simp only [readToken] at hr ⊢
  generalize skipBlanks flags cs = t at hf hr
  generalize skipBlanks flags cs' = t' at hf ⊢
  split at hr
  case h_1 =>
    cases hr
    cases hf with
    | taken => exact ⟨_, rfl, .taken⟩
    | closed => exact ⟨_, rfl, .closed⟩
  -- otherwise both go on with the same character
  all_goals
    obtain ⟨u', rfl, next⟩ := hf.of_cons
    simp only
  · cases hr
    exact ⟨_, rfl, next.cons _⟩
  · cases hr
    exact ⟨_, rfl, next⟩
  · exact steady_readCounted 0 (some 1) next hr
  · exact steady_readCounted 0 none next hr
  · exact steady_readCounted 1 none next hr
  · exact steady_readCount.bind (fun bounds => (steady_readCounted bounds.1 bounds.2).skip flags) next hr
  · have fuel : Steady fun r => readClass flags (2 * r.length + 2) r := fun _ _ _ _ hf =>
      (agree_readClass _).1 _ (Nat.add_le_add_right (Nat.mul_le_mul_left 2 hf.length_le) 2) hf
    exact fuel.map (fun s => Token.part (.chars s)) next hr
  · exact steady_readEscape.map (fun a => Token.part (a.pattern flags)) next hr
  · split at hr
    · cases hr
    · rename_i ascii
      rw [if_neg ascii]
      cases hr
      exact ⟨_, rfl, next⟩
  · cases hr
    exact ⟨_, rfl, next⟩
  · cases hr
    exact ⟨_, rfl, next⟩
  · refine steady_readGroupStart.bind (fun start => ?_) next hr
    simp only
    cases start.token flags captures with
    | error e => exact .error e
    | ok token => exact .ok token
  · cases hr
    exact ⟨_, rfl, next⟩

end TypedWiki.Pattern
