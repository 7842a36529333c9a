import PanelForms.Field.Wire
import PanelForms.Proofs.Field.NumericText

/-!
# Accepted values and their wire form

Acceptance and encoding read the text of a value in two separate ways: an integer is accepted only
as it stands and encoded after trimming, and a missing value is encoded whether or not it may be
missing.  This module shows that they agree where a commit relies on it.

Main results:

- Definition `FieldType.Encodes`: a value has a wire form.
- Theorem `trim_of_integerOf?`: the text of an integer is not padded.
- Theorem `FieldType.encodes_null`: a missing value has a wire form.
- Theorem `FieldType.encodes_of_validates`: every accepted value has a wire form.
-/

namespace PanelForms

/-! ## The text of an integer -/

/-- The text of an integer is not padded. -/
theorem trim_of_integerOf? {text : String} {n : Int} (h : integerOf? text = some n) :
    Text.trim text = text := by
  obtain ⟨hread, -⟩ := Option.filter_eq_some_iff.1 h
  obtain ⟨l, htext, -⟩ := Number.readInteger?_eq_some_iff.1 hread
  rw [Text.trim, ← htext, l.trimChars_text, htext, String.ofList_toList]

/-! ## Which values have a wire form -/

namespace FieldType

/-- The value has a wire form. -/
def Encodes (t : FieldType) (v : Json) : Prop :=
  ∃ wire, t.encode v = .ok wire

variable {t : FieldType} {v : Json}

/-- A missing value has a wire form, also where it may not be missing. -/
theorem encodes_null (t : FieldType) : t.Encodes .null := by
  obtain ⟨kind, required⟩ := t
  cases kind <;> exact ⟨_, rfl⟩

/-- A value whose text is blank is encoded. -/
theorem encodes_of_missing {text : String} (htext : v.scalarText? = some text)
    (hblank : Text.isBlankText text = true) : t.Encodes v := by
  obtain ⟨kind, required⟩ := t
  cases kind <;>
    simp [Encodes, encode, encodeNumber, numericText, encodeFlag, htext, hblank, Except.map]

/-- A value whose text passes the check is encoded. -/
theorem encodes_of_checkText {text : String} (htext : v.scalarText? = some text)
    (hblank : Text.isBlankText text = false) (hcheck : t.checkText v text = none) :
    t.Encodes v := by
  obtain ⟨kind, required⟩ := t
  cases kind with
  | text | file | choice | computed => exact ⟨_, rfl⟩
  | float =>
    have hread : NumericPattern.float.occursIn text = true ∧ floatOf? (Text.trim text) ≠ none := by
      simpa [checkText] using hcheck
    obtain ⟨x, hx⟩ := Option.ne_none_iff_exists'.1 hread.2
    exact ⟨.number (.float x), by simp [encode, encodeNumber, numericText, htext, hblank, hx]⟩
  | integer =>
    have hread : NumericPattern.integer.occursIn text = true ∧ integerOf? text ≠ none := by
      simpa [checkText] using hcheck
    obtain ⟨n, hn⟩ := Option.ne_none_iff_exists'.1 hread.2
    -- The encoder trims the text first, which changes nothing here.
    have htrim : Text.trim text = text := trim_of_integerOf? hn
    exact ⟨.number (.integer n),
      by simp [encode, encodeNumber, numericText, htext, hblank, htrim, hn]⟩
  | boolean =>
    have hsome : v.flag? ≠ none := by
      simpa [checkText] using hcheck
    obtain ⟨b, hb⟩ := Option.ne_none_iff_exists'.1 hsome
    exact ⟨.string (if b then "1" else "0"),
      by simp [encode, encodeFlag, htext, hblank, hb, Except.map]⟩

/-- Every accepted value has a wire form. -/
theorem encodes_of_validates (h : t.validates v = true) : t.Encodes v := by
  have hcheck : t.check v = none := by simpa [validates] using h
  unfold check at hcheck
  split at hcheck
  next hnone =>
    split at hcheck
    next hnull =>
      cases v with
      | null => exact t.encodes_null
      | _ => cases hnull
    next => cases hcheck
  next text htext =>
    cases hblank : Text.isBlankText text with
    | true => exact encodes_of_missing htext hblank
    | false =>
      rw [hblank] at hcheck
      exact encodes_of_checkText htext hblank hcheck

end FieldType
end PanelForms
