import PanelForms.FieldRef.Json
import PanelForms.Proofs.Except
import PanelForms.Proofs.Json.Quoting

/-!
# References and their texts

The first point of a text decides how it is read: what stands before it is the model, what stands
behind it is the field, further points included.  A text is a reference exactly if both are there,
and then it is the text of the reference that it denotes; a pair of names is found again in its text
exactly if the model is not empty and has no point and the field is not empty.

Main definitions:

- `FieldRef.FirstPoint`: a text taken apart at its first point.
- `FieldRef.Reads`: how a text is read, case by case.

Main results:

- Theorem `FieldRef.splitAtPoint_eq_some_iff`: the scanner finds the first point.
- Theorem `FieldRef.parse_eq_iff`: a text is read as the cases say.
- Theorem `FieldRef.parse_text_iff`: which pairs of names their text denotes.
- Theorem `FieldRef.texts_correspond`: references and their texts correspond one to one.
-/

namespace PanelForms
namespace FieldRef

/-! ## The first point -/

/-- The two parts of a text before and behind its first point. -/
structure FirstPoint (text before after : String) : Prop where
  text_eq : text = before ++ "." ++ after
  first : '.' ∉ before.toList

/-- A text cannot be split exactly if it holds no point. -/
theorem splitAtPoint_eq_none_iff {cs : List Char} : splitAtPoint cs = none ↔ '.' ∉ cs := by
  induction cs with
  | nil => simp [splitAtPoint]
  | cons c cs ih =>
    by_cases hc : c = '.'
    · simp [splitAtPoint, hc]
    · simp [splitAtPoint, hc, ih, Ne.symm hc]

/-- A text is split at its first point. -/
theorem splitAtPoint_eq_some_iff {text : String} {before after : List Char} :
    splitAtPoint text.toList = some (before, after) ↔
      FirstPoint text (String.ofList before) (String.ofList after) := by
  constructor
  · intro h
    obtain ⟨hchars, hfirst⟩ := splitAtPoint_eq_some h
    refine ⟨?_, by simpa using hfirst⟩
    apply String.toList_injective
    simp [hchars]
  · intro h
    have hchars : text.toList = before ++ '.' :: after := by simp [h.text_eq]
    rw [hchars]
    exact splitAtPoint_append before after (by simpa using h.first)

/-- A text without a first point has no point at all. -/
theorem not_mem_or_firstPoint (text : String) :
    '.' ∉ text.toList ∨ ∃ before after, FirstPoint text before after := by
  cases hsplit : splitAtPoint text.toList with
  | none => exact Or.inl (splitAtPoint_eq_none_iff.1 hsplit)
  | some parts =>
    obtain ⟨before, after⟩ := parts
    exact Or.inr ⟨_, _, splitAtPoint_eq_some_iff.1 hsplit⟩

/-! ## Reading -/

/-- How a text is read.  If several things are wrong with it, the missing point is reported before
the missing model, and that before the missing field. -/
inductive Reads (text : String) : Except FieldRefError FieldRef → Prop where
  | missingSeparator (hpoint : '.' ∉ text.toList) : Reads text (.error (.missingSeparator text))
  | emptyModel {field : String} (hpoint : FirstPoint text "" field) :
      Reads text (.error (.emptyModel text))
  | emptyField {model : String} (hpoint : FirstPoint text model "") (hmodel : model ≠ "") :
      Reads text (.error (.emptyField text))
  | ref {model field : String} (hpoint : FirstPoint text model field) (hmodel : model ≠ "")
      (hfield : field ≠ "") : Reads text (.ok ⟨model, field⟩)

/-- A text without a point is refused for that. -/
theorem parse_of_not_mem {text : String} (h : '.' ∉ text.toList) :
    parse text = .error (.missingSeparator text) := by
  rw [parse, splitAtPoint_eq_none_iff.2 h]

/-- Once a text is split, only an empty part is left to refuse, the model before the field. -/
theorem parse_of_firstPoint {text model field : String} (h : FirstPoint text model field) :
    parse text =
      if model = "" then .error (.emptyModel text)
      else if field = "" then .error (.emptyField text)
      else .ok ⟨model, field⟩ := by
  have hsplit : splitAtPoint text.toList = some (model.toList, field.toList) := by
    rw [splitAtPoint_eq_some_iff, String.ofList_toList, String.ofList_toList]
    exact h
  simp only [parse, hsplit, List.isEmpty_iff, String.toList_eq_nil_iff, String.ofList_toList]

/-- A text is read as the cases say. -/
theorem parse_eq_iff {text : String} {result : Except FieldRefError FieldRef} :
    parse text = result ↔ Reads text result := by
  constructor
  · rintro rfl
    rcases not_mem_or_firstPoint text with hnone | ⟨model, field, hpoint⟩
    · rw [parse_of_not_mem hnone]
      exact .missingSeparator hnone
    · rw [parse_of_firstPoint hpoint]
      by_cases hmodel : model = ""
      · rw [if_pos hmodel]
        exact .emptyModel (hmodel ▸ hpoint)
      · by_cases hfield : field = ""
        · rw [if_neg hmodel, if_pos hfield]
          exact .emptyField (hfield ▸ hpoint) hmodel
        · rw [if_neg hmodel, if_neg hfield]
          exact .ref hpoint hmodel hfield
  · intro h
    cases h with
    | missingSeparator hnone => exact parse_of_not_mem hnone
    | emptyModel hpoint => rw [parse_of_firstPoint hpoint, if_pos rfl]
    | emptyField hpoint hmodel => rw [parse_of_firstPoint hpoint, if_neg hmodel, if_pos rfl]
    | ref hpoint hmodel hfield => rw [parse_of_firstPoint hpoint, if_neg hmodel, if_neg hfield]

/-- The texts that are read as a reference are those with two parts around their first point. -/
theorem parse_eq_ok_iff {text : String} {r : FieldRef} :
    parse text = .ok r ↔ FirstPoint text r.model r.field ∧ r.model ≠ "" ∧ r.field ≠ "" := by
  rw [parse_eq_iff]
  constructor
  · intro h
    cases h with
    | ref hpoint hmodel hfield => exact ⟨hpoint, hmodel, hfield⟩
  · intro h
    exact .ref h.1 h.2.1 h.2.2

/-! ## Writing -/

/-- What a text denotes is written as that text. -/
theorem text_of_parse {text : String} {r : FieldRef} (h : parse text = .ok r) : r.text = text :=
  (parse_eq_ok_iff.1 h).1.text_eq.symm

/-- The text of a reference denotes it exactly if its model is not empty and has no point and its
field is not empty. -/
theorem parse_text_iff {r : FieldRef} :
    parse r.text = .ok r ↔ r.model ≠ "" ∧ '.' ∉ r.model.toList ∧ r.field ≠ "" := by
  rw [parse_eq_ok_iff]
  constructor
  · intro h
    exact ⟨h.2.1, h.1.first, h.2.2⟩
  · intro h
    exact ⟨⟨rfl, h.2.1⟩, h.1, h.2.2⟩

/-- Read from the value that it is written as, a reference is what is read from its text. -/
theorem ofJson_toJson (r : FieldRef) : ofJson r.toJson = (parse r.text).mapError .malformed :=
  rfl

/-- A text denotes a reference exactly if its first point has something before it and something
behind it.  The reference is then written as the text again, also in JSON, and its model has no
point, so no other text denotes it; otherwise the first of the three faults that applies is
reported.  A pair of names is found again in its text exactly if the model is not empty and has no
point and the field is not empty. -/
theorem texts_correspond :
    (∀ text, (∃ r, parse text = .ok r) ↔
      ∃ before after, FirstPoint text before after ∧ before ≠ "" ∧ after ≠ "") ∧
    (∀ text result, parse text = result ↔ Reads text result) ∧
    (∀ text r, parse text = .ok r → r.text = text ∧ '.' ∉ r.model.toList) ∧
    (∀ model field, parse (mk model field).text = .ok ⟨model, field⟩ ↔
      model ≠ "" ∧ '.' ∉ model.toList ∧ field ≠ "") ∧
    (∀ text r, parse text = .ok r →
      ofJson r.toJson = .ok r ∧ Json.parse r.toJson.text = .ok r.toJson) ∧
    ∀ text text' r, parse text = .ok r → parse text' = .ok r → text = text' := by
  refine ⟨?_, fun _ _ => parse_eq_iff, ?_, fun _ _ => parse_text_iff, ?_, ?_⟩
  · intro text
    constructor
    · rintro ⟨r, hr⟩
      exact ⟨r.model, r.field, parse_eq_ok_iff.1 hr⟩
    · rintro ⟨before, after, hparts⟩
      exact ⟨⟨before, after⟩, parse_eq_ok_iff.2 hparts⟩
  · intro text r hr
    exact ⟨text_of_parse hr, (parse_eq_ok_iff.1 hr).1.first⟩
  · intro text r hr
    constructor
    · rw [ofJson_toJson, text_of_parse hr, hr]
      rfl
    · exact Json.parse_text_string r.text
  · intro text text' r hr hr'
    exact (text_of_parse hr).symm.trans (text_of_parse hr')

/-- A point in the field part is kept on both ways. -/
theorem texts_correspond_latticeElement :
    parse "lattice.elements.0" = .ok ⟨"lattice", "elements.0"⟩ ∧
      (text ⟨"lattice", "elements.0"⟩ = "lattice.elements.0" ∧ '.' ∉ "lattice".toList) ∧
      (ofJson (toJson ⟨"lattice", "elements.0"⟩) = .ok ⟨"lattice", "elements.0"⟩ ∧
        Json.parse (toJson ⟨"lattice", "elements.0"⟩).text =
          .ok (toJson ⟨"lattice", "elements.0"⟩)) ∧
      ∀ text', parse text' = .ok ⟨"lattice", "elements.0"⟩ → "lattice.elements.0" = text' := by
  have hparse : parse "lattice.elements.0" = .ok ⟨"lattice", "elements.0"⟩ := by decide +kernel
  obtain ⟨-, -, hwritten, -, hjson, hunique⟩ := texts_correspond
  exact ⟨hparse, hwritten _ _ hparse, hjson _ _ hparse, fun _ => hunique _ _ _ hparse⟩

end FieldRef
end PanelForms
