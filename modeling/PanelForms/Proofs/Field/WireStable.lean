import PanelForms.Proofs.Except
import PanelForms.Proofs.Field.WireForm
import PanelForms.Proofs.Number.Nearest

/-!
# Wire forms are settled

Encoding changes a value at most once: what is sent is itself read as what it was sent for.  For
numbers this goes through their text, which is a literal of the number and so is not padded.

Main results:

- Definition `FieldType.IsWire`: the values that a type sends.
- Theorem `FieldType.IsWire.encode`: what a type sends is its own wire form.
- Theorems `FieldType.encode_encode` and `FieldType.validates_encode`: encoding twice changes
  nothing more, and what is made of an accepted value is accepted.
-/

namespace PanelForms

/-! ## The text of a number -/

/-- A text that is not blank and is not padded. -/
structure Text.Tight (text : String) : Prop where
  trim : Text.trim text = text
  notBlank : Text.isBlankText text = false

/-- A text without blanks, and not empty, is tight. -/
theorem Text.tight_of_not_blank {text : String} (hne : text.toList ≠ [])
    (h : ∀ c ∈ text.toList, isBlank c = false) : Tight text where
  trim := by rw [Text.trim, trimChars_eq_self h, String.ofList_toList]
  notBlank := by
    obtain ⟨c, rest, hcons⟩ := List.exists_cons_of_ne_nil hne
    rw [hcons] at h
    simp [isBlankText, hcons, h c List.mem_cons_self]

namespace JsonNumber

/-- A finite number is read back from its text. -/
theorem floatOf?_text (x : Binary64) : floatOf? (JsonNumber.float x).text = some x := by
  rw [floatOf?, text, String.toList_ofList, Number.bind_finite?_readFloat?,
    Number.DecimalStyle.readBinary64?_shortest]

/-- An integer that a field can hold is read back from its text. -/
theorem integerOf?_text {n : Int} (h : fitsInteger n = true) :
    integerOf? (JsonNumber.integer n).text = some n := by
  rw [integerOf?, text, Number.readInteger?_integerText, Option.filter_some, if_pos h]

/-- The text of an integer is an integer literal. -/
theorem exists_integerLiteral (n : Int) :
    ∃ l : Number.IntegerLiteral, l.text = (JsonNumber.integer n).text.toList := by
  obtain ⟨l, htext, -⟩ := Number.readInteger?_eq_some_iff.1 (Number.readInteger?_integerText n)
  exact ⟨l, htext⟩

/-- The text of a finite number is a floating literal. -/
theorem exists_floatLiteral (x : Binary64) :
    ∃ l : Number.FloatLiteral, l.text = (JsonNumber.float x).text.toList := by
  have hread := floatOf?_text x
  rw [floatOf?, Number.bind_finite?_readFloat?, Number.readBinary64?] at hread
  obtain ⟨d, hd, -⟩ := Option.bind_eq_some_iff.1 hread
  obtain ⟨l, htext, -⟩ := Number.Decimal.read?_eq_some_iff.1 hd
  exact ⟨l, htext⟩

/-- The text of a number is not padded. -/
theorem tight_text (n : JsonNumber) : Text.Tight n.text := by
  cases n with
  | integer n =>
    obtain ⟨l, htext⟩ := exists_integerLiteral n
    exact Text.tight_of_not_blank (htext ▸ l.text_ne_nil) (htext ▸ l.not_isBlank)
  | float x =>
    obtain ⟨l, htext⟩ := exists_floatLiteral x
    exact Text.tight_of_not_blank (htext ▸ l.text_ne_nil) (htext ▸ l.not_isBlank)

/-- The integer pattern allows the text of every integer. -/
theorem integer_occursIn_text (n : Int) :
    NumericPattern.integer.occursIn (JsonNumber.integer n).text = true :=
  (NumericPattern.integer_occursIn_iff _).2 (exists_integerLiteral n)

/-- The floating pattern allows the text of every finite number. -/
theorem float_occursIn_text (x : Binary64) :
    NumericPattern.float.occursIn (JsonNumber.float x).text = true := by
  obtain ⟨l, htext⟩ := exists_floatLiteral x
  refine (NumericPattern.float_occursIn_iff_trim _).2 ⟨l, ?_⟩
  rw [← htext, l.trimChars_text]

end JsonNumber

/-! ## What is sent -/

namespace FieldType

variable {t : FieldType} {v wire : Json}

/-- The values that a type sends. -/
inductive IsWire : FieldType → Json → Prop where
  | text {required : Bool} (v : Json) : IsWire ⟨.text, required⟩ v
  | file {required : Bool} {pattern : Option FilePattern} (v : Json) :
      IsWire ⟨.file pattern, required⟩ v
  | choice {required : Bool} {allowed : List Choice} (v : Json) :
      IsWire ⟨.choice allowed, required⟩ v
  | computed {required : Bool} {source : ComputeSource} (v : Json) :
      IsWire ⟨.computed source, required⟩ v
  | flag {required : Bool} (b : Bool) :
      IsWire ⟨.boolean, required⟩ (.string (if b then "1" else "0"))
  | noFloat {required : Bool} : IsWire ⟨.float, required⟩ .null
  | float {required : Bool} (x : Binary64) : IsWire ⟨.float, required⟩ (.number (.float x))
  | noInteger {required : Bool} : IsWire ⟨.integer, required⟩ .null
  | integer {required : Bool} {n : Int} (h : fitsInteger n = true) :
      IsWire ⟨.integer, required⟩ (.number (.integer n))

/-- A numeric value is encoded as null or as the number that its text is read as. -/
theorem encodeNumber_eq_ok {read : String → Option JsonNumber}
    (h : t.encodeNumber read v = .ok wire) :
    wire = .null ∨ ∃ text n, read text = some n ∧ wire = .number n := by
  unfold encodeNumber at h
  split at h
  · cases h
  · cases h
    exact Or.inl rfl
  · next text _ =>
    split at h
    · next n hread =>
      cases h
      exact Or.inr ⟨text, n, hread, rfl⟩
    · cases h

/-- A number is sent as itself if it is read from its own text. -/
theorem encodeNumber_number {read : String → Option JsonNumber} {n : JsonNumber}
    (h : read n.text = some n) (t : FieldType) :
    t.encodeNumber read (.number n) = .ok (.number n) := by
  obtain ⟨htrim, hblank⟩ := n.tight_text
  simp [encodeNumber, numericText, Json.scalarText?, htrim, hblank, h]

/-- What is sent is one of the values that the type sends. -/
theorem isWire_of_encode (h : t.encode v = .ok wire) : t.IsWire wire := by
  obtain ⟨kind, required⟩ := t
  cases kind with
  | text => exact .text _
  | file => exact .file _
  | choice => exact .choice _
  | computed => exact .computed _
  | boolean =>
    obtain ⟨b, -, rfl⟩ := Except.map_eq_ok_iff.1 h
    exact .flag b
  | float =>
    rcases encodeNumber_eq_ok h with rfl | ⟨text, n, hread, rfl⟩
    · exact .noFloat
    · obtain ⟨x, -, rfl⟩ := Option.map_eq_some_iff.1 hread
      exact .float x
  | integer =>
    rcases encodeNumber_eq_ok h with rfl | ⟨text, n, hread, rfl⟩
    · exact .noInteger
    · obtain ⟨n, hn, rfl⟩ := Option.map_eq_some_iff.1 hread
      exact .integer (Option.filter_eq_some_iff.1 hn).2

/-- A value that the type sends is its own wire form. -/
theorem IsWire.encode (h : t.IsWire wire) : t.encode wire = .ok wire := by
  cases h with
  | text | file | choice | computed | noFloat | noInteger => rfl
  | flag b => cases b <;> rfl
  | float x =>
    exact encodeNumber_number (by rw [JsonNumber.floatOf?_text, Option.map_some]) _
  | integer hfits =>
    exact encodeNumber_number (by rw [JsonNumber.integerOf?_text hfits, Option.map_some]) _

/-- Encoding twice changes nothing more. -/
theorem encode_encode (h : t.encode v = .ok wire) : t.encode wire = .ok wire :=
  (isWire_of_encode h).encode

/-! ## Acceptance -/

/-- A number is checked by its text, which is never blank. -/
theorem check_number {n : JsonNumber} (t : FieldType) :
    t.check (.number n) = t.checkText (.number n) n.text := by
  simp [check, Json.scalarText?, n.tight_text.notBlank]

/-- A value of which nothing is sent is judged as missing. -/
theorem check_of_encodeNumber_null {read : String → Option JsonNumber}
    (h : t.encodeNumber read v = .ok .null) : t.check v = t.checkMissing := by
  unfold encodeNumber numericText at h
  unfold check
  cases htext : v.scalarText? with
  | none =>
    cases hnull : v.isNull with
    | true => rfl
    | false => simp [htext, hnull] at h
  | some text =>
    cases hblank : Text.isBlankText text with
    | true => simp [hblank]
    | false =>
      simp only [htext, hblank, Bool.false_eq_true, if_false] at h
      split at h <;> cases h

/-- A missing value is accepted if a value is for which nothing is sent. -/
theorem validates_null {read : String → Option JsonNumber}
    (h : t.encodeNumber read v = .ok .null) (hvalid : t.validates v = true) :
    t.validates .null = true := by
  have hmissing : t.check .null = t.checkMissing := rfl
  rw [validates, check_of_encodeNumber_null h] at hvalid
  rw [validates, hmissing, hvalid]

/-- What is sent for an accepted value is accepted. -/
theorem validates_encode (h : t.encode v = .ok wire) (hvalid : t.validates v = true) :
    t.validates wire = true := by
  have hwire := isWire_of_encode h
  cases hwire with
  | text | file | choice | computed =>
    cases h
    exact hvalid
  | flag b => cases b <;> rfl
  | noFloat | noInteger => exact validates_null h hvalid
  | float x =>
    rw [validates, check_number]
    simp [checkText, (JsonNumber.float x).tight_text.trim, JsonNumber.floatOf?_text,
      JsonNumber.float_occursIn_text]
  | integer hfits =>
    rw [validates, check_number]
    simp [checkText, JsonNumber.integerOf?_text hfits, JsonNumber.integer_occursIn_text]

end FieldType
end PanelForms
