import PanelForms.Proofs.Field.WireStable
import PanelForms.Proofs.Number.Overflow

/-!
# What numeric fields accept

Acceptance holds the text of a value against a pattern and reads it; encoding trims the text and
only reads it.  Both come down to the same literals, which gives the texts that numeric fields
accept, and shows that the two part only over the padding of an integer.

Main results:

- Definition `Text.Unpadded`: a text with no blank at either end.
- Theorems `FieldType.integerOf?_eq_some_iff` and `FieldType.floatOf?_ne_none_iff`: the texts that
  are read as a number that a field can hold.
- Theorem `FieldType.acceptance_agrees`: acceptance and encoding agree.
- Theorem `FieldType.numeric_grammar`: the texts that numeric fields accept.
-/

namespace PanelForms

open Number (IntegerLiteral FloatLiteral overflowBound)

/-! ## Texts without padding -/

namespace Text

/-- A text with no blank at either end. -/
structure Unpadded (text : String) : Prop where
  front : ∀ c, text.toList.head? = some c → isBlank c = false
  back : ∀ c, text.toList.getLast? = some c → isBlank c = false

/-- Trimming leaves exactly the unpadded texts as they are. -/
theorem trim_eq_self_iff (text : String) : trim text = text ↔ Unpadded text := by
  rw [trim, ← String.toList_inj, String.toList_ofList, trimChars_eq_self_iff]
  exact ⟨fun h => ⟨h.1, h.2⟩, fun h => ⟨h.front, h.back⟩⟩

end Text

/-! ## Values that are there -/

/-- A value that is neither null nor blank text. -/
structure Json.IsGiven (v : Json) : Prop where
  notNull : v ≠ .null
  notBlank : ∀ s, v = .string s → Text.isBlankText s = false

/-- A value that is there is not null. -/
theorem Json.IsGiven.not_isNull {v : Json} (h : v.IsGiven) : v.isNull = false := by
  cases v with
  | null => exact absurd rfl h.notNull
  | _ => rfl

/-- The text of a value that is there is not blank. -/
theorem Json.IsGiven.text_not_blank {v : Json} {text : String} (h : v.IsGiven)
    (htext : v.scalarText? = some text) : Text.isBlankText text = false := by
  cases v with
  | string s =>
    cases htext
    exact h.notBlank _ rfl
  | number n =>
    cases htext
    exact n.tight_text.notBlank
  | bool b =>
    cases htext
    cases b <;> decide
  | null | array | object => cases htext

/-! ## Texts of numbers that a field can hold -/

/-- The texts that are read as an integer that a field can hold. -/
theorem integerOf?_eq_some_iff {text : String} {n : Int} :
    integerOf? text = some n ↔
      ∃ l : IntegerLiteral, l.text = text.toList ∧ l.value = n ∧ fitsInteger n = true := by
  rw [integerOf?, Option.filter_eq_some_iff, Number.readInteger?_eq_some_iff]
  constructor
  · rintro ⟨⟨l, htext, hvalue⟩, hfits⟩
    exact ⟨l, htext, hvalue, hfits⟩
  · rintro ⟨l, htext, hvalue, hfits⟩
    exact ⟨⟨l, htext, hvalue⟩, hfits⟩

/-- The texts that are read as a finite number. -/
theorem floatOf?_eq_some_iff {text : String} {x : Binary64} :
    floatOf? text = some x ↔
      ∃ l : FloatLiteral, l.text = text.toList ∧ l.toDecimal.nearest? = some x := by
  rw [floatOf?, Number.bind_finite?_readFloat?, Number.readBinary64?, Option.bind_eq_some_iff]
  simp only [Number.Decimal.read?_eq_some_iff]
  constructor
  · rintro ⟨_, ⟨l, htext, rfl⟩, hnearest⟩
    exact ⟨l, htext, hnearest⟩
  · rintro ⟨l, htext, hnearest⟩
    exact ⟨_, ⟨l, htext, rfl⟩, hnearest⟩

/-- A literal is read as a finite number if it is below the bound of these. -/
theorem floatOf?_ne_none_iff {text : String} :
    floatOf? text ≠ none ↔
      ∃ l : FloatLiteral, l.text = text.toList ∧ l.magnitude < overflowBound := by
  simp only [Option.ne_none_iff_exists', floatOf?_eq_some_iff, ← FloatLiteral.value_toDecimal,
    ← Number.Decimal.nearest?_isSome_iff, Option.isSome_iff_exists]
  constructor
  · rintro ⟨x, l, htext, hnearest⟩
    exact ⟨l, htext, x, hnearest⟩
  · rintro ⟨l, htext, x, hnearest⟩
    exact ⟨x, l, htext, hnearest⟩

namespace FieldType

variable {t : FieldType} {required : Bool} {v : Json} {text : String}

/-! ## The verdict on numeric text -/

/-- Integer text is accepted as it stands. -/
theorem checkText_integer_iff :
    (⟨.integer, required⟩ : FieldType).checkText v text = none ↔ integerOf? text ≠ none := by
  have hpattern : integerOf? text ≠ none → NumericPattern.integer.occursIn text = true := by
    intro hread
    obtain ⟨n, hn⟩ := Option.ne_none_iff_exists'.1 hread
    obtain ⟨l, htext, -⟩ := integerOf?_eq_some_iff.1 hn
    exact (NumericPattern.integer_occursIn_iff text).2 ⟨l, htext⟩
  simpa [checkText] using hpattern

/-- Floating text is accepted with its padding. -/
theorem checkText_float_iff :
    (⟨.float, required⟩ : FieldType).checkText v text = none ↔
      floatOf? (Text.trim text) ≠ none := by
  have hpattern : floatOf? (Text.trim text) ≠ none → NumericPattern.float.occursIn text = true := by
    intro hread
    obtain ⟨l, htext, -⟩ := floatOf?_ne_none_iff.1 hread
    exact (NumericPattern.float_occursIn_iff_trim text).2 ⟨l, by simpa [Text.trim] using htext⟩
  simpa [checkText] using hpattern

/-- A value that is there is judged by its text. -/
theorem validates_of_isGiven (htext : v.scalarText? = some text)
    (hgiven : v.IsGiven) : t.validates v = true ↔ t.checkText v text = none := by
  simp [validates, check, htext, hgiven.text_not_blank htext]

/-! ## The wire form of numeric text -/

/-- A value that is there has a number for its wire form if its trimmed text is read as one. -/
theorem encodeNumber_isGiven {read : String → Option JsonNumber} (hgiven : v.IsGiven) :
    (∃ wire, t.encodeNumber read v = .ok wire) ↔
      ∃ text, v.scalarText? = some text ∧ read (Text.trim text) ≠ none := by
  unfold encodeNumber numericText
  cases htext : v.scalarText? with
  | none => simp [hgiven.not_isNull]
  | some text =>
    cases hread : read (Text.trim text) with
    | none => simp [hgiven.text_not_blank htext, hread]
    | some n => simp [hgiven.text_not_blank htext, hread]

/-- A value is encoded as an integer exactly if its text without padding is read as one. -/
theorem encodes_integer_iff (hgiven : v.IsGiven) :
    (⟨.integer, required⟩ : FieldType).Encodes v ↔
      ∃ text, v.scalarText? = some text ∧ integerOf? (Text.trim text) ≠ none := by
  refine (encodeNumber_isGiven hgiven).trans ?_
  simp

/-- A value is encoded as a number exactly if its text without padding is read as one. -/
theorem encodes_float_iff (hgiven : v.IsGiven) :
    (⟨.float, required⟩ : FieldType).Encodes v ↔
      ∃ text, v.scalarText? = some text ∧ floatOf? (Text.trim text) ≠ none := by
  refine (encodeNumber_isGiven hgiven).trans ?_
  simp

/-- A value is encoded as a flag exactly if it has a text and is a flag. -/
theorem encodes_boolean_iff (hgiven : v.IsGiven) :
    (⟨.boolean, required⟩ : FieldType).Encodes v ↔
      ∃ text, v.scalarText? = some text ∧ v.flag? ≠ none := by
  unfold Encodes encode encodeFlag
  dsimp only
  cases htext : v.scalarText? with
  | none => simp [hgiven.not_isNull, Except.map]
  | some text =>
    cases hflag : v.flag? with
    | none => simp [hgiven.text_not_blank htext, Except.map]
    | some b => simp [hgiven.text_not_blank htext, Except.map]

/-! ## Agreement -/

/-- Acceptance and encoding agree on a value: what is accepted has a wire form, and a value that is
there and has one is accepted, an integer only if its text is not padded. -/
structure Agrees (t : FieldType) (v : Json) : Prop where
  encodes : t.validates v = true → t.Encodes v
  floatOrFlag : t.kind = .float ∨ t.kind = .boolean → v.IsGiven → t.Encodes v →
    t.validates v = true
  integer : t.kind = .integer → v.IsGiven → t.Encodes v →
    ∃ text, v.scalarText? = some text ∧ (t.validates v = true ↔ Text.Unpadded text)

/-- Numbers and flags are accepted whenever they are encoded: their pattern allows padding. -/
theorem validates_of_encodes (hkind : t.kind = .float ∨ t.kind = .boolean) (hgiven : v.IsGiven)
    (h : t.Encodes v) : t.validates v = true := by
  obtain ⟨kind, required⟩ := t
  rcases hkind with rfl | rfl
  · obtain ⟨text, htext, hread⟩ := (encodes_float_iff hgiven).1 h
    exact (validates_of_isGiven htext hgiven).2 (checkText_float_iff.2 hread)
  · obtain ⟨text, htext, hflag⟩ := (encodes_boolean_iff hgiven).1 h
    exact (validates_of_isGiven htext hgiven).2 (by simpa [checkText] using hflag)

/-- An integer with a wire form is accepted if its text is not padded. -/
theorem validates_integer_iff_unpadded (hgiven : v.IsGiven)
    (h : (⟨.integer, required⟩ : FieldType).Encodes v) :
    ∃ text, v.scalarText? = some text ∧
      ((⟨.integer, required⟩ : FieldType).validates v = true ↔ Text.Unpadded text) := by
  obtain ⟨text, htext, hread⟩ := (encodes_integer_iff hgiven).1 h
  refine ⟨text, htext, ?_⟩
  rw [validates_of_isGiven htext hgiven, checkText_integer_iff, ← Text.trim_eq_self_iff]
  constructor
  · intro hplain
    obtain ⟨n, hn⟩ := Option.ne_none_iff_exists'.1 hplain
    exact trim_of_integerOf? hn
  · intro htrim
    rwa [htrim] at hread

/-- Acceptance and encoding agree, for every type and every value. -/
theorem acceptance_agrees (t : FieldType) (v : Json) : t.Agrees v where
  encodes := encodes_of_validates
  floatOrFlag := validates_of_encodes
  integer := by
    obtain ⟨kind, required⟩ := t
    rintro rfl
    exact validates_integer_iff_unpadded

/-- A padded integer is sent, and is not accepted. -/
theorem acceptance_agrees_padded :
    (⟨.integer, true⟩ : FieldType).Encodes (.string " 7") ∧
      (⟨.integer, true⟩ : FieldType).validates (.string " 7") = false := by
  have hencodes : (⟨.integer, true⟩ : FieldType).Encodes (.string " 7") := ⟨_, rfl⟩
  have hgiven : (Json.string " 7").IsGiven := ⟨nofun, by rintro _ ⟨⟩; decide⟩
  obtain ⟨text, htext, hiff⟩ := (acceptance_agrees ⟨.integer, true⟩ (.string " 7")).integer rfl
    hgiven hencodes
  cases htext
  refine ⟨hencodes, Bool.eq_false_iff.2 fun hvalid => ?_⟩
  exact absurd ((hiff.1 hvalid).front ' ' rfl) (by decide)

/-! ## The grammar of numeric fields -/

/-- What numeric fields make of a text: an integer is a literal in range and nothing else, with any
number of leading zeros; a floating number is a literal between blanks whose decimal is nearest to
a finite number. -/
structure NumericGrammar (required : Bool) (s : String) : Prop where
  integer : (⟨.integer, required⟩ : FieldType).validates (.string s) = true ↔
    ∃ l : IntegerLiteral, s.toList = l.text ∧
      -9223372036854775808 ≤ l.value ∧ l.value ≤ 9223372036854775807
  integerWire : ∀ l : IntegerLiteral, s.toList = l.text →
    -9223372036854775808 ≤ l.value → l.value ≤ 9223372036854775807 →
    (⟨.integer, required⟩ : FieldType).encode (.string s) = .ok (.number (.integer l.value))
  float : (⟨.float, required⟩ : FieldType).validates (.string s) = true ↔
    ∃ (lead trail : List Char) (l : FloatLiteral),
      (∀ c ∈ lead, Text.isBlank c = true) ∧ (∀ c ∈ trail, Text.isBlank c = true) ∧
      s.toList = lead ++ (l.text ++ trail) ∧ l.magnitude < overflowBound

/-- A text that is not blank is there. -/
theorem isGiven_string {s : String} (hblank : Text.isBlankText s = false) :
    (Json.string s).IsGiven where
  notNull := nofun
  notBlank := by
    rintro _ ⟨⟩
    exact hblank

/-- Integer fields accept exactly the integer literals in range. -/
theorem validates_integer_string_iff {s : String} (hblank : Text.isBlankText s = false) :
    (⟨.integer, required⟩ : FieldType).validates (.string s) = true ↔
      ∃ l : IntegerLiteral, s.toList = l.text ∧ fitsInteger l.value = true := by
  rw [validates_of_isGiven rfl (isGiven_string hblank), checkText_integer_iff]
  simp only [Option.ne_none_iff_exists', integerOf?_eq_some_iff]
  constructor
  · rintro ⟨_, l, htext, rfl, hfits⟩
    exact ⟨l, htext.symm, hfits⟩
  · rintro ⟨l, htext, hfits⟩
    exact ⟨l.value, l, htext.symm, rfl, hfits⟩

/-- An integer literal in range is encoded as its value. -/
theorem encode_integer_string {s : String} (hblank : Text.isBlankText s = false)
    {l : IntegerLiteral} (htext : s.toList = l.text) (hfits : fitsInteger l.value = true) :
    (⟨.integer, required⟩ : FieldType).encode (.string s) = .ok (.number (.integer l.value)) := by
  have hread : integerOf? s = some l.value := integerOf?_eq_some_iff.2 ⟨l, htext.symm, rfl, hfits⟩
  simp [encode, encodeNumber, numericText, Json.scalarText?, hblank, trim_of_integerOf? hread, hread]

/-- Number fields accept exactly the literals below the bound of the finite numbers, padded or
not. -/
theorem validates_float_string_iff {s : String} (hblank : Text.isBlankText s = false) :
    (⟨.float, required⟩ : FieldType).validates (.string s) = true ↔
      ∃ (lead trail : List Char) (l : FloatLiteral),
        (∀ c ∈ lead, Text.isBlank c = true) ∧ (∀ c ∈ trail, Text.isBlank c = true) ∧
        s.toList = lead ++ (l.text ++ trail) ∧ l.magnitude < overflowBound := by
  rw [validates_of_isGiven rfl (isGiven_string hblank), checkText_float_iff, floatOf?_ne_none_iff,
    Text.trim, String.toList_ofList]
  constructor
  · rintro ⟨l, htext, hbound⟩
    obtain ⟨lead, trail, hlead, htrail, hsplit⟩ := Text.exists_padding s.toList
    exact ⟨lead, trail, l, hlead, htrail, by rw [htext, ← hsplit], hbound⟩
  · rintro ⟨lead, trail, l, hlead, htrail, htext, hbound⟩
    exact ⟨l, by rw [htext, Text.trimChars_padded hlead htrail, l.trimChars_text], hbound⟩

/-- Numeric fields accept exactly their grammar, of every text that is not blank. -/
theorem numeric_grammar (required : Bool) (s : String) (hblank : Text.isBlankText s = false) :
    NumericGrammar required s where
  integer := by
    rw [validates_integer_string_iff hblank]
    simp [fitsInteger]
  integerWire l htext hleast hgreatest :=
    encode_integer_string hblank htext (by simp [fitsInteger, hleast, hgreatest])
  float := validates_float_string_iff hblank

/-- An integer may be written with leading zeros, and is sent without them. -/
theorem numeric_grammar_leadingZeros :
    (⟨.integer, true⟩ : FieldType).validates (.string "-007") = true ∧
      (⟨.integer, true⟩ : FieldType).encode (.string "-007") = .ok (.number (.integer (-7))) := by
  have grammar := numeric_grammar true "-007" (by decide)
  let l : IntegerLiteral := ⟨.minus, ['0', '0', '7'], by simp, by simp [Number.isDigit]⟩
  have hvalue : l.value = -7 := by decide +kernel
  constructor
  · exact grammar.integer.2 ⟨l, rfl, by omega, by omega⟩
  · have hwire := grammar.integerWire l rfl (by omega) (by omega)
    rwa [hvalue] at hwire

end FieldType
end PanelForms
