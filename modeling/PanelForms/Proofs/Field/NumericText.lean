import PanelForms.Field.NumericPattern
import PanelForms.Proofs.Number.Grammar
import PanelForms.Proofs.Pattern.Language
import PanelForms.Text.Blank

/-!
# Numeric text

A numeric field holds text against a pattern and then reads it.  The patterns are shown to allow
exactly the numeric literals, so that reading decides nothing but the size of a number, and a
floating text may be padded where an integer text may not.

Main results:

- Theorem `NumericPattern.integer_occursIn_iff`: the texts of integer literals.
- Theorem `NumericPattern.float_occursIn_iff`: the texts of floating literals between blanks.
- Theorem `NumericPattern.float_occursIn_iff_trim`: the texts that are floating literals once they
  are trimmed.
-/

namespace PanelForms

/-! ## Padding -/

namespace Text

/-- Dropping the blanks in front leaves a text alone exactly if no blank is in front. -/
theorem dropWhile_isBlank_eq_self_iff {cs : List Char} :
    cs.dropWhile isBlank = cs ↔ ∀ c, cs.head? = some c → isBlank c = false := by
  cases cs with
  | nil => simp
  | cons c cs =>
    by_cases hblank : isBlank c = true
    · have hshort : (cs.dropWhile isBlank).length ≤ cs.length :=
        (List.dropWhile_sublist isBlank).length_le
      have hne : cs.dropWhile isBlank ≠ c :: cs := by
        intro heq
        rw [heq, List.length_cons] at hshort
        omega
      simp [hne, hblank]
    · simp [hblank]

/-- Trimming leaves a text as it is if neither end is blank. -/
theorem trimChars_eq_self_iff {cs : List Char} :
    trimChars cs = cs ↔ (∀ c, cs.head? = some c → isBlank c = false) ∧
      ∀ c, cs.getLast? = some c → isBlank c = false := by
  constructor
  · intro htrim
    have hshort : (trimChars cs).length ≤ (cs.dropWhile isBlank).length := by
      rw [trimChars, List.length_reverse, ← (cs.dropWhile isBlank).length_reverse]
      exact (List.dropWhile_sublist isBlank).length_le
    have hfront : cs.dropWhile isBlank = cs :=
      (List.dropWhile_sublist isBlank).eq_of_length_le (by rwa [htrim] at hshort)
    have hback : cs.reverse.dropWhile isBlank = cs.reverse := by
      rw [trimChars, hfront] at htrim
      rw [← List.reverse_reverse (cs.reverse.dropWhile isBlank), htrim]
    constructor
    · exact dropWhile_isBlank_eq_self_iff.1 hfront
    · simpa using dropWhile_isBlank_eq_self_iff.1 hback
  · rintro ⟨hfront, hback⟩
    rw [trimChars, dropWhile_isBlank_eq_self_iff.2 hfront,
      dropWhile_isBlank_eq_self_iff.2 (by simpa using hback), List.reverse_reverse]

/-- A text without any blank is left alone by trimming. -/
theorem trimChars_eq_self {cs : List Char} (h : ∀ c ∈ cs, isBlank c = false) :
    trimChars cs = cs :=
  trimChars_eq_self_iff.2
    ⟨fun c hc => h c (List.mem_of_head? hc), fun c hc => h c (List.mem_of_getLast? hc)⟩

/-- A text is what is left of it by trimming, between blanks. -/
theorem exists_padding (cs : List Char) :
    ∃ lead trail, (∀ c ∈ lead, isBlank c = true) ∧ (∀ c ∈ trail, isBlank c = true) ∧
      cs = lead ++ (trimChars cs ++ trail) := by
  let rest := cs.dropWhile isBlank
  refine ⟨cs.takeWhile isBlank, (rest.reverse.takeWhile isBlank).reverse, ?_, ?_, ?_⟩
  · exact fun c hc => List.mem_takeWhile_imp hc
  · exact fun c hc => List.mem_takeWhile_imp (List.mem_reverse.1 hc)
  · have hrest : trimChars cs ++ (rest.reverse.takeWhile isBlank).reverse = rest := by
      rw [trimChars, ← List.reverse_append, List.takeWhile_append_dropWhile, List.reverse_reverse]
    rw [hrest, List.takeWhile_append_dropWhile]

/-- All blanks in front are dropped. -/
theorem dropWhile_isBlank_append {blanks cs : List Char}
    (h : ∀ c ∈ blanks, isBlank c = true) :
    (blanks ++ cs).dropWhile isBlank = cs.dropWhile isBlank := by
  rw [List.dropWhile_append, List.dropWhile_eq_nil_iff.2 h]
  rfl

/-- Trimming takes away the blanks on either side. -/
theorem trimChars_padded {lead cs trail : List Char} (hlead : ∀ c ∈ lead, isBlank c = true)
    (htrail : ∀ c ∈ trail, isBlank c = true) :
    trimChars (lead ++ (cs ++ trail)) = trimChars cs := by
  have htrail' : ∀ c ∈ trail.reverse, isBlank c = true :=
    fun c hc => htrail c (List.mem_reverse.1 hc)
  rw [trimChars, dropWhile_isBlank_append hlead]
  by_cases hempty : cs.dropWhile isBlank = []
  · have hblank : ∀ c ∈ cs, isBlank c = true := List.dropWhile_eq_nil_iff.1 hempty
    rw [dropWhile_isBlank_append hblank, List.dropWhile_eq_nil_iff.2 htrail, trimChars, hempty]
  · have hkeep : (cs ++ trail).dropWhile isBlank = cs.dropWhile isBlank ++ trail := by
      rw [List.dropWhile_append, if_neg (by simpa [List.isEmpty_iff] using hempty)]
    rw [hkeep, List.reverse_append, dropWhile_isBlank_append htrail', trimChars]

end Text

/-! ## Literals have no blanks -/

namespace Number

theorem isBlank_of_isDigit {c : Char} (h : isDigit c = true) : Text.isBlank c = false := by
  have hrange : 48 ≤ c.toNat ∧ c.toNat ≤ 57 := by
    simpa [isDigit, Char.le_def, UInt32.le_iff_toNat_le] using h
  simp only [Text.isBlank, Bool.or_eq_false_iff, Bool.and_eq_false_iff, beq_eq_false_iff_ne,
    decide_eq_false_iff_not]
  omega

theorem Sign.not_isBlank (s : Sign) : ∀ c ∈ s.text, Text.isBlank c = false := by
  cases s <;> simp [text, Text.isBlank]

theorem DigitRun.not_isBlank (run : DigitRun) : ∀ c ∈ run.chars, Text.isBlank c = false :=
  fun c hc => isBlank_of_isDigit (run.isDigit c hc)

theorem IntegerLiteral.not_isBlank (l : IntegerLiteral) :
    ∀ c ∈ l.text, Text.isBlank c = false :=
  List.forall_mem_append.2 ⟨l.sign.not_isBlank, l.digits.not_isBlank⟩

theorem IntegerLiteral.trimChars_text (l : IntegerLiteral) : Text.trimChars l.text = l.text :=
  Text.trimChars_eq_self l.not_isBlank

theorem IntegerLiteral.text_ne_nil (l : IntegerLiteral) : l.text ≠ [] := by
  simp [text, l.digits.nonempty]

theorem Mantissa.not_isBlank (m : Mantissa) : ∀ c ∈ m.text, Text.isBlank c = false := by
  cases m with
  | whole digits => exact digits.not_isBlank
  | pointed digits further h =>
    have hfurther : ∀ c ∈ further, Text.isBlank c = false := fun c hc => isBlank_of_isDigit (h c hc)
    exact List.forall_mem_append.2
      ⟨digits.not_isBlank, List.forall_mem_cons.2 ⟨by decide, hfurther⟩⟩
  | fraction digits => exact List.forall_mem_cons.2 ⟨by decide, digits.not_isBlank⟩

/-- An exponent holds no blank. -/
theorem not_isBlank_exponentText (part : Option ExponentPart) :
    ∀ c ∈ exponentText part, Text.isBlank c = false := by
  cases part with
  | none => exact fun c hc => (List.not_mem_nil hc).elim
  | some part =>
    obtain ⟨mark, hmark, power⟩ := part
    have hletter : Text.isBlank mark = false := by
      rcases hmark with rfl | rfl <;> decide
    exact List.forall_mem_cons.2 ⟨hletter, power.not_isBlank⟩

/-- A floating literal is not padded. -/
theorem FloatLiteral.not_isBlank (l : FloatLiteral) : ∀ c ∈ l.text, Text.isBlank c = false :=
  List.forall_mem_append.2 ⟨l.sign.not_isBlank,
    List.forall_mem_append.2 ⟨l.mantissa.not_isBlank, not_isBlank_exponentText l.exponent⟩⟩

theorem FloatLiteral.text_ne_nil (l : FloatLiteral) : l.text ≠ [] := by
  have hmantissa : l.mantissa.text ≠ [] := by
    cases l.mantissa with
    | whole digits => exact digits.nonempty
    | pointed digits further h => simp [Mantissa.text]
    | fraction digits => simp [Mantissa.text]
  simp [text, hmantissa]

theorem FloatLiteral.trimChars_text (l : FloatLiteral) : Text.trimChars l.text = l.text :=
  Text.trimChars_eq_self l.not_isBlank

end Number

/-! ## The languages of the patterns -/

namespace NumericPattern

open Pattern Number
open scoped Computability

/-- The words that are written for something. -/
def written {α : Type} (text : α → List Char) : Language Char :=
  { word | ∃ a, text a = word }

/-- The words of characters of a kind. -/
def ofKind (kind : Char → Bool) : Language Char :=
  { word | ∀ c ∈ word, kind c = true }

theorem mem_written {α : Type} {text : α → List Char} {word : List Char} :
    word ∈ written text ↔ ∃ a, text a = word :=
  Iff.rfl

/-- The words of a kind hold characters of that kind only. -/
theorem mem_ofKind {kind : Char → Bool} {word : List Char} :
    word ∈ ofKind kind ↔ ∀ c ∈ word, kind c = true :=
  Iff.rfl

/-- The class of the pattern for digits holds exactly the digits. -/
theorem contains_digit (c : Char) :
    (CharSet.union .nothing (.range 48 57)).contains c.toNat = isDigit c := by
  simp [CharSet.contains, isDigit, Char.le_def, UInt32.le_iff_toNat_le]

/-- The class of the pattern for blanks holds exactly the blanks. -/
theorem contains_blank (c : Char) :
    (CharSet.property .blank).contains c.toNat = Text.isBlank c := by
  simp [CharSet.contains, Property.holds]

/-- A class of one code point holds exactly its character. -/
theorem contains_single {n : Nat} {c : Char} (h : c.toNat = n) (d : Char) :
    (CharSet.single n).contains d.toNat = true ↔ d = c := by
  subst h
  rw [CharSet.single, CharSet.contains, Bool.and_eq_true, decide_eq_true_eq, decide_eq_true_eq,
    ← le_antisymm_iff, Char.toNat_inj, eq_comm]

/-- The pattern for any number of digits matches exactly the texts of digits. -/
theorem denotes_anyDigits : (anyNumber digit).Denotes (ofKind isDigit) := by
  intro before word after
  have h := (Expr.denotes_chars (.union .nothing (.range 48 57))).repeated 0
  rw [anyNumber, digit, h before]
  simp [CharSet.mem_kstar_letters, contains_digit, mem_ofKind]

/-- The pattern for one or more digits matches exactly what runs of digits are written as. -/
theorem denotes_digits : (oneOrMore digit).Denotes (written DigitRun.chars) := by
  intro before word after
  have h := (Expr.denotes_chars (.union .nothing (.range 48 57))).repeated 1
  rw [oneOrMore, digit, h before, pow_one, CharSet.mem_letters_mul_kstar]
  simp only [contains_digit, mem_written]
  constructor
  · rintro ⟨hne, hdigit⟩
    exact ⟨⟨word, hne, hdigit⟩, rfl⟩
  · rintro ⟨run, rfl⟩
    exact ⟨run.nonempty, run.isDigit⟩

/-- The pattern for padding matches exactly the texts of blanks. -/
theorem denotes_blanks : (anyNumber blank).Denotes (ofKind Text.isBlank) := by
  intro before word after
  have h := (Expr.denotes_chars (.property .blank)).repeated 0
  rw [anyNumber, blank, h before]
  simp [CharSet.mem_kstar_letters, contains_blank, mem_ofKind]

theorem mem_letters_sign {word : List Char} :
    word ∈ (CharSet.union (.single 45) (.single 43)).letters ↔ word = ['-'] ∨ word = ['+'] := by
  have hcontains : ∀ c : Char,
      (CharSet.union (.single 45) (.single 43)).contains c.toNat = true ↔ c = '-' ∨ c = '+' := by
    intro c
    rw [CharSet.contains, Bool.or_eq_true, contains_single (n := 45) (c := '-') rfl,
      contains_single (n := 43) (c := '+') rfl]
  simp only [CharSet.mem_letters, hcontains]
  constructor
  · rintro ⟨c, rfl, rfl | rfl⟩ <;> simp
  · rintro (rfl | rfl) <;> simp

/-- The pattern for an optional sign matches exactly what signs are written as. -/
theorem denotes_sign : (optional sign).Denotes (written Sign.text) := by
  intro before word after
  have h := (Expr.denotes_chars (.union (.single 45) (.single 43))).optional
  rw [optional, sign, h before, Language.mem_add, Language.mem_one, mem_letters_sign, mem_written]
  constructor
  · rintro (rfl | rfl | rfl)
    · exact ⟨.unsigned, rfl⟩
    · exact ⟨.minus, rfl⟩
    · exact ⟨.plus, rfl⟩
  · rintro ⟨s, rfl⟩
    cases s <;> simp [Sign.text]

theorem mem_letters_point {word : List Char} : word ∈ (CharSet.single 46).letters ↔ word = ['.'] := by
  simp only [CharSet.mem_letters, contains_single (n := 46) (c := '.') rfl]
  simp

/-- The pattern for a mantissa matches exactly what mantissas are written as. -/
theorem denotes_mantissa : mantissa.Denotes (written Mantissa.text) := by
  intro before word after
  have hpoint := Expr.denotes_chars (.single 46)
  have h := ((denotes_digits.seq hpoint.optional).seq denotes_anyDigits).alt
    (hpoint.seq denotes_digits)
  refine (h before word after).trans ?_
  simp only [Language.mem_add, Language.mem_mul, Language.mem_one, mem_letters_point, mem_written,
    mem_ofKind]
  constructor
  · rintro (⟨_, ⟨_, ⟨run, rfl⟩, dot, rfl | rfl, rfl⟩, more, hmore, rfl⟩ | ⟨_, rfl, _, ⟨run, rfl⟩, rfl⟩)
    · -- Without a point the digits after it continue the run.
      refine ⟨.whole ⟨run.chars ++ more, ?_, ?_⟩, ?_⟩
      · simp [run.nonempty]
      · exact List.forall_mem_append.2 ⟨run.isDigit, hmore⟩
      · simp [Mantissa.text]
    · exact ⟨.pointed run more hmore, by simp [Mantissa.text]⟩
    · exact ⟨.fraction run, rfl⟩
  · rintro ⟨m, rfl⟩
    cases m with
    | whole run =>
      exact Or.inl ⟨run.chars, ⟨run.chars, ⟨run, rfl⟩, [], Or.inl rfl, by simp⟩, [], by simp,
        by simp [Mantissa.text]⟩
    | pointed run further hfurther =>
      exact Or.inl ⟨run.chars ++ ['.'], ⟨run.chars, ⟨run, rfl⟩, ['.'], Or.inr rfl, rfl⟩, further,
        hfurther, by simp [Mantissa.text]⟩
    | fraction run => exact Or.inr ⟨['.'], rfl, run.chars, ⟨run, rfl⟩, rfl⟩

theorem mem_letters_mark {word : List Char} :
    word ∈ (CharSet.union (.union .nothing (.single 101)) (.single 69)).letters ↔
      ∃ c, word = [c] ∧ (c = 'e' ∨ c = 'E') := by
  refine exists_congr fun c => and_congr_right fun _ => ?_
  rw [CharSet.contains, CharSet.contains, CharSet.contains, Bool.false_or, Bool.or_eq_true,
    contains_single (n := 101) (c := 'e') rfl, contains_single (n := 69) (c := 'E') rfl]

/-- The pattern for an optional exponent matches exactly what exponents are written as. -/
theorem denotes_exponent : (optional exponent).Denotes (written exponentText) := by
  intro before word after
  have hmark := Expr.denotes_chars (.union (.union .nothing (.single 101)) (.single 69))
  have h := ((hmark.seq denotes_sign).seq denotes_digits).optional
  refine (h before word after).trans ?_
  simp only [Language.mem_add, Language.mem_mul, Language.mem_one, mem_letters_mark, mem_written]
  constructor
  · rintro (rfl | ⟨_, ⟨_, ⟨c, rfl, hc⟩, _, ⟨s, rfl⟩, rfl⟩, _, ⟨run, rfl⟩, rfl⟩)
    · exact ⟨none, rfl⟩
    · exact ⟨some ⟨c, hc, s, run⟩, rfl⟩
  · rintro ⟨part, rfl⟩
    cases part with
    | none => exact Or.inl rfl
    | some part =>
      obtain ⟨c, hc, s, run⟩ := part
      exact Or.inr ⟨[c] ++ s.text, ⟨[c], ⟨c, rfl, hc⟩, s.text, ⟨s, rfl⟩, rfl⟩, run.chars,
        ⟨run, rfl⟩, rfl⟩

/-! ## The texts of the patterns -/

/-- The integer pattern occurs in the texts of integer literals, and in no other. -/
theorem integer_occursIn_iff (text : String) :
    integer.occursIn text = true ↔ ∃ l : IntegerLiteral, l.text = text.toList := by
  have h := (Expr.denotesAtStart_textStart.seq denotes_sign).seq denotes_digits
  refine (h.occursIn_iff text).trans ?_
  simp only [one_mul, Language.mem_mul, mem_written]
  constructor
  · rintro ⟨_, ⟨s, rfl⟩, _, ⟨run, rfl⟩, htext⟩
    exact ⟨⟨s, run⟩, htext⟩
  · rintro ⟨⟨s, run⟩, htext⟩
    exact ⟨s.text, ⟨s, rfl⟩, run.chars, ⟨run, rfl⟩, htext⟩

/-- The floating pattern occurs in the texts of floating literals between blanks, and in no
other. -/
theorem float_occursIn_iff (text : String) :
    float.occursIn text = true ↔
      ∃ (lead trail : List Char) (l : FloatLiteral), (∀ c ∈ lead, Text.isBlank c = true) ∧
        (∀ c ∈ trail, Text.isBlank c = true) ∧ text.toList = lead ++ (l.text ++ trail) := by
  have h := ((((Expr.denotesAtStart_textStart.seq denotes_blanks).seq denotes_sign).seq
    denotes_mantissa).seq denotes_exponent).seq denotes_blanks
  refine (h.occursIn_iff text).trans ?_
  simp only [one_mul, Language.mem_mul, mem_written, mem_ofKind]
  constructor
  · rintro ⟨_, ⟨_, ⟨_, ⟨lead, hlead, _, ⟨s, rfl⟩, rfl⟩, _, ⟨m, rfl⟩, rfl⟩, _, ⟨part, rfl⟩, rfl⟩,
      trail, htrail, htext⟩
    exact ⟨lead, trail, ⟨s, m, part⟩, hlead, htrail, by simp [← htext, FloatLiteral.text]⟩
  · rintro ⟨lead, trail, ⟨s, m, part⟩, hlead, htrail, htext⟩
    exact ⟨_, ⟨_, ⟨_, ⟨lead, hlead, s.text, ⟨s, rfl⟩, rfl⟩, m.text, ⟨m, rfl⟩, rfl⟩,
      exponentText part, ⟨part, rfl⟩, rfl⟩, trail, htrail, by simp [htext, FloatLiteral.text]⟩

/-- The floating pattern sees through the padding of a text. -/
theorem float_occursIn_iff_trim (text : String) :
    float.occursIn text = true ↔ ∃ l : FloatLiteral, l.text = Text.trimChars text.toList := by
  rw [float_occursIn_iff]
  constructor
  · rintro ⟨lead, trail, l, hlead, htrail, htext⟩
    exact ⟨l, by rw [htext, Text.trimChars_padded hlead htrail, l.trimChars_text]⟩
  · rintro ⟨l, htext⟩
    obtain ⟨lead, trail, hlead, htrail, hsplit⟩ := Text.exists_padding text.toList
    exact ⟨lead, trail, l, hlead, htrail, by rw [htext, ← hsplit]⟩

end NumericPattern
end PanelForms
