import PanelForms.Json.Parser
import PanelForms.Json.Printer

/-!
# Strings written and read back

A string in JSON text stands between quotes, and each of its characters is written as itself or as
an escape.  Whatever the string holds, the reader takes back character by character what was
written, and stops at the closing quote.

Main results:

- Theorem `Json.readStringBody_escapeChar`: one character that was written is read back.
- Theorem `Json.readString_stringText`: a string that was written is read back.
- Theorem `Json.parse_text_string`: the text of a string denotes the string.
-/

namespace PanelForms
namespace Json

/-- Two digits that are written after two zeros are the low byte of a code unit. -/
theorem readHex4_lowerDigits {a b : Nat} (ha : a < 16) (hb : b < 16) (rest : List Char) :
    readHex4 ('0' :: '0' :: Hex.lowerDigit a :: Hex.lowerDigit b :: rest) =
      .ok (a * 16 + b, rest) := by
  have hsize : ∀ a b : Fin 16, ¬ (String.ofList
      ['0', '0', Hex.lowerDigit a, Hex.lowerDigit b]).utf8ByteSize < 4 := by
    decide +kernel
  have hzero : Hex.value? '0' = some 0 := by decide
  have htake : ('0' :: '0' :: Hex.lowerDigit a :: Hex.lowerDigit b :: rest).take 4 =
      ['0', '0', Hex.lowerDigit a, Hex.lowerDigit b] := rfl
  unfold readHex4
  rw [htake, if_neg (hsize ⟨a, ha⟩ ⟨b, hb⟩)]
  simp [List.mapM_cons, hzero, Hex.value?_lowerDigit ha, Hex.value?_lowerDigit hb]

/-- A control character is written by its code, which is its number. -/
theorem readUnicodeEscape_control {c : Char} (hc : c.toNat < 32) (rest : List Char) :
    readUnicodeEscape ('0' :: '0' :: Hex.lowerDigit (c.toNat / 16) ::
      Hex.lowerDigit (c.toNat % 16) :: rest) = .ok (c, rest) := by
  have hhigh : c.toNat / 16 < 16 := by omega
  have hlow : c.toNat % 16 < 16 := by omega
  have hcode : c.toNat / 16 * 16 + c.toNat % 16 = c.toNat := by omega
  have hbelow : ¬ (0xDC00 ≤ c.toNat ∧ c.toNat ≤ 0xDFFF) := by omega
  have hbelow' : ¬ (0xD800 ≤ c.toNat ∧ c.toNat ≤ 0xDBFF) := by omega
  simp only [readUnicodeEscape, readHex4_lowerDigits hhigh hlow, hcode, bind, Except.bind,
    if_neg hbelow, if_neg hbelow', Char.ofNat_toNat]
  rfl

/-- Whatever stands for a character in a string is read as that character. -/
theorem readStringBody_escapeChar (fuel : Nat) (read : List Char) (c : Char) (rest : List Char) :
    readStringBody (fuel + 1) read (escapeChar c ++ rest) =
      readStringBody fuel (c :: read) rest := by
  -- An escape is read by its letter, so it is enough that the letter denotes the character.
  have hescape : ∀ letter tail, readEscape (letter :: tail) = .ok (c, rest) →
      readStringBody (fuel + 1) read ('\\' :: letter :: tail) =
        readStringBody fuel (c :: read) rest := by
    intro letter tail hletter
    simp [readStringBody, hletter]
  have hnumber : ∀ n, c.toNat = n → Char.ofNat n = c := by
    intro n hn
    rw [← hn, Char.ofNat_toNat]
  unfold escapeChar
  by_cases hquote : c = '"'
  · subst hquote
    exact hescape '"' rest rfl
  by_cases hbackslash : c = '\\'
  · subst hbackslash
    exact hescape '\\' rest rfl
  by_cases hbackspace : c.toNat = 8
  · rw [if_neg hquote, if_neg hbackslash, if_pos hbackspace]
    refine hescape 'b' rest ?_
    rw [← hnumber 8 hbackspace]
    rfl
  by_cases hformFeed : c.toNat = 12
  · rw [if_neg hquote, if_neg hbackslash, if_neg hbackspace, if_pos hformFeed]
    refine hescape 'f' rest ?_
    rw [← hnumber 12 hformFeed]
    rfl
  by_cases hlineFeed : c = '\n'
  · subst hlineFeed
    exact hescape 'n' rest rfl
  by_cases hreturn : c = '\r'
  · subst hreturn
    exact hescape 'r' rest rfl
  by_cases htab : c = '\t'
  · subst htab
    exact hescape 't' rest rfl
  rw [if_neg hquote, if_neg hbackslash, if_neg hbackspace, if_neg hformFeed, if_neg hlineFeed,
    if_neg hreturn, if_neg htab]
  by_cases hcontrol : c.toNat < 32
  · rw [if_pos hcontrol]
    refine hescape 'u' _ ?_
    exact readUnicodeEscape_control hcontrol rest
  · rw [if_neg hcontrol]
    simp [readStringBody, hquote, hbackslash, hcontrol]

/-- A string that was written is read up to its closing quote. -/
theorem readStringBody_flatMap (chars : List Char) (fuel : Nat) (read rest : List Char)
    (hfuel : chars.length < fuel) :
    readStringBody fuel read (chars.flatMap escapeChar ++ '"' :: rest) =
      .ok (String.ofList (read.reverse ++ chars), rest) := by
  induction chars generalizing fuel read with
  | nil =>
    obtain ⟨fuel, rfl⟩ := Nat.exists_eq_add_of_lt hfuel
    simp [readStringBody]
  | cons c chars ih =>
    rw [List.length_cons] at hfuel
    obtain ⟨fuel, rfl⟩ : ∃ n, fuel = n + 1 := ⟨fuel - 1, by omega⟩
    rw [List.flatMap_cons, List.append_assoc, readStringBody_escapeChar, ih _ _ (by omega)]
    simp

theorem escapeChar_ne_nil (c : Char) : escapeChar c ≠ [] := by
  grind [escapeChar]

/-- Escaping makes no text shorter, so the fuel of the reader suffices. -/
theorem length_le_length_flatMap (chars : List Char) :
    chars.length ≤ (chars.flatMap escapeChar).length := by
  induction chars with
  | nil => exact Nat.le_refl 0
  | cons c chars ih =>
    have hpos := List.length_pos_iff.2 (escapeChar_ne_nil c)
    rw [List.flatMap_cons, List.length_append, List.length_cons]
    omega

/-- A quoted text is read back, with the rest left over. -/
theorem readString_stringText (s : String) (rest : List Char) :
    readString (s.toList.flatMap escapeChar ++ '"' :: rest) = .ok (s, rest) := by
  have hlength := length_le_length_flatMap s.toList
  have hread := readStringBody_flatMap s.toList
    ((s.toList.flatMap escapeChar ++ '"' :: rest).length + 1) [] rest (by
      rw [List.length_append]
      omega)
  simpa [readString] using hread

/-- The text of a string denotes the string. -/
theorem parse_text_string (s : String) : parse (text (.string s)) = .ok (.string s) := by
  have htext : (text (.string s)).toList = '"' :: (s.toList.flatMap escapeChar ++ '"' :: []) := by
    simp [text, stringText]
  have hblanks : skipBlanks ('"' :: (s.toList.flatMap escapeChar ++ '"' :: [])) =
      '"' :: (s.toList.flatMap escapeChar ++ '"' :: []) := by
    simp [skipBlanks]
  unfold parse
  simp only [htext, readValue, hblanks, readString_stringText]
  rfl

end Json
end PanelForms
