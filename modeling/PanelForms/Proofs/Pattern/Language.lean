import Mathlib.Computability.Language
import PanelForms.Proofs.Pattern.Matching

/-!
# Patterns as languages

A pattern that asserts nothing about its surroundings matches the words of one language wherever
they stand.  Held between the start and the end of the text, it occurs in exactly the texts of its
language, so searching for it comes down to membership.

Main results:

- Definitions `Expr.Denotes` and `Expr.DenotesAtStart`: a pattern matches the words of a language,
  anywhere or at the start of the text.
- Theorems `Expr.Denotes.seq`, `Expr.Denotes.alt` and `Expr.Denotes.repeated`: the operators of
  patterns are those of languages.
- Theorem `Expr.DenotesAtStart.occursIn_iff`: an anchored pattern occurs in the texts of its
  language.
-/

namespace PanelForms
namespace Pattern

open scoped Computability

/-- The words of one letter that a set of characters holds. -/
def CharSet.letters (set : CharSet) : Language Char :=
  { word | ∃ c, word = [c] ∧ set.contains c.toNat = true }

/-- A set of characters gives the words of one letter in it. -/
theorem CharSet.mem_letters {set : CharSet} {word : List Char} :
    word ∈ set.letters ↔ ∃ c, word = [c] ∧ set.contains c.toNat = true :=
  Iff.rfl

/-- A word that starts in a set is a letter of it and the rest. -/
theorem CharSet.cons_mem_letters_mul {set : CharSet} {L : Language Char} {word : List Char} :
    word ∈ set.letters * L ↔
      ∃ c rest, word = c :: rest ∧ set.contains c.toNat = true ∧ rest ∈ L := by
  rw [Language.mem_mul]
  constructor
  · rintro ⟨_, ⟨c, rfl, hc⟩, rest, hrest, rfl⟩
    exact ⟨c, rest, rfl, hc, hrest⟩
  · rintro ⟨c, rest, rfl, hc, hrest⟩
    exact ⟨[c], ⟨c, rfl, hc⟩, rest, hrest, rfl⟩

/-- The words over a set of characters. -/
theorem CharSet.mem_kstar_letters {set : CharSet} {word : List Char} :
    word ∈ set.letters∗ ↔ ∀ c ∈ word, set.contains c.toNat = true := by
  induction word with
  | nil => simp [Language.nil_mem_kstar]
  | cons c word ih =>
    rw [← Language.one_add_self_mul_kstar_eq_kstar, Language.mem_add, Language.mem_one,
      cons_mem_letters_mul, List.forall_mem_cons, ← ih]
    simp

/-- The words over a set of characters with at least one letter. -/
theorem CharSet.mem_letters_mul_kstar {set : CharSet} {word : List Char} :
    word ∈ set.letters * set.letters∗ ↔
      word ≠ [] ∧ ∀ c ∈ word, set.contains c.toNat = true := by
  rw [cons_mem_letters_mul]
  cases word with
  | nil => simp
  | cons c word => simp [mem_kstar_letters]

namespace Expr

/-- The pattern matches the words of the language wherever they stand. -/
def Denotes (e : Expr) (L : Language Char) : Prop :=
  ∀ before word after, e.Matches before word after ↔ word ∈ L

/-- The pattern matches the words of the language at the start of the text and nowhere else. -/
def DenotesAtStart (e : Expr) (L : Language Char) : Prop :=
  ∀ before word after, e.Matches before word after ↔ before = [] ∧ word ∈ L

variable {e f : Expr} {L M : Language Char}

/-! ## Parts that assert nothing -/

/-- A class denotes its letters. -/
theorem denotes_chars (set : CharSet) : (Expr.chars set).Denotes set.letters :=
  fun _ _ _ => Iff.rfl

/-- Patterns in a row denote the words of one language followed by those of the other. -/
theorem Denotes.seq (h : e.Denotes L) (h' : f.Denotes M) : (e.seq f).Denotes (L * M) := by
  intro before word after
  simp only [Matches, WordCondition.andThen, h before, h' _, Language.mem_mul]
  constructor
  · rintro ⟨u, v, rfl, hu, hv⟩
    exact ⟨u, hu, v, hv, rfl⟩
  · rintro ⟨u, hu, v, hv, rfl⟩
    exact ⟨u, v, rfl, hu, hv⟩

/-- Alternatives denote the words of either language. -/
theorem Denotes.alt (h : e.Denotes L) (h' : f.Denotes M) : (e.alt f).Denotes (L + M) := by
  intro before word after
  simp only [Matches, h before, h' before, Language.mem_add]

/-- A pattern that is repeated so often denotes that power of its language. -/
theorem Denotes.times (h : e.Denotes L) (n : Nat) {before word after : List Char} :
    e.Matches.times n before word after ↔ word ∈ L ^ n := by
  induction n generalizing before word after with
  | zero => rw [WordCondition.times, pow_zero, Language.mem_one]
  | succ n ih =>
    simp only [WordCondition.times, WordCondition.andThen, h before, ih, pow_succ',
      Language.mem_mul]
    constructor
    · rintro ⟨u, v, rfl, hu, hv⟩
      exact ⟨u, hu, v, hv, rfl⟩
    · rintro ⟨u, hu, v, hv, rfl⟩
      exact ⟨u, v, rfl, hu, hv⟩

/-- A pattern that is repeated at least so often denotes that power of its language followed by any
other. -/
theorem Denotes.repeated (h : e.Denotes L) (least : Nat) :
    (e.repeated least none).Denotes (L ^ least * L∗) := by
  intro before word after
  simp only [Matches, h.times, Language.kstar_eq_iSup_pow, Language.mul_iSup, ← pow_add,
    Language.mem_iSup]
  simp

/-- An optional pattern denotes its language and the empty word. -/
theorem Denotes.optional (h : e.Denotes L) : (e.repeated 0 (some 1)).Denotes (1 + L) := by
  intro before word after
  simp only [Matches, h.times, Nat.zero_add, Option.some.injEq, forall_eq', Nat.sub_zero,
    Language.mem_add]
  constructor
  · rintro ⟨more, hmore, hword⟩
    obtain rfl | rfl : more = 0 ∨ more = 1 := by omega
    · exact Or.inl (by simpa using hword)
    · exact Or.inr (by simpa using hword)
  · rintro (hword | hword)
    · exact ⟨0, by omega, by simpa using hword⟩
    · exact ⟨1, le_refl 1, by simpa using hword⟩

/-! ## Anchored patterns -/

/-- The start of the text is found at the start only. -/
theorem denotesAtStart_textStart : (Expr.assertion .textStart).DenotesAtStart 1 := by
  intro before word after
  simp [Matches, Assertion.holds, Language.mem_one, and_comm]

/-- What follows the start of the text denotes the words of its language there. -/
theorem DenotesAtStart.seq (h : e.DenotesAtStart L) (h' : f.Denotes M) :
    (e.seq f).DenotesAtStart (L * M) := by
  intro before word after
  simp only [Matches, WordCondition.andThen, h before, h' _, Language.mem_mul]
  constructor
  · rintro ⟨u, v, rfl, ⟨rfl, hu⟩, hv⟩
    exact ⟨rfl, u, hu, v, hv, rfl⟩
  · rintro ⟨rfl, u, hu, v, hv, rfl⟩
    exact ⟨u, v, rfl, ⟨rfl, hu⟩, hv⟩

/-- A pattern held between both ends of the text occurs in the texts of its language. -/
theorem DenotesAtStart.occursIn_iff (h : e.DenotesAtStart L) (text : String) :
    (e.seq (.assertion .textEnd)).occursIn text = true ↔ text.toList ∈ L := by
  simp only [Expr.occursIn_iff, Matches, WordCondition.andThen, h _, Assertion.holds]
  constructor
  · rintro ⟨before, word, after, htext, u, v, rfl, ⟨rfl, hu⟩, rfl, hend⟩
    have hafter : after = [] := by simpa using hend
    rw [htext, hafter]
    simpa using hu
  · intro hmem
    exact ⟨[], text.toList, [], by simp, text.toList, [], by simp, ⟨rfl, hmem⟩, rfl, rfl⟩

end Expr
end Pattern
end PanelForms
