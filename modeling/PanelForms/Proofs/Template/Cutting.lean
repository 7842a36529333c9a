import Mathlib.Data.List.TakeWhile
import PanelForms.Template

/-!
# Cutting a template into pieces

A template is cut from left to right.  Wherever a placeholder starts it is cut off as a whole, and
the cutting goes on behind it; every other character is a piece of its own.  This module states
that as a relation between a text and its pieces, which speaks of no scanner, and shows that the
scanner finds the one way of cutting that there is.

Main results:

- Definitions `Template.IsInside` and `Template.written`: what may stand in a placeholder, and how
  a placeholder is written.
- Definition `Template.Cut`: the pieces of a text, leftmost placeholders first, without overlaps.
- Theorem `Template.inside?_eq_some_iff`: the scanner finds a placeholder exactly where one starts.
- Theorem `Template.piecesFrom_eq_iff`: the scanner cuts every text in the only possible way.
- Theorem `Template.Cut.text_eq`: nothing is lost by cutting.
-/

namespace PanelForms
namespace Template

/-! ## Placeholders in a text -/

/-- What may stand inside a placeholder: at least one character, and no closing parenthesis. -/
def IsInside (inside : List Char) : Prop :=
  inside ≠ [] ∧ ')' ∉ inside

/-- A placeholder as it is written. -/
def written (inside : List Char) : List Char :=
  '$' :: '(' :: (inside ++ [')'])

/-- A placeholder starts at the first character of a text. -/
def StartsPlaceholder (text : List Char) : Prop :=
  ∃ inside rest, IsInside inside ∧ text = written inside ++ rest

/-- The text of a piece. -/
def Piece.text : Piece → List Char
  | .char c => [c]
  | .placeholder inside => written inside

/-- A text and its pieces: a placeholder is cut off wherever one starts, and a character only where
none does. -/
inductive Cut : List Char → List Piece → Prop where
  | nil : Cut [] []
  | char {c : Char} {rest : List Char} {pieces : List Piece}
      (hnone : ¬ StartsPlaceholder (c :: rest)) (hrest : Cut rest pieces) :
      Cut (c :: rest) (.char c :: pieces)
  | placeholder {inside rest : List Char} {pieces : List Piece} (hinside : IsInside inside)
      (hrest : Cut rest pieces) :
      Cut (written inside ++ rest) (.placeholder inside :: pieces)

/-- A placeholder is written with its brackets, whatever comes after it. -/
theorem written_append (inside rest : List Char) :
    written inside ++ rest = '$' :: '(' :: (inside ++ ')' :: rest) := by
  simp [written]

/-- Nothing is lost by cutting: the texts of the pieces make up the text. -/
theorem Cut.text_eq {text : List Char} {pieces : List Piece} (h : Cut text pieces) :
    pieces.flatMap Piece.text = text := by
  induction h with
  | nil => rfl
  | char hnone hrest ih => rw [List.flatMap_cons, ih]; rfl
  | placeholder hinside hrest ih => rw [List.flatMap_cons, ih]; rfl

/-! ## The scanner at one place -/

/-- The inside ends at the first closing parenthesis. -/
theorem takeWhile_inside {inside : List Char} (h : ')' ∉ inside) (rest : List Char) :
    (inside ++ ')' :: rest).takeWhile (· ≠ ')') = inside := by
  have hall : ∀ c ∈ inside, decide (c ≠ ')') = true := by
    intro c hc
    simpa using fun he : c = ')' => h (he ▸ hc)
  rw [List.takeWhile_append_of_pos hall]
  simp

/-- Behind an opening, an inside is found exactly if one stands there and is closed. -/
theorem inside?_eq_some_iff {tail inside : List Char} :
    inside? tail = some inside ↔ IsInside inside ∧ ∃ rest, tail = inside ++ ')' :: rest := by
  constructor
  · intro h
    unfold inside? at h
    simp only at h
    split at h
    · cases h
    · next hcond =>
      obtain rfl := Option.some.inj h
      simp only [Bool.or_eq_true, List.isEmpty_iff, decide_eq_true_eq, not_or] at hcond
      obtain ⟨hne, hlength⟩ := hcond
      have hsplit := List.takeWhile_append_dropWhile (p := (· ≠ ')')) (l := tail)
      have hclose : ')' ∉ tail.takeWhile (· ≠ ')') := by
        intro hmem
        simpa using List.mem_takeWhile_imp hmem
      cases hdrop : tail.dropWhile (· ≠ ')') with
      | nil =>
        rw [hdrop, List.append_nil] at hsplit
        exact absurd (congrArg List.length hsplit) hlength
      | cons c rest =>
        have hc : c = ')' := by
          have hhead := List.head_dropWhile_not (p := (· ≠ ')')) (l := tail) (by rw [hdrop]; nofun)
          simp only [hdrop, List.head_cons] at hhead
          simpa using hhead
        rw [hdrop, hc] at hsplit
        exact ⟨⟨hne, hclose⟩, rest, hsplit.symm⟩
  · rintro ⟨⟨hne, hclose⟩, rest, rfl⟩
    unfold inside?
    rw [takeWhile_inside hclose]
    simp [hne]

/-- A placeholder starts exactly where an opening is followed by an inside. -/
theorem startsPlaceholder_iff {text : List Char} :
    StartsPlaceholder text ↔
      ∃ tail inside, text = '$' :: '(' :: tail ∧ inside? tail = some inside := by
  simp only [inside?_eq_some_iff]
  constructor
  · rintro ⟨inside, rest, hinside, rfl⟩
    exact ⟨_, inside, written_append inside rest, hinside, rest, rfl⟩
  · rintro ⟨_, inside, rfl, hinside, rest, rfl⟩
    exact ⟨inside, rest, hinside, (written_append inside rest).symm⟩

/-! ## The scanner along a text -/

/-- Characters to skip are skipped. -/
theorem piecesFrom_eq_drop (skip : Nat) (text : List Char) :
    piecesFrom skip text = piecesFrom 0 (text.drop skip) := by
  induction text generalizing skip with
  | nil => cases skip <;> simp [piecesFrom]
  | cons c rest ih =>
    cases skip with
    | zero => rfl
    | succ n => rw [piecesFrom, ih, List.drop_succ_cons]

/-- A character at which no placeholder starts is a piece of its own. -/
theorem piecesFrom_char {c : Char} {rest : List Char} (h : ¬ StartsPlaceholder (c :: rest)) :
    piecesFrom 0 (c :: rest) = .char c :: piecesFrom 0 rest := by
  by_cases hopen : ∃ tail, c = '$' ∧ rest = '(' :: tail
  · obtain ⟨tail, rfl, rfl⟩ := hopen
    have hnone : inside? tail = none := by
      rw [Option.eq_none_iff_forall_ne_some]
      intro inside hinside
      exact h (startsPlaceholder_iff.2 ⟨tail, inside, rfl, hinside⟩)
    rw [piecesFrom, hnone]
  · rw [piecesFrom]
    intro tail hc hrest
    exact hopen ⟨tail, hc, hrest⟩

/-- A placeholder is cut off, and the cutting goes on behind it. -/
theorem piecesFrom_written {inside : List Char} (h : IsInside inside) (rest : List Char) :
    piecesFrom 0 (written inside ++ rest) = .placeholder inside :: piecesFrom 0 rest := by
  have hinside : inside? (inside ++ ')' :: rest) = some inside :=
    inside?_eq_some_iff.2 ⟨h, rest, rfl⟩
  have hdrop : ('(' :: (inside ++ ')' :: rest)).drop (inside.length + 2) = rest := by
    simp [← List.drop_drop]
  rw [written_append, piecesFrom]
  simp only [hinside]
  rw [piecesFrom_eq_drop, hdrop]

/-- The scanner cuts a text as it has to be cut. -/
theorem cut_piecesFrom (text : List Char) : Cut text (piecesFrom 0 text) := by
  -- A placeholder is longer than one character, so the induction is on the length.
  induction hlength : text.length using Nat.strong_induction_on generalizing text with
  | _ n ih =>
    by_cases hstarts : StartsPlaceholder text
    · obtain ⟨inside, rest, hinside, rfl⟩ := hstarts
      have hshorter : rest.length < n := by
        simp [written] at hlength
        omega
      rw [piecesFrom_written hinside]
      exact .placeholder hinside (ih _ hshorter rest rfl)
    · cases text with
      | nil => exact .nil
      | cons c rest =>
        have hshorter : rest.length < n := by
          simp at hlength
          omega
        rw [piecesFrom_char hstarts]
        exact .char hstarts (ih _ hshorter rest rfl)

/-- There is one way of cutting a text, and the scanner finds it. -/
theorem piecesFrom_eq_iff {text : List Char} {pieces : List Piece} :
    piecesFrom 0 text = pieces ↔ Cut text pieces := by
  constructor
  · rintro rfl
    exact cut_piecesFrom text
  · intro h
    induction h with
    | nil => rfl
    | char hnone hrest ih => rw [piecesFrom_char hnone, ih]
    | placeholder hinside hrest ih => rw [piecesFrom_written hinside, ih]

/-- A marker without an inside stays text, and an inside may hold an opening. -/
example : pieces "$()$($(a.b))" =
    [.char '$', .char '(', .char ')', .placeholder ['$', '(', 'a', '.', 'b'], .char ')'] := by
  decide +kernel

end Template
end PanelForms
