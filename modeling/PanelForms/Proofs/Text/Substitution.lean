import Mathlib.Data.List.Infix
import PanelForms.Text.Substitution

/-!
# Replacing and filling

A template is filled by one replacement after another, each in the whole text so far, so a
replacement also finds what the ones before it have put in.  This module takes one replacement
apart, occurrence by occurrence, and puts beside the chain of replacements the filling in one pass,
which looks at the template only.

Main results:

- Definition `Text.fillOnce`: the template with all parameters filled in at once.
- Theorems `Text.replaceFrom_at_occurrence` and `Text.replaceFrom_append_cons`: a replacement at an
  occurrence, and the places over which it can be split.
- Theorem `Text.replaceFrom_eq_self_iff`: what a replacement leaves as it is.
-/

namespace PanelForms
namespace Text

/-! ## Filling in one pass -/

/-- Fill the parameters in from left to right: where the placeholder of one of them starts, its
text is put in and not looked at again.  The number of characters still to skip belongs to a
placeholder that has been filled. -/
def fillOnceFrom (params : List (String × String)) : (skip : Nat) → List Char → List Char
  | _, [] => []
  | skip + 1, _ :: rest => fillOnceFrom params skip rest
  | 0, c :: rest =>
    match params.find? fun p => (placeholder p.1).toList.isPrefixOf (c :: rest) with
    | some p => p.2.toList ++ fillOnceFrom params ((placeholder p.1).toList.length - 1) rest
    | none => c :: fillOnceFrom params 0 rest

/-- Fill the parameters into a template, all at once. -/
def fillOnce (template : String) (params : List (String × String)) : String :=
  String.ofList (fillOnceFrom params 0 template.toList)

/-! ## One replacement -/

variable {pattern replacement x y : List Char}

/-- What is left of a match is passed over. -/
theorem replaceFrom_skip (x y : List Char) :
    replaceFrom pattern replacement x.length (x ++ y) = replaceFrom pattern replacement 0 y := by
  induction x with
  | nil => rfl
  | cons c rest ih => exact ih

/-- An occurrence is replaced, and the rest is looked at behind it. -/
theorem replaceFrom_at_occurrence (replacement : List Char) (hpattern : pattern ≠ [])
    (y : List Char) :
    replaceFrom pattern replacement 0 (pattern ++ y) =
      replacement ++ replaceFrom pattern replacement 0 y := by
  obtain ⟨c, rest, rfl⟩ := List.exists_cons_of_ne_nil hpattern
  have hstarts : (c :: rest).isPrefixOf (c :: (rest ++ y)) = true := by
    rw [List.isPrefixOf_iff_prefix]
    exact ⟨y, rfl⟩
  rw [List.cons_append, replaceFrom, if_pos hstarts, List.length_cons, Nat.add_sub_cancel]
  exact congrArg _ (replaceFrom_skip rest y)

/-- A character where no match starts is kept. -/
theorem replaceFrom_cons_of_no_start {c : Char} (h : ¬ pattern <+: c :: y) :
    replaceFrom pattern replacement 0 (c :: y) = c :: replaceFrom pattern replacement 0 y := by
  rw [replaceFrom, if_neg (by rwa [List.isPrefixOf_iff_prefix])]

/-- A text without an occurrence is left as it is. -/
theorem replaceFrom_of_no_occurrence (h : ¬ pattern <:+: x) :
    replaceFrom pattern replacement 0 x = x := by
  induction x with
  | nil => rfl
  | cons c rest ih =>
    rw [replaceFrom_cons_of_no_start (fun hstarts => h hstarts.isInfix),
      ih fun hoccurs => h (hoccurs.trans (List.suffix_cons c rest).isInfix)]

/-- A stretch in which no occurrence starts is left as it is. -/
theorem replaceFrom_append_of_notMem {d : Char} {rest : List Char} (hpattern : pattern = d :: rest)
    (hx : d ∉ x) (y : List Char) :
    replaceFrom pattern replacement 0 (x ++ y) = x ++ replaceFrom pattern replacement 0 y := by
  induction x with
  | nil => rfl
  | cons c front ih =>
    rw [List.mem_cons, not_or] at hx
    have hnot : ¬ pattern <+: c :: (front ++ y) := by
      rw [hpattern, List.cons_prefix_cons]
      exact fun h => hx.1 h.1
    rw [List.cons_append, replaceFrom_cons_of_no_start hnot, ih hx.2]
    rfl

/-- A match does not reach over a character that the pattern does not hold. -/
theorem prefix_append_cons_iff {c : Char} (hc : c ∉ pattern) (x y : List Char) :
    pattern <+: x ++ c :: y ↔ pattern <+: x := by
  constructor
  · rintro ⟨rest, hrest⟩
    rcases List.append_eq_append_iff.mp hrest with ⟨front, hx, -⟩ | ⟨front, hpattern, hy⟩
    · exact ⟨front, hx.symm⟩
    · cases front with
      | nil => exact ⟨[], by simpa using hpattern⟩
      | cons d front =>
        rw [List.cons_append, List.cons.injEq] at hy
        exact absurd (by simp [hpattern, hy.1]) hc
  · exact fun h => h.trans (List.prefix_append x _)

/-- No occurrence reaches over a character that the pattern does not have. -/
theorem replaceFrom_append_cons {c : Char} (hpattern : pattern ≠ []) (hc : c ∉ pattern) :
    ∀ (skip : Nat) (x y : List Char), skip ≤ x.length →
      replaceFrom pattern replacement skip (x ++ c :: y) =
        replaceFrom pattern replacement skip x ++ c :: replaceFrom pattern replacement 0 y := by
  intro skip x
  induction x generalizing skip with
  | nil =>
    intro y hskip
    obtain rfl : skip = 0 := Nat.le_zero.mp hskip
    obtain ⟨d, rest, rfl⟩ := List.exists_cons_of_ne_nil hpattern
    have hnot : ¬ d :: rest <+: c :: y := by
      rw [List.cons_prefix_cons]
      exact fun h => hc (by simp [h.1])
    exact replaceFrom_cons_of_no_start hnot
  | cons a front ih =>
    intro y hskip
    cases skip with
    | succ skip => exact ih skip y (Nat.le_of_succ_le_succ hskip)
    | zero =>
      have hreach : pattern <+: a :: (front ++ c :: y) ↔ pattern <+: a :: front :=
        prefix_append_cons_iff hc (a :: front) y
      by_cases hstarts : pattern <+: a :: front
      · have hle : pattern.length - 1 ≤ front.length := by
          have := hstarts.length_le
          simp only [List.length_cons] at this
          omega
        rw [List.cons_append, replaceFrom,
          if_pos (List.isPrefixOf_iff_prefix.mpr (hreach.mpr hstarts)), replaceFrom,
          if_pos (List.isPrefixOf_iff_prefix.mpr hstarts), ih _ y hle, List.append_assoc]
      · rw [List.cons_append, replaceFrom_cons_of_no_start (mt hreach.mp hstarts),
          replaceFrom_cons_of_no_start hstarts, ih 0 y (Nat.zero_le _), List.cons_append]

/-! ## What a replacement changes -/

/-- Replacing a text by itself changes nothing. -/
theorem replaceFrom_self (hpattern : pattern ≠ []) (skip : Nat) (x : List Char) :
    replaceFrom pattern pattern skip x = x.drop skip := by
  induction x generalizing skip with
  | nil => simp [replaceFrom]
  | cons c rest ih =>
    cases skip with
    | succ skip => exact ih skip
    | zero =>
      rw [replaceFrom]
      split
      · next hstarts =>
        obtain ⟨tail, htail⟩ := List.isPrefixOf_iff_prefix.mp hstarts
        obtain ⟨d, front, rfl⟩ := List.exists_cons_of_ne_nil hpattern
        rw [List.cons_append, List.cons.injEq] at htail
        rw [ih, List.length_cons, Nat.add_sub_cancel, ← htail.2, List.drop_left, htail.1]
        rfl
      · rw [ih]
        rfl

/-- A replacement by a longer text makes no text shorter, and one by a shorter text none longer. -/
theorem length_replaceFrom (replacement : List Char) (hpattern : pattern ≠ []) (skip : Nat)
    (x : List Char) :
    (pattern.length ≤ replacement.length →
        (x.drop skip).length ≤ (replaceFrom pattern replacement skip x).length) ∧
      (replacement.length ≤ pattern.length →
        (replaceFrom pattern replacement skip x).length ≤ (x.drop skip).length) := by
  have hpos : 0 < pattern.length := List.length_pos_of_ne_nil hpattern
  induction x generalizing skip with
  | nil => simp [replaceFrom]
  | cons c rest ih =>
    cases skip with
    | succ skip => exact ih skip
    | zero =>
      rw [replaceFrom]
      split
      · next hstarts =>
        have hle := (List.isPrefixOf_iff_prefix.mp hstarts).length_le
        have hrest := ih (pattern.length - 1)
        simp only [List.length_drop, List.drop_zero, List.length_append, List.length_cons]
          at hrest hle ⊢
        omega
      · have hrest := ih 0
        simp only [List.drop_zero, List.length_cons] at hrest ⊢
        omega

/-- At the first occurrence a text is split into what is left as it is, the occurrence, and the
rest. -/
theorem exists_first_occurrence (replacement : List Char) (hpattern : pattern ≠ [])
    (h : pattern <:+: x) :
    ∃ front rest, x = front ++ (pattern ++ rest) ∧
      replaceFrom pattern replacement 0 x =
        front ++ (replacement ++ replaceFrom pattern replacement 0 rest) := by
  induction x with
  | nil => exact absurd (List.eq_nil_of_infix_nil h) hpattern
  | cons c tail ih =>
    by_cases hstarts : pattern <+: c :: tail
    · obtain ⟨rest, hrest⟩ := hstarts
      refine ⟨[], rest, hrest.symm, ?_⟩
      rw [← hrest, replaceFrom_at_occurrence replacement hpattern]
      rfl
    · have hoccurs : pattern <:+: tail := (List.infix_cons_iff.mp h).resolve_left hstarts
      obtain ⟨front, rest, htail, hreplaced⟩ := ih hoccurs
      exact ⟨c :: front, rest, by rw [htail]; rfl,
        by rw [replaceFrom_cons_of_no_start hstarts, hreplaced]; rfl⟩

/-- A replacement leaves a text as it is exactly if there is nothing to replace or the replacement
is what it replaces. -/
theorem replaceFrom_eq_self_iff (hpattern : pattern ≠ []) :
    replaceFrom pattern replacement 0 x = x ↔ ¬ pattern <:+: x ∨ replacement = pattern := by
  constructor
  · intro hself
    by_cases hoccurs : pattern <:+: x
    · right
      obtain ⟨front, rest, hx, hreplaced⟩ := exists_first_occurrence replacement hpattern hoccurs
      rw [hself, hx] at hreplaced
      have htail : pattern ++ rest = replacement ++ replaceFrom pattern replacement 0 rest :=
        List.append_cancel_left hreplaced
      have hlengths := congrArg List.length htail
      obtain ⟨hlonger, hshorter⟩ := length_replaceFrom replacement hpattern 0 rest
      simp only [List.length_append, List.drop_zero] at hlengths hlonger hshorter
      exact (List.append_inj_left htail (by omega)).symm
    · exact Or.inl hoccurs
  · rintro (hoccurs | rfl)
    · exact replaceFrom_of_no_occurrence hoccurs
    · exact replaceFrom_self hpattern 0 x

/-! ## Placeholders -/

/-- A placeholder is its key in braces. -/
theorem toList_placeholder (key : String) :
    (placeholder key).toList = '\x7b' :: (key.toList ++ ['\x7d']) := by
  simp [placeholder]

theorem placeholder_ne_nil (key : String) : (placeholder key).toList ≠ [] := by
  rw [toList_placeholder]
  exact List.cons_ne_nil _ _

/-- A stretch without a brace is left as it is by every replacement of a placeholder. -/
theorem replaceFrom_placeholder_append (key : String) {x : List Char} (hx : '\x7b' ∉ x)
    (y : List Char) :
    replaceFrom (placeholder key).toList replacement 0 (x ++ y) =
      x ++ replaceFrom (placeholder key).toList replacement 0 y :=
  replaceFrom_append_of_notMem (toList_placeholder key) hx y

/-- A placeholder alone becomes the text of its parameter. -/
theorem replaceFrom_placeholder (key : String) (replacement : List Char) :
    replaceFrom (placeholder key).toList replacement 0 (placeholder key).toList = replacement := by
  have hone := replaceFrom_at_occurrence replacement (placeholder_ne_nil key) []
  rwa [List.append_nil, replaceFrom, List.append_nil] at hone

/-- Replacing goes through the text from its start. -/
theorem toList_replaceAll (pattern replacement text : String) :
    (replaceAll pattern replacement text).toList =
      replaceFrom pattern.toList replacement.toList 0 text.toList := by
  rw [replaceAll, String.toList_ofList]

/-! ## Filling in one pass, piece by piece -/

variable {params : List (String × String)}

theorem fillOnceFrom_nil (params : List (String × String)) (skip : Nat) :
    fillOnceFrom params skip [] = [] := by
  rw [fillOnceFrom]

/-- Without parameters there is nothing to fill in. -/
theorem fillOnceFrom_no_params (x : List Char) : fillOnceFrom [] 0 x = x := by
  induction x with
  | nil => rw [fillOnceFrom]
  | cons c rest ih => exact congrArg (c :: ·) ih

/-- What is left of a placeholder is passed over. -/
theorem fillOnceFrom_skip (params : List (String × String)) (x y : List Char) :
    fillOnceFrom params x.length (x ++ y) = fillOnceFrom params 0 y := by
  induction x with
  | nil => rfl
  | cons c rest ih => exact ih

/-- A stretch without a brace is left as it is. -/
theorem fillOnceFrom_append (params : List (String × String)) {x : List Char} (hx : '\x7b' ∉ x)
    (y : List Char) : fillOnceFrom params 0 (x ++ y) = x ++ fillOnceFrom params 0 y := by
  induction x with
  | nil => rfl
  | cons c rest ih =>
    rw [List.mem_cons, not_or] at hx
    have hnone : (params.find? fun p =>
        (placeholder p.1).toList.isPrefixOf (c :: (rest ++ y))) = none := by
      rw [List.find?_eq_none]
      intro p _
      rw [List.isPrefixOf_iff_prefix, toList_placeholder, List.cons_prefix_cons]
      exact fun h => hx.1 h.1
    rw [List.cons_append, fillOnceFrom, hnone]
    exact congrArg (c :: ·) (ih hx.2)

/-- Where a placeholder starts, the text of the parameter found for it is put in. -/
theorem fillOnceFrom_placeholder (p : String × String) (y : List Char)
    (hfind : (params.find? fun p' =>
      (placeholder p'.1).toList.isPrefixOf ((placeholder p.1).toList ++ y)) = some p) :
    fillOnceFrom params 0 ((placeholder p.1).toList ++ y) =
      p.2.toList ++ fillOnceFrom params 0 y := by
  rw [toList_placeholder, List.cons_append] at hfind ⊢
  rw [fillOnceFrom, hfind]
  simp only
  rw [toList_placeholder, List.length_cons, Nat.add_sub_cancel, fillOnceFrom_skip]

/-- Where the placeholder of the first parameter starts, its text is put in. -/
theorem fillOnceFrom_first (key v : String) (others : List (String × String)) (y : List Char) :
    fillOnceFrom ((key, v) :: others) 0 ((placeholder key).toList ++ y) =
      v.toList ++ fillOnceFrom ((key, v) :: others) 0 y := by
  refine fillOnceFrom_placeholder (key, v) y ?_
  rw [List.find?_cons_of_pos]
  exact List.isPrefixOf_iff_prefix.mpr (List.prefix_append _ y)

/-- Where the placeholder of the second parameter starts, and not that of the first one, its text is
put in. -/
theorem fillOnceFrom_second {key : String} {p : String × String} (v : String)
    (others : List (String × String)) {y : List Char}
    (h : ¬ (placeholder p.1).toList <+: (placeholder key).toList ++ y) :
    fillOnceFrom (p :: (key, v) :: others) 0 ((placeholder key).toList ++ y) =
      v.toList ++ fillOnceFrom (p :: (key, v) :: others) 0 y := by
  refine fillOnceFrom_placeholder (key, v) y ?_
  rw [List.find?_cons_of_neg (by rwa [List.isPrefixOf_iff_prefix]), List.find?_cons_of_pos]
  exact List.isPrefixOf_iff_prefix.mpr (List.prefix_append _ y)

end Text
end PanelForms
