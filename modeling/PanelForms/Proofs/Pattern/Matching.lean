import Mathlib.Data.List.Nodup
import Mathlib.Data.List.Perm.Subperm
import Mathlib.Data.List.Range
import Mathlib.Data.List.TakeWhile
import PanelForms.Pattern.Expr

/-!
# What a pattern matches

The search computes with sets of positions and stops repeating an expression as soon as no new
position is found.  This module says which words an expression matches, in the text that they
stand in, and shows that the search finds exactly these.

Main results:

- Definition `Expr.Matches`: an expression matches a word between two texts.
- Theorem `Realizes.reach_all`: repeating a step until nothing is new finds all that it can reach.
- Theorem `Expr.realizes_ends`: the positions where a match can end.
- Theorem `Expr.occursIn_iff`: a pattern occurs in a text if it matches some word of it.
-/

namespace PanelForms
namespace Pattern

/-! ## Words in a text -/

/-- A condition on a word, given the text before it and the text after it. -/
abbrev WordCondition := (before word after : List Char) → Prop

namespace WordCondition

/-- One word after the other. -/
def andThen (R S : WordCondition) : WordCondition := fun before word after =>
  ∃ u v, word = u ++ v ∧ R before u (v ++ after) ∧ S (before ++ u) v after

/-- A number of words in a row. -/
def times (R : WordCondition) : Nat → WordCondition
  | 0 => fun _ word _ => word = []
  | n + 1 => R.andThen (R.times n)

end WordCondition

/-- What an expression matches: a word, between the texts before and after it. -/
def Expr.Matches : Expr → WordCondition
  | .empty => fun _ word _ => word = []
  | .chars set => fun _ word _ => ∃ c, word = [c] ∧ set.contains c.toNat = true
  | .assertion a => fun before word after =>
      word = [] ∧ a.holds (before.getLast?.map Char.toNat) (after.head?.map Char.toNat) = true
  | .seq first second => first.Matches.andThen second.Matches
  | .alt left right => fun before word after =>
      left.Matches before word after ∨ right.Matches before word after
  | .repeated body least most => fun before word after =>
      ∃ more, (∀ bound, most = some bound → more ≤ bound - least) ∧
        body.Matches.times (least + more) before word after

/-- The word between two positions of a text satisfies a condition. -/
def Between (text : List Char) (R : WordCondition) (i j : Nat) : Prop :=
  ∃ before word after, text = before ++ (word ++ after) ∧ i = before.length ∧
    j = i + word.length ∧ R before word after

section between

variable {text : List Char} {R S : WordCondition} {i j : Nat}

/-- The empty word stands at every position. -/
theorem between_empty : Between text (fun _ word _ => word = []) i j ↔ i ≤ text.length ∧ i = j := by
  constructor
  · rintro ⟨before, word, after, rfl, rfl, rfl, rfl⟩
    simp
  · rintro ⟨hle, rfl⟩
    exact ⟨text.take i, [], text.drop i, by simp, by simp [hle], by simp, rfl⟩

/-- A word that satisfies either condition stands between two positions exactly if a word for one of
the two does. -/
theorem between_or :
    Between text (fun before word after => R before word after ∨ S before word after) i j ↔
      Between text R i j ∨ Between text S i j := by
  constructor
  · rintro ⟨before, word, after, htext, hi, hj, hR | hS⟩
    · exact Or.inl ⟨before, word, after, htext, hi, hj, hR⟩
    · exact Or.inr ⟨before, word, after, htext, hi, hj, hS⟩
  · rintro (⟨before, word, after, htext, hi, hj, hR⟩ | ⟨before, word, after, htext, hi, hj, hS⟩)
    · exact ⟨before, word, after, htext, hi, hj, Or.inl hR⟩
    · exact ⟨before, word, after, htext, hi, hj, Or.inr hS⟩

/-- A word that satisfies one of many conditions stands between two positions exactly if a word for
one of them does. -/
theorem between_exists {P : Nat → Prop} {Q : Nat → WordCondition} :
    Between text (fun before word after => ∃ n, P n ∧ Q n before word after) i j ↔
      ∃ n, P n ∧ Between text (Q n) i j := by
  constructor
  · rintro ⟨before, word, after, htext, hi, hj, n, hP, hQ⟩
    exact ⟨n, hP, before, word, after, htext, hi, hj, hQ⟩
  · rintro ⟨n, hP, before, word, after, htext, hi, hj, hQ⟩
    exact ⟨before, word, after, htext, hi, hj, n, hP, hQ⟩

/-- A word of one character stands where that character does. -/
theorem between_single {P : Char → Prop} :
    Between text (fun _ word _ => ∃ c, word = [c] ∧ P c) i j ↔
      j = i + 1 ∧ ∃ c, text[i]? = some c ∧ P c := by
  constructor
  · rintro ⟨before, word, after, rfl, rfl, rfl, c, rfl, hc⟩
    exact ⟨rfl, c, by simp, hc⟩
  · rintro ⟨rfl, c, hget, hc⟩
    obtain ⟨hlt, rfl⟩ := List.getElem?_eq_some_iff.1 hget
    refine ⟨text.take i, [text[i]], text.drop (i + 1), ?_, ?_, rfl, _, rfl, hc⟩
    · rw [List.singleton_append, ← List.drop_eq_getElem_cons hlt, List.take_append_drop]
    · rw [List.length_take, Nat.min_eq_left hlt.le]

/-- The empty word stands where a condition holds of what is before and after it. -/
theorem between_condition {P : List Char → List Char → Prop} :
    Between text (fun before word after => word = [] ∧ P before after) i j ↔
      i ≤ text.length ∧ i = j ∧ P (text.take i) (text.drop i) := by
  constructor
  · rintro ⟨before, word, after, rfl, rfl, rfl, rfl, hP⟩
    simpa using hP
  · rintro ⟨hle, rfl, hP⟩
    exact ⟨text.take i, [], text.drop i, by simp, by simp [hle], by simp, rfl, hP⟩

/-- One word after the other stands between two positions exactly if there is a position in between
where they meet. -/
theorem between_andThen :
    Between text (R.andThen S) i j ↔ ∃ k, Between text R i k ∧ Between text S k j := by
  constructor
  · rintro ⟨before, word, after, htext, hi, hj, u, v, rfl, hu, hv⟩
    refine ⟨i + u.length, ⟨before, u, v ++ after, ?_, hi, rfl, hu⟩,
      ⟨before ++ u, v, after, ?_, ?_, ?_, hv⟩⟩
    · rw [htext, List.append_assoc]
    · rw [htext, List.append_assoc, List.append_assoc]
    · rw [List.length_append, hi]
    · rw [hj, List.length_append, Nat.add_assoc]
  · rintro ⟨k, ⟨before, u, rest, htext, hi, hk, hu⟩, ⟨front, v, after, htext', hk', hj, hv⟩⟩
    -- Both halves split the same text at `k`.
    have hsplit : (before ++ u) ++ rest = front ++ (v ++ after) := by
      rw [List.append_assoc, ← htext, htext']
    have hlength : (before ++ u).length = front.length := by
      rw [List.length_append, ← hi, ← hk, hk']
    obtain ⟨rfl, rfl⟩ := List.append_inj hsplit hlength
    refine ⟨before, u ++ v, after, ?_, hi, ?_, u, v, rfl, hu, hv⟩
    · rw [htext, List.append_assoc]
    · rw [hj, hk, List.length_append, Nat.add_assoc]

end between

/-! ## Steps on positions -/

/-- A number of steps in a row. -/
def Steps (L : Nat → Nat → Prop) : Nat → Nat → Nat → Prop
  | 0, p, q => p = q
  | n + 1, p, q => ∃ k, L p k ∧ Steps L n k q

/-- A number of words in a row are as many steps from position to position. -/
theorem between_times {text : List Char} {R : WordCondition} {i j : Nat} (n : Nat)
    (hi : i ≤ text.length) :
    Between text (R.times n) i j ↔ Steps (Between text R) n i j := by
  induction n generalizing i with
  | zero => simp [WordCondition.times, between_empty, Steps, hi]
  | succ n ih =>
    rw [WordCondition.times, between_andThen, Steps]
    refine exists_congr fun k => and_congr_right fun hk => ih ?_
    obtain ⟨before, word, after, rfl, rfl, rfl, -⟩ := hk
    simp only [List.length_append]
    omega

/-- Steps may be taken in two parts. -/
theorem Steps.add {L : Nat → Nat → Prop} {m n p q : Nat} :
    Steps L (m + n) p q ↔ ∃ k, Steps L m p k ∧ Steps L n k q := by
  induction m generalizing p with
  | zero => simp [Steps]
  | succ m ih =>
    rw [Nat.succ_add, Steps]
    simp only [ih, Steps]
    constructor
    · rintro ⟨k, hk, l, hm, hn⟩
      exact ⟨l, ⟨k, hk, hm⟩, hn⟩
    · rintro ⟨l, ⟨k, hk, hm⟩, hn⟩
      exact ⟨k, hk, l, hm, hn⟩

/-- A set of positions of a text of some length, in ascending order. -/
structure Positions (length : Nat) (ps : List Nat) : Prop where
  ascending : ps.Pairwise (· < ·)
  within : ∀ p ∈ ps, p ≤ length

/-- A text has one position more than characters. -/
theorem Positions.length_le {length : Nat} {ps : List Nat} (h : Positions length ps) :
    ps.length ≤ length + 1 := by
  have hnodup : ps.Nodup := h.ascending.imp fun hlt => Nat.ne_of_lt hlt
  have hsubset : ps ⊆ List.range (length + 1) := fun p hp =>
    List.mem_range.2 (Nat.lt_succ_of_le (h.within p hp))
  have hle := (List.subperm_of_subset hnodup hsubset).length_le
  rwa [List.length_range] at hle

/-! ## Unions of positions -/

/-- Merging keeps the positions of both lists. -/
theorem mem_mergePositions {xs ys : List Nat} {q : Nat} :
    q ∈ mergePositions xs ys ↔ q ∈ xs ∨ q ∈ ys := by
  induction xs generalizing ys with
  | nil => simp [mergePositions]
  | cons x xs ih =>
    have hbelow : q ∈ ys ↔ q ∈ ys.takeWhile (· < x) ∨ q ∈ ys.dropWhile (· < x) := by
      rw [← List.mem_append, List.takeWhile_append_dropWhile]
    have hrest : q ∈ ys.dropWhile (· < x) ↔
        q ∈ (ys.dropWhile (· < x)).takeWhile (· = x) ∨
          q ∈ (ys.dropWhile (· < x)).dropWhile (· = x) := by
      rw [← List.mem_append, List.takeWhile_append_dropWhile]
    have hsame : q ∈ (ys.dropWhile (· < x)).takeWhile (· = x) → q = x := fun h => by
      simpa using List.mem_takeWhile_imp h
    simp only [mergePositions, List.mem_append, List.mem_cons, ih, hbelow, hrest]
    tauto

/-- The first list is left in order by merging. -/
theorem sublist_mergePositions (xs ys : List Nat) : List.Sublist xs (mergePositions xs ys) := by
  induction xs generalizing ys with
  | nil => exact List.nil_sublist _
  | cons x xs ih =>
    exact ((ih _).cons_cons x).trans (List.sublist_append_right _ _)

/-- What is left of an ascending list without its members below `x` is not below `x`. -/
theorem le_of_mem_dropWhile {x q : Nat} {ys : List Nat} (hys : ys.Pairwise (· < ·))
    (hq : q ∈ ys.dropWhile (· < x)) : x ≤ q := by
  induction ys with
  | nil => cases hq
  | cons y ys ih =>
    obtain ⟨hy, hys⟩ := List.pairwise_cons.1 hys
    by_cases hlt : y < x
    · rw [List.dropWhile_cons_of_pos (by simpa using hlt)] at hq
      exact ih hys hq
    · rw [List.dropWhile_cons_of_neg (by simpa using hlt)] at hq
      rcases List.mem_cons.1 hq with rfl | hq
      · omega
      · have := hy q hq
        omega

/-- What is left of an ascending list without its members up to `x` is above `x`. -/
theorem lt_of_mem_dropWhile {x q : Nat} {ys : List Nat} (hys : ys.Pairwise (· < ·))
    (hq : q ∈ (ys.dropWhile (· < x)).dropWhile (· = x)) : x < q := by
  have hge : ∀ y ∈ ys.dropWhile (· < x), x ≤ y := fun y hy => le_of_mem_dropWhile hys hy
  have hascending := hys.sublist (List.dropWhile_sublist fun y => decide (y < x))
  generalize ys.dropWhile (· < x) = zs at hq hge hascending
  cases zs with
  | nil => cases hq
  | cons z zs =>
    have hz := hge z List.mem_cons_self
    have hlt := (List.pairwise_cons.1 hascending).1
    by_cases heq : z = x
    · rw [List.dropWhile_cons_of_pos (by simpa using heq)] at hq
      have := hlt q ((List.dropWhile_sublist _).subset hq)
      omega
    · rw [List.dropWhile_cons_of_neg (by simpa using heq)] at hq
      rcases List.mem_cons.1 hq with rfl | hq
      · omega
      · have := hlt q hq
        omega

/-- Merging keeps the positions ascending. -/
theorem pairwise_mergePositions {xs ys : List Nat} (hxs : xs.Pairwise (· < ·))
    (hys : ys.Pairwise (· < ·)) : (mergePositions xs ys).Pairwise (· < ·) := by
  induction xs generalizing ys with
  | nil => exact hys
  | cons x xs ih =>
    obtain ⟨hx, hxs⟩ := List.pairwise_cons.1 hxs
    have hrest : ((ys.dropWhile (· < x)).dropWhile (· = x)).Pairwise (· < ·) :=
      hys.sublist ((List.dropWhile_sublist _).trans (List.dropWhile_sublist _))
    have hbelow : ∀ y ∈ ys.takeWhile (· < x), y < x := fun y hy => by
      simpa using List.mem_takeWhile_imp hy
    refine List.pairwise_append.2 ⟨hys.sublist (List.takeWhile_sublist _),
      List.pairwise_cons.2 ⟨?_, ih hxs hrest⟩, ?_⟩
    · intro y hy
      rcases mem_mergePositions.1 hy with hy | hy
      · exact hx y hy
      · exact lt_of_mem_dropWhile hys hy
    · intro y hy z hz
      rcases List.mem_cons.1 hz with rfl | hz
      · exact hbelow y hy
      · rcases mem_mergePositions.1 hz with hz | hz
        · exact (hbelow y hy).trans (hx z hz)
        · exact (hbelow y hy).trans (lt_of_mem_dropWhile hys hz)

/-- Two sets of positions of a text make up one. -/
theorem Positions.merge {length : Nat} {xs ys : List Nat} (hxs : Positions length xs)
    (hys : Positions length ys) : Positions length (mergePositions xs ys) where
  ascending := pairwise_mergePositions hxs.ascending hys.ascending
  within p hp := (mem_mergePositions.1 hp).elim (hxs.within p) (hys.within p)

/-! ## Functions on sets of positions -/

/-- A function on sets of positions follows a relation between positions. -/
structure Realizes (length : Nat) (step : List Nat → List Nat) (L : Nat → Nat → Prop) : Prop where
  positions : ∀ {ps}, Positions length ps → Positions length (step ps)
  mem_iff : ∀ {ps}, Positions length ps → ∀ q, q ∈ step ps ↔ ∃ p ∈ ps, L p q

namespace Realizes

variable {length : Nat} {step other : List Nat → List Nat} {L M : Nat → Nat → Prop}

/-- Only what a relation says of the positions of the text counts. -/
theorem congr (h : Realizes length step L)
    (hcongr : ∀ p q, p ≤ length → (L p q ↔ M p q)) : Realizes length step M where
  positions := h.positions
  mem_iff hps q := by
    rw [h.mem_iff hps]
    exact exists_congr fun p => and_congr_right fun hp => hcongr p q (hps.within p hp)

/-- One function after the other follows the relations in a row. -/
theorem comp (h : Realizes length step L) (h' : Realizes length other M) :
    Realizes length (fun ps => other (step ps)) fun p q => ∃ k, L p k ∧ M k q where
  positions hps := h'.positions (h.positions hps)
  mem_iff hps q := by
    simp only [h'.mem_iff (h.positions hps), h.mem_iff hps]
    constructor
    · rintro ⟨k, ⟨p, hp, hk⟩, hq⟩
      exact ⟨p, hp, k, hk, hq⟩
    · rintro ⟨p, hp, k, hk, hq⟩
      exact ⟨k, ⟨p, hp, hk⟩, hq⟩

/-- Merging what two functions give follows either relation. -/
theorem merge (h : Realizes length step L) (h' : Realizes length other M) :
    Realizes length (fun ps => mergePositions (step ps) (other ps)) fun p q => L p q ∨ M p q where
  positions hps := (h.positions hps).merge (h'.positions hps)
  mem_iff hps q := by
    rw [mem_mergePositions, h.mem_iff hps, h'.mem_iff hps]
    constructor
    · rintro (⟨p, hp, hq⟩ | ⟨p, hp, hq⟩)
      · exact ⟨p, hp, Or.inl hq⟩
      · exact ⟨p, hp, Or.inr hq⟩
    · rintro ⟨p, hp, hq | hq⟩
      · exact Or.inl ⟨p, hp, hq⟩
      · exact Or.inr ⟨p, hp, hq⟩

/-- A function that is applied so often follows that number of steps. -/
theorem iterate (h : Realizes length step L) (n : Nat) :
    Realizes length (iterate step n) (Steps L n) := by
  induction n with
  | zero => exact ⟨id, fun _ q => by simp [Pattern.iterate, Steps]⟩
  | succ n ih =>
    have hstep := h.comp ih
    have heq : ∀ ps, Positions length ps →
        Pattern.iterate step (n + 1) ps = Pattern.iterate step n (step ps) ∨ ps = [] := by
      intro ps _
      cases ps with
      | nil => exact Or.inr rfl
      | cons p ps => exact Or.inl rfl
    constructor
    · intro ps hps
      rcases heq ps hps with heq | rfl
      · rw [heq]
        exact hstep.positions hps
      · exact hps
    · intro ps hps q
      rcases heq ps hps with heq | rfl
      · rw [heq]
        exact hstep.mem_iff hps q
      · simp [Pattern.iterate]

section reach

variable {ps : List Nat}

/-- A step that adds no position leads nowhere else. -/
theorem mem_of_stalled (h : Realizes length step L) (hps : Positions length ps)
    (hstalled : (mergePositions ps (step ps)).length = ps.length) {n p q : Nat} (hp : p ∈ ps)
    (hsteps : Steps L n p q) : q ∈ ps := by
  have hsame : ps = mergePositions ps (step ps) :=
    (sublist_mergePositions ps (step ps)).eq_of_length hstalled.symm
  induction n generalizing p with
  | zero =>
    cases hsteps
    exact hp
  | succ n ih =>
    obtain ⟨k, hk, hrest⟩ := hsteps
    refine ih ?_ hrest
    rw [hsame]
    exact mem_mergePositions.2 (Or.inr ((h.mem_iff hps _).2 ⟨p, hp, hk⟩))

/-- Going on from positions of the text leads to positions of the text. -/
theorem positions_reach (h : Realizes length step L) (n : Nat) (hps : Positions length ps) :
    Positions length (reach step n ps) := by
  induction n generalizing ps with
  | zero => exact hps
  | succ n ih =>
    rw [reach]
    split
    · exact hps
    · exact ih (hps.merge (h.positions hps))

/-- Going on so often reaches what that many steps or fewer lead to. -/
theorem mem_reach_iff (h : Realizes length step L) (n : Nat) (hps : Positions length ps) {q : Nat} :
    q ∈ reach step n ps ↔ ∃ p ∈ ps, ∃ k ≤ n, Steps L k p q := by
  induction n generalizing ps with
  | zero => simp [reach, Steps]
  | succ n ih =>
    rw [reach]
    split
    next hstalled =>
      constructor
      · intro hq
        exact ⟨q, hq, 0, Nat.zero_le _, rfl⟩
      · rintro ⟨p, hp, k, -, hsteps⟩
        exact h.mem_of_stalled hps hstalled hp hsteps
    next =>
      rw [ih (hps.merge (h.positions hps))]
      constructor
      · rintro ⟨p, hp, k, hk, hsteps⟩
        rcases mem_mergePositions.1 hp with hp | hp
        · exact ⟨p, hp, k, by omega, hsteps⟩
        · obtain ⟨p₀, hp₀, hfirst⟩ := (h.mem_iff hps _).1 hp
          exact ⟨p₀, hp₀, k + 1, by omega, p, hfirst, hsteps⟩
      · rintro ⟨p, hp, k, hk, hsteps⟩
        cases k with
        | zero => exact ⟨p, mem_mergePositions.2 (Or.inl hp), 0, Nat.zero_le _, hsteps⟩
        | succ k =>
          obtain ⟨p₁, hfirst, hrest⟩ := hsteps
          have hmem : p₁ ∈ step ps := (h.mem_iff hps _).2 ⟨p, hp, hfirst⟩
          exact ⟨p₁, mem_mergePositions.2 (Or.inr hmem), k, by omega, hrest⟩

/-- Repeating a step a number of times finds all that so many steps can reach. -/
theorem reach (h : Realizes length step L) (n : Nat) :
    Realizes length (Pattern.reach step n) fun p q => ∃ k ≤ n, Steps L k p q where
  positions hps := h.positions_reach n hps
  mem_iff hps _ := h.mem_reach_iff n hps

/-- With one more step than there is room for new positions, a stall is certain. -/
theorem mem_reach_of_steps (h : Realizes length step L) {n : Nat} (hps : Positions length ps)
    (hroom : length + 1 < n + ps.length) {k p q : Nat} (hp : p ∈ ps) (hsteps : Steps L k p q) :
    q ∈ Pattern.reach step n ps := by
  induction n generalizing ps with
  | zero =>
    have hle := hps.length_le
    omega
  | succ n ih =>
    rw [Pattern.reach]
    split
    next hstalled => exact h.mem_of_stalled hps hstalled hp hsteps
    next hgrown =>
      have hle := (sublist_mergePositions ps (step ps)).length_le
      exact ih (hps.merge (h.positions hps)) (by omega) (mem_mergePositions.2 (Or.inl hp))

/-- Repeating a step until nothing is new finds all that it can reach. -/
theorem reach_all (h : Realizes length step L) :
    Realizes length (Pattern.reach step (length + 1)) fun p q => ∃ k, Steps L k p q where
  positions hps := h.positions_reach _ hps
  mem_iff hps q := by
    constructor
    · intro hq
      obtain ⟨p, hp, k, -, hsteps⟩ := (h.mem_reach_iff _ hps).1 hq
      exact ⟨p, hp, k, hsteps⟩
    · rintro ⟨p, hp, k, hsteps⟩
      have hpos := List.length_pos_of_mem hp
      exact h.mem_reach_of_steps hps (by omega) hp hsteps

end reach
end Realizes

/-! ## The search -/

namespace Expr

/-- The code points of a text, as the search sees them. -/
def codes (text : List Char) : Array Nat :=
  (text.map Char.toNat).toArray

theorem getElem?_codes (text : List Char) (p : Nat) :
    (codes text)[p]? = text[p]?.map Char.toNat := by
  simp [codes]

theorem size_codes (text : List Char) : (codes text).size = text.length := by
  simp [codes]

/-- The search for a class moves over one character of it. -/
theorem realizes_chars (text : List Char) (set : CharSet) :
    Realizes text.length (ends (codes text) (.chars set)) (Between text (Matches (.chars set))) := by
  have hmem : ∀ ps q, q ∈ ends (codes text) (.chars set) ps ↔
      ∃ p ∈ ps, q = p + 1 ∧ ∃ c, text[p]? = some c ∧ set.contains c.toNat = true := by
    intro ps q
    simp only [ends, List.mem_filterMap, getElem?_codes]
    refine exists_congr fun p => and_congr_right fun _ => ?_
    cases text[p]? with
    | none => simp
    | some c =>
      by_cases hc : set.contains c.toNat = true
      · simp [hc, eq_comm (a := q)]
      · simp [hc]
  constructor
  · intro ps hps
    constructor
    · refine hps.ascending.filterMap _ ?_
      intro p p' hlt q hq q' hq'
      split at hq
      · split at hq'
        · cases hq
          cases hq'
          omega
        · cases hq'
      · cases hq
    · intro q hq
      obtain ⟨p, -, rfl, c, hget, -⟩ := (hmem ps q).1 hq
      exact (List.getElem?_eq_some_iff.1 hget).1
  · intro ps _ q
    rw [hmem]
    exact exists_congr fun p => and_congr_right fun _ => between_single.symm

/-- The search for an assertion stays where the assertion holds. -/
theorem realizes_assertion (text : List Char) (a : Assertion) :
    Realizes text.length (ends (codes text) (.assertion a))
      (Between text (Matches (.assertion a))) := by
  constructor
  · intro ps hps
    exact ⟨hps.ascending.filter _, fun p hp => hps.within p (List.mem_filter.1 hp).1⟩
  · intro ps hps q
    have hbefore : ∀ p ≤ text.length, (if p = 0 then none else (codes text)[p - 1]?) =
        (text.take p).getLast?.map Char.toNat := by
      intro p hp
      by_cases hzero : p = 0
      · simp [hzero]
      · have hlt : p - 1 < text.length := by omega
        simp [getElem?_codes, List.getLast?_take, hzero, List.getElem?_eq_getElem hlt]
    have hafter : ∀ p : Nat, (codes text)[p]? = (text.drop p).head?.map Char.toNat := by
      intro p
      rw [getElem?_codes, List.head?_drop]
    simp only [ends, List.mem_filter, Matches, between_condition]
    constructor
    · rintro ⟨hq, hholds⟩
      refine ⟨q, hq, hps.within q hq, rfl, ?_⟩
      rwa [hbefore q (hps.within q hq), hafter] at hholds
    · rintro ⟨p, hp, hle, rfl, hholds⟩
      refine ⟨hp, ?_⟩
      rwa [hbefore p hle, hafter]

/-- The search for a repetition goes on as often as the bounds allow, if that for the body is
right. -/
theorem realizes_repeated {text : List Char} {body : Expr} (least : Nat) (most : Option Nat)
    (h : Realizes text.length (body.ends (codes text)) (Between text body.Matches)) :
    Realizes text.length (ends (codes text) (.repeated body least most))
      (Between text (Matches (.repeated body least most))) := by
  have hstart := h.iterate least
  cases most with
  | none =>
    have hall := hstart.comp h.reach_all
    rw [← size_codes text] at hall ⊢
    refine hall.congr fun p q hp => ?_
    rw [size_codes] at hp
    simp only [Matches, between_exists, between_times _ hp, Steps.add]
    constructor
    · rintro ⟨k, hleast, more, hmore⟩
      exact ⟨more, nofun, k, hleast, hmore⟩
    · rintro ⟨more, -, k, hleast, hmore⟩
      exact ⟨k, hleast, more, hmore⟩
  | some bound =>
    refine (hstart.comp (h.reach (bound - least))).congr fun p q hp => ?_
    simp only [Matches, between_exists, between_times _ hp, Steps.add]
    constructor
    · rintro ⟨k, hleast, more, hle, hmore⟩
      refine ⟨more, fun b hb => ?_, k, hleast, hmore⟩
      cases hb
      exact hle
    · rintro ⟨more, hle, k, hleast, hmore⟩
      exact ⟨k, hleast, more, hle bound rfl, hmore⟩

/-- The search finds the positions where a match can end. -/
theorem realizes_ends (text : List Char) (e : Expr) :
    Realizes text.length (e.ends (codes text)) (Between text e.Matches) := by
  induction e with
  | empty =>
    constructor
    · intro ps hps
      exact hps
    · intro ps hps q
      simp only [Matches, between_empty]
      constructor
      · intro hq
        exact ⟨q, hq, hps.within q hq, rfl⟩
      · rintro ⟨p, hp, -, rfl⟩
        exact hp
  | chars set => exact realizes_chars text set
  | assertion a => exact realizes_assertion text a
  | seq first second ihfirst ihsecond =>
    exact (ihfirst.comp ihsecond).congr fun p q _ => between_andThen.symm
  | alt left right ihleft ihright =>
    exact (ihleft.merge ihright).congr fun p q _ => between_or.symm
  | repeated body least most ih => exact realizes_repeated least most ih

/-- A pattern occurs in a text if it matches some word of it. -/
theorem occursIn_iff (e : Expr) (text : String) :
    e.occursIn text = true ↔
      ∃ before word after, text.toList = before ++ (word ++ after) ∧
        e.Matches before word after := by
  have hall : Positions text.toList.length (List.range (text.toList.length + 1)) :=
    ⟨List.pairwise_lt_range, fun p hp => Nat.le_of_lt_succ (List.mem_range.1 hp)⟩
  have hmem := (realizes_ends text.toList e).mem_iff hall
  have hoccurs : e.occursIn text = true ↔
      ∃ q, q ∈ e.ends (codes text.toList) (List.range (text.toList.length + 1)) := by
    rw [← size_codes, ← List.isEmpty_eq_false_iff_exists_mem]
    exact Iff.of_eq (Bool.not_eq_true' _)
  rw [hoccurs]
  simp only [hmem]
  constructor
  · rintro ⟨q, p, -, before, word, after, htext, -, -, hmatches⟩
    exact ⟨before, word, after, htext, hmatches⟩
  · rintro ⟨before, word, after, htext, hmatches⟩
    refine ⟨_, before.length, ?_, before, word, after, htext, rfl, rfl, hmatches⟩
    rw [htext, List.mem_range]
    simp only [List.length_append]
    omega

end Expr
end Pattern
end PanelForms
