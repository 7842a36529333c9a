import Mathlib.Data.List.Forall2

/-!
# Results of what can fail

Readers, encoders and calls return an error or a result, and are put together by mapping and by
sequencing.  A composite has a result exactly if its parts have.

Main results:

- Theorems `Except.map_eq_ok_iff`, `Except.mapError_eq_ok_iff` and `Except.bind_eq_ok_iff`: when a
  composite has a result, and which.
- Theorem `Except.exists_mapM_eq_ok`: a list is traversed with a result if each of its items has
  one.
- Theorems `Except.mapM_eq_ok_iff` and `Except.mapM_eq_error_iff`: the results of a traversal are
  those of the items, and the first item without one decides its error.
-/

namespace PanelForms
namespace Except

variable {ε ε' α β : Type}

/-- A mapped result is there exactly if the result is. -/
theorem map_eq_ok_iff {x : Except ε α} {f : α → β} {b : β} :
    x.map f = .ok b ↔ ∃ a, x = .ok a ∧ f a = b := by
  cases x <;> simp [Except.map]

/-- Renaming errors leaves results alone. -/
theorem mapError_eq_ok_iff {x : Except ε α} {f : ε → ε'} {a : α} :
    x.mapError f = .ok a ↔ x = .ok a := by
  cases x with
  | error e => exact ⟨nofun, nofun⟩
  | ok b =>
    show Except.ok b = .ok a ↔ Except.ok b = .ok a
    rw [Except.ok.injEq, Except.ok.injEq]

/-- Forgetting the error keeps exactly the results. -/
theorem toOption_eq_some_iff {x : Except ε α} {a : α} : x.toOption = some a ↔ x = .ok a := by
  cases x <;> simp [Except.toOption]

/-- Two steps succeed exactly if the first does, and the second does with its result. -/
theorem bind_eq_ok_iff {x : Except ε α} {f : α → Except ε β} {b : β} :
    (x >>= f) = .ok b ↔ ∃ a, x = .ok a ∧ f a = .ok b := by
  cases x <;> simp [bind, Except.bind]

/-- If every item has a result of a kind, the list is traversed with results of that kind. -/
theorem exists_mapM_eq_ok {f : α → Except ε β} {as : List α} {Kind : β → Prop}
    (h : ∀ a ∈ as, ∃ b, f a = .ok b ∧ Kind b) :
    ∃ bs, as.mapM f = .ok bs ∧ ∀ b ∈ bs, Kind b := by
  induction as with
  | nil => exact ⟨[], by simp [pure, Except.pure], by simp⟩
  | cons a rest ih =>
    obtain ⟨b, hb, hkind⟩ := h a List.mem_cons_self
    obtain ⟨bs, hbs, hkinds⟩ := ih fun other hother => h other (List.mem_cons_of_mem _ hother)
    refine ⟨b :: bs, ?_, fun other hother => ?_⟩
    · simp only [List.mapM_cons, hb, hbs, bind, Except.bind, pure, Except.pure]
    · rcases List.mem_cons.1 hother with rfl | hother
      · exact hkind
      · exact hkinds other hother

/-- A traversal depends on the results of the items only. -/
theorem mapM_congr {f g : α → Except ε β} {as : List α} (h : ∀ a ∈ as, f a = g a) :
    as.mapM f = as.mapM g := by
  induction as with
  | nil => rfl
  | cons a rest ih =>
    obtain ⟨ha, hrest⟩ := List.forall_mem_cons.1 h
    rw [List.mapM_cons, List.mapM_cons, ha, ih hrest]

/-- The results of a traversal are those of the items, in order. -/
theorem mapM_eq_ok_iff {f : α → Except ε β} {as : List α} {bs : List β} :
    as.mapM f = .ok bs ↔ List.Forall₂ (fun a b => f a = .ok b) as bs := by
  induction as generalizing bs with
  | nil => simp [pure, Except.pure, eq_comm]
  | cons a rest ih =>
    simp only [List.mapM_cons, bind_eq_ok_iff, ih, List.forall₂_cons_left_iff, pure, Except.pure,
      Except.ok.injEq]
    constructor
    · rintro ⟨b, hb, others, hothers, rfl⟩
      exact ⟨b, others, hb, hothers, rfl⟩
    · rintro ⟨b, others, hb, hothers, rfl⟩
      exact ⟨b, hb, others, hothers, rfl⟩

/-- A traversal that goes through succeeds at every element. -/
theorem exists_of_mem_of_mapM_eq_ok {f : α → Except ε β} {as : List α} {bs : List β}
    (h : as.mapM f = .ok bs) {a : α} (ha : a ∈ as) : ∃ b ∈ bs, f a = .ok b := by
  rw [mapM_eq_ok_iff] at h
  induction h with
  | nil => cases ha
  | cons hhead _ ih =>
    rcases List.mem_cons.1 ha with rfl | ha
    · exact ⟨_, List.mem_cons_self, hhead⟩
    · obtain ⟨b, hb, hresult⟩ := ih ha
      exact ⟨b, List.mem_cons_of_mem _ hb, hresult⟩

/-- The first item without a result decides the error of a traversal. -/
theorem mapM_eq_error_iff {f : α → Except ε β} {as : List α} {e : ε} :
    as.mapM f = .error e ↔ ∃ before a after, as = before ++ a :: after ∧
      (∀ other ∈ before, ∃ b, f other = .ok b) ∧ f a = .error e := by
  constructor
  · intro h
    induction as with
    | nil => cases h
    | cons a rest ih =>
      rw [List.mapM_cons] at h
      cases ha : f a with
      | error e' =>
        rw [ha] at h
        cases h
        exact ⟨[], a, rest, rfl, nofun, ha⟩
      | ok b =>
        have hrest : rest.mapM f = .error e := by
          rw [ha] at h
          cases hbs : rest.mapM f with
          | error e' => rw [hbs] at h; cases h; rfl
          | ok bs => rw [hbs] at h; cases h
        obtain ⟨before, other, after, rfl, hbefore, hother⟩ := ih hrest
        refine ⟨a :: before, other, after, rfl, ?_, hother⟩
        rintro item (_ | ⟨_, hitem⟩)
        · exact ⟨b, ha⟩
        · exact hbefore item hitem
  · rintro ⟨before, a, after, rfl, hbefore, ha⟩
    induction before with
    | nil => rw [List.nil_append, List.mapM_cons, ha]; rfl
    | cons head tail ih =>
      obtain ⟨b, hb⟩ := hbefore head List.mem_cons_self
      have htail := ih fun item hitem => hbefore item (List.mem_cons_of_mem _ hitem)
      rw [List.cons_append, List.mapM_cons, hb, htail]
      rfl

end Except
end PanelForms
