import PanelForms.Report

/-!
# First occurrences of references

The references that a view edits are thinned out with the references seen so far beside the list
that is made, and those that a report watches by looking through that list itself.  Both keep the
first occurrence of every reference, so they are one function of the list that they go through.

Main results:

- Theorem `FieldRef.mem_firstOccurrences_iff`: no reference is lost, and none is invented.
- Theorem `FieldRef.nodup_firstOccurrences`: each one is kept once.
- Theorem `Report.watched_eq`: the second way of thinning out is the first one.
-/

namespace PanelForms
namespace FieldRef

variable {seen refs : List FieldRef} {r : FieldRef}

/-- A reference that was seen is passed over. -/
theorem go_of_mem (h : r ∈ seen) :
    firstOccurrences.go seen (r :: refs) = firstOccurrences.go seen refs := by
  simp [firstOccurrences.go, h]

/-- A reference that was not seen is kept, and seen from then on. -/
theorem go_of_not_mem (h : r ∉ seen) :
    firstOccurrences.go seen (r :: refs) = r :: firstOccurrences.go (r :: seen) refs := by
  simp [firstOccurrences.go, h]

/-- What has been seen is left out, and everything else is kept. -/
theorem mem_go_iff : r ∈ firstOccurrences.go seen refs ↔ r ∈ refs ∧ r ∉ seen := by
  induction refs generalizing seen with
  | nil => simp [firstOccurrences.go]
  | cons head rest ih =>
    by_cases hhead : head ∈ seen
    · rw [go_of_mem hhead, ih]
      constructor
      · intro h
        exact ⟨List.mem_cons_of_mem _ h.1, h.2⟩
      · intro h
        have hne : r ≠ head := fun heq => h.2 (heq ▸ hhead)
        exact ⟨List.mem_of_ne_of_mem hne h.1, h.2⟩
    · rw [go_of_not_mem hhead, List.mem_cons, ih]
      by_cases heq : r = head
      · simp [heq, hhead]
      · simp [heq]

/-- No reference is kept twice. -/
theorem nodup_go : (firstOccurrences.go seen refs).Nodup := by
  induction refs generalizing seen with
  | nil => exact List.nodup_nil
  | cons head rest ih =>
    by_cases hhead : head ∈ seen
    · rw [go_of_mem hhead]
      exact ih
    · rw [go_of_not_mem hhead, List.nodup_cons, mem_go_iff]
      refine ⟨?_, ih⟩
      intro h
      exact h.2 List.mem_cons_self

/-- Only which references have been seen matters, not in what order. -/
theorem go_congr {seen' : List FieldRef} (h : ∀ r, r ∈ seen ↔ r ∈ seen') :
    firstOccurrences.go seen refs = firstOccurrences.go seen' refs := by
  induction refs generalizing seen seen' with
  | nil => rfl
  | cons head rest ih =>
    by_cases hhead : head ∈ seen
    · rw [go_of_mem hhead, go_of_mem ((h head).1 hhead)]
      exact ih h
    · have hhead' : head ∉ seen' := fun hin => hhead ((h head).2 hin)
      rw [go_of_not_mem hhead, go_of_not_mem hhead', ih]
      intro other
      rw [List.mem_cons, List.mem_cons, h other]

/-- No reference is lost. -/
theorem mem_firstOccurrences_iff : r ∈ firstOccurrences refs ↔ r ∈ refs := by
  simp [firstOccurrences, mem_go_iff]

/-- Every reference is listed once. -/
theorem nodup_firstOccurrences : (firstOccurrences refs).Nodup :=
  nodup_go

end FieldRef

namespace Report

/-- Looking through the list that is made is as good as a record of what has been seen. -/
theorem foldl_addNew (acc refs : List FieldRef) :
    refs.foldl addNew acc = acc ++ FieldRef.firstOccurrences.go acc refs := by
  induction refs generalizing acc with
  | nil => simp [FieldRef.firstOccurrences.go]
  | cons head rest ih =>
    rw [List.foldl_cons, ih]
    by_cases hhead : head ∈ acc
    · rw [addNew, if_pos hhead, FieldRef.go_of_mem hhead]
    · have hseen : FieldRef.firstOccurrences.go (acc ++ [head]) rest =
          FieldRef.firstOccurrences.go (head :: acc) rest :=
        FieldRef.go_congr (by simp [or_comm])
      rw [addNew, if_neg hhead, FieldRef.go_of_not_mem hhead, hseen, List.append_assoc]
      rfl

/-- A report watches its own references and those of the form after them, each at its first
occurrence. -/
theorem watched_eq (own form : List FieldRef) :
    watched own form = FieldRef.firstOccurrences (own ++ form) := by
  rw [watched, foldl_addNew]
  rfl

end Report
end PanelForms
