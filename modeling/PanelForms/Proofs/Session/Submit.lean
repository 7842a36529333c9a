import PanelForms.Proofs.Session.Panels

/-!
# The effect of a commit

A commit writes back all bound values, the untouched ones too, and seeds every bound model anew.
Since an untouched field shows its canonical value, only edits change what is read; the revisions
that the form adopts are those of the store, and every subscriber hears of each model in order.

Main results:

- Definition `Form.CommitsExactly`: everything that a commit does, and nothing else.
- Theorem `Form.submitFault?_eq_none_iff`: when no check before a commit fails.
- Theorem `Form.submit_eq_ok_iff`: when a commit goes through.
- Theorem `Form.reads_commitAll`: only edits of bound fields change what is read.
- Theorem `Panels.submit_commitsExactly`: every commit that goes through is exact.
-/

namespace PanelForms
namespace Form

/-- What a commit does to the session, and what it reports and remembers: from the form and the
session before it to the form and the session after it. -/
structure CommitsExactly (f : Form) (s : Session) (committed : List (String × Revision))
    (g : Form) (t : Session) : Prop where
  /-- A bound field that was touched reads as its edit, every other field as before. -/
  reads : ∀ refs, t.store.selectValues refs = refs.map fun r =>
    (if f.isBound r then s.edit? r else none).getD ((s.store.fieldValue? r).getD .null)
  /-- A field that is not bound is kept, or still missing. -/
  unbound_kept : ∀ r, f.isBound r = false → t.store.fieldValue? r = s.store.fieldValue? r
  /-- A model of which no field is bound keeps its record and its revision. -/
  models_kept : ∀ model, model ∉ f.boundModels →
    t.store.models.get? model = s.store.models.get? model
  /-- A bound model has fresh editing states for its new record. -/
  forms_seeded : ∀ model ∈ f.boundModels, ∃ fields record,
    s.schema.models.get? model = some fields ∧ t.store.record? model = some record ∧
      Dict.get? t.forms model = some (.ofRecord (some record) fields)
  /-- Every other model keeps its editing states. -/
  forms_kept : ∀ model, model ∉ f.boundModels →
    Dict.get? t.forms model = Dict.get? s.forms model
  /-- The bound models are those of the bound fields. -/
  boundModels_iff : ∀ model, model ∈ f.boundModels ↔ ∃ field ∈ f.fields, field.ref.model = model
  /-- Every bound model is reported once. -/
  committed_names : committed.map (·.1) = f.boundModels
  /-- The report is in order of names. -/
  committed_ascending : (committed.map (·.1)).Pairwise (· < ·)
  /-- The reported revisions ascend. -/
  committed_revisions : (committed.map (·.2.number)).Pairwise (· < ·)
  /-- The store and the form agree with the report. -/
  in_step : ∀ c ∈ committed, t.store.revision c.1 = c.2 ∧ g.syncedRevision? c.1 = some c.2
  /-- Every subscription that is held hears of exactly the reported changes, in order. -/
  announced : ∀ i, t.store.waiting? i =
    (s.store.waiting? i).map (· ++ committed.map fun c => ⟨c.1, c.2⟩)

section submit

variable {f : Form} {s : Session}

/-! ## The checks before a commit -/

/-- A form has touched a model exactly if one of its fields of the model holds an edit. -/
theorem hasTouchedFields_iff {model : String} :
    f.hasTouchedFields s model = true ↔
      ∃ field ∈ f.fields, field.ref.model = model ∧ (s.edit? field.ref).isSome = true := by
  rw [hasTouchedFields, List.any_eq_true]
  constructor
  · rintro ⟨⟨r, state⟩, hmem, htouched⟩
    obtain ⟨⟨field, hfield, rfl⟩, hstate⟩ := mem_boundStates_iff.1 hmem
    simp only [Bool.and_eq_true, beq_iff_eq] at htouched
    refine ⟨field, hfield, htouched.1, ?_⟩
    rw [Option.isSome_iff_exists]
    exact ⟨state.value, Session.edit?_eq_some_iff.2 ⟨state, hstate, htouched.2, rfl⟩⟩
  · rintro ⟨field, hfield, hmodel, hedit⟩
    obtain ⟨value, hvalue⟩ := Option.isSome_iff_exists.1 hedit
    obtain ⟨state, hstate, htouched, -⟩ := Session.edit?_eq_some_iff.1 hvalue
    refine ⟨(field.ref, state), mem_boundStates_iff.2 ⟨⟨field, hfield, rfl⟩, hstate⟩, ?_⟩
    simp [hmodel, htouched]

/-- A bound model is in conflict exactly if it has been replaced and the form has touched it. -/
theorem conflictAt?_eq_some_iff {model : String} {expected : Revision} {e : FormError} :
    f.conflictAt? s (model, expected) = some e ↔
      s.store.revision model ≠ expected ∧ f.hasTouchedFields s model = true ∧
        e = .conflict model expected (s.store.revision model) := by
  unfold conflictAt?
  simp only
  split
  next hconflict =>
    constructor
    · rintro ⟨⟩
      exact ⟨hconflict.1, hconflict.2, rfl⟩
    · rintro ⟨-, -, rfl⟩
      rfl
  next hnone =>
    constructor
    · rintro ⟨⟩
    · rintro ⟨hne, htouched, -⟩
      exact (hnone ⟨hne, htouched⟩).elim

/-- No check fails exactly if no active field is invalid and every model that the form has touched
is at the revision that the form remembers. -/
theorem submitFault?_eq_none_iff :
    f.submitFault? s = none ↔ f.invalidFields s = [] ∧
      ∀ model expected, f.syncedRevision? model = some expected →
        f.hasTouchedFields s model = true → s.store.revision model = expected := by
  unfold submitFault?
  simp only [List.isEmpty_iff]
  split
  next hvalid =>
    rw [List.findSome?_eq_none_iff]
    refine ⟨fun hnone => ⟨hvalid, ?_⟩, ?_⟩
    · intro model expected hsynced htouched
      have hentry := hnone _ ((Dict.get?_eq_some_iff _ _ _).1 hsynced)
      refine Decidable.byContradiction fun hne => ?_
      rw [conflictAt?_eq_some_iff.2 ⟨hne, htouched, rfl⟩] at hentry
      cases hentry
    · rintro ⟨-, hagree⟩ ⟨model, expected⟩ hmem
      have hsynced := (Dict.get?_eq_some_iff f.revisions model expected).2 hmem
      rw [Option.eq_none_iff_forall_ne_some]
      intro e hconflict
      obtain ⟨hne, htouched, -⟩ := conflictAt?_eq_some_iff.1 hconflict
      exact hne (hagree model expected hsynced htouched)
  next hinvalid => simp [hinvalid]

/-- A check fails for the invalid fields, or for a conflict. -/
theorem eq_invalid_or_conflict_of_fault {e : FormError} (hfault : f.submitFault? s = some e) :
    (∃ fields, e = .invalid fields) ∨
      ∃ model expected found, e = .conflict model expected found := by
  unfold submitFault? at hfault
  simp only at hfault
  split at hfault
  · obtain ⟨⟨model, expected⟩, -, hconflict⟩ := List.exists_of_findSome?_eq_some hfault
    exact Or.inr ⟨model, expected, _, (conflictAt?_eq_some_iff.1 hconflict).2.2⟩
  · exact Or.inl ⟨_, (Option.some.inj hfault).symm⟩

/-- A form commits an edit only at the revision that it remembers. -/
theorem revision_of_no_fault (h : f.Consistent) {r : FieldRef} {value : Json}
    {revision : Revision} (hbound : f.isBound r = true) (hedit : s.edit? r = some value)
    (hsynced : f.syncedRevision? r.model = some revision) (hfault : f.submitFault? s = none) :
    s.store.revision r.model = revision := by
  obtain ⟨field, hfield, href⟩ := (h.isBound_iff r).1 hbound
  have htouched : f.hasTouchedFields s r.model = true := by
    refine hasTouchedFields_iff.2 ⟨field, hfield, congrArg FieldRef.model href, ?_⟩
    rw [href, hedit]
    rfl
  exact (submitFault?_eq_none_iff.1 hfault).2 r.model revision hsynced htouched

/-- A commit goes through exactly if the form may be used with the session and no check fails. -/
theorem submit_eq_ok_iff {committed : List (String × Revision)} :
    (f.submit s).outcome = .ok committed ↔
      f.BelongsTo s ∧ f.submitFault? s = none ∧ committed = (commitAll s (f.pending s)).1 := by
  by_cases hbelongs : f.BelongsTo s
  · cases hfault : f.submitFault? s with
    | none =>
      rw [submit_of_no_fault hbelongs hfault]
      constructor
      · rintro ⟨⟩
        exact ⟨hbelongs, rfl, rfl⟩
      · rintro ⟨-, -, rfl⟩
        rfl
    | some e =>
      rw [submit_of_fault hbelongs hfault]
      constructor
      · rintro ⟨⟩
      · rintro ⟨-, hnone, -⟩
        cases hnone
  · obtain ⟨other, hattach⟩ := attach_of_not_belongsTo hbelongs
    have hstep : f.submit s = ⟨.error (.foreignSession other s.id), f, s⟩ := by
      simp [submit, hattach]
    rw [hstep]
    constructor
    · rintro ⟨⟩
    · rintro ⟨h, -, -⟩
      exact (hbelongs h).elim

/-- A form that may be used with the session is refused for invalid fields or for a conflict. -/
theorem submit_error {e : FormError} (hbelongs : f.BelongsTo s)
    (herror : (f.submit s).outcome = .error e) :
    (∃ fields, e = .invalid fields) ∨
      ∃ model expected found, e = .conflict model expected found := by
  cases hfault : f.submitFault? s with
  | none =>
    rw [submit_of_no_fault hbelongs hfault] at herror
    cases herror
  | some fault =>
    rw [submit_of_fault hbelongs hfault] at herror
    cases herror
    exact eq_invalid_or_conflict_of_fault hfault

/-! ## What a commit writes -/

/-- The record of a bound model after a commit. -/
theorem record?_commitAll_pending {model : String} (h : model ∈ f.boundModels) :
    (commitAll s (f.pending s)).2.store.record? model = some (f.pendingRecord s model) := by
  obtain ⟨revision, -, hget⟩ :=
    get?_models_commitAll_of_mem (s := s) (nodup_pending f s) (mem_pending h s)
  simp [ModelStore.record?, hget]

/-- A field that is not written keeps its value, or is still missing. -/
theorem fieldValue?_commitAll_of_unbound {r : FieldRef}
    (h : ∀ state, (r, state) ∉ f.boundStates s) :
    (commitAll s (f.pending s)).2.store.fieldValue? r = s.store.fieldValue? r := by
  by_cases hmodel : r.model ∈ f.boundModels
  · rw [ModelStore.fieldValue?, record?_commitAll_pending hmodel]
    exact get?_pendingRecord_of_unbound h
  · have hsame : (commitAll s (f.pending s)).2.store.models.get? r.model =
        s.store.models.get? r.model :=
      get?_models_commitAll_of_notMem (notMem_pending hmodel s)
    simp [ModelStore.fieldValue?, ModelStore.record?, hsame]

/-- A bound field with editing state is written with the value shown. -/
theorem fieldValue?_commitAll_of_bound (h : f.Consistent) {r : FieldRef} {state : FieldState}
    (hbound : f.isBound r = true) (hstate : s.forms.field? r = some state) :
    (commitAll s (f.pending s)).2.store.fieldValue? r = some state.value := by
  obtain ⟨field, hfield, href⟩ := (h.isBound_iff r).1 hbound
  have hmodel : r.model ∈ f.boundModels :=
    (h.mem_boundModels_iff r.model).2 ⟨field, hfield, congrArg FieldRef.model href⟩
  rw [ModelStore.fieldValue?, record?_commitAll_pending hmodel]
  exact get?_pendingRecord_of_bound (mem_boundStates_iff.2 ⟨⟨field, hfield, href⟩, hstate⟩)

/-- The edit of a bound field is written. -/
theorem fieldValue?_commitAll_of_edit (h : f.Consistent) {r : FieldRef} {value : Json}
    (hbound : f.isBound r = true) (hedit : s.edit? r = some value) :
    (commitAll s (f.pending s)).2.store.fieldValue? r = some value := by
  obtain ⟨state, hstate, -, hvalue⟩ := Session.edit?_eq_some_iff.1 hedit
  rw [fieldValue?_commitAll_of_bound h hbound hstate, hvalue]

/-- Only edits of bound fields change what is read. -/
theorem reads_commitAll (h : f.Consistent) (hcoherent : s.Coherent) (r : FieldRef) :
    ((commitAll s (f.pending s)).2.store.fieldValue? r).getD .null =
      (if f.isBound r then s.edit? r else none).getD ((s.store.fieldValue? r).getD .null) := by
  cases hbound : f.isBound r with
  | false =>
    have hnot : ∀ state, (r, state) ∉ f.boundStates s := by
      intro state hmem
      have hin := (h.isBound_iff r).2 (mem_boundStates_iff.1 hmem).1
      rw [hbound] at hin
      cases hin
    rw [fieldValue?_commitAll_of_unbound hnot]
    rfl
  | true =>
    rw [if_pos rfl]
    cases hstate : s.forms.field? r with
    | none =>
      have hnot : ∀ state, (r, state) ∉ f.boundStates s := by
        intro state hmem
        have hsome := (mem_boundStates_iff.1 hmem).2
        rw [hstate] at hsome
        cases hsome
      rw [fieldValue?_commitAll_of_unbound hnot]
      simp [Session.edit?, hstate]
    | some state =>
      rw [fieldValue?_commitAll_of_bound h hbound hstate]
      cases htouched : state.touched with
      | true => simp [Session.edit?, hstate, FieldState.edit?, htouched]
      | false =>
        -- An untouched field is written too, but with the value that it follows.
        have hfollows := hcoherent.follows r state hstate htouched
        simp [Session.edit?, hstate, FieldState.edit?, htouched, hfollows]

/-- A bound model has fresh editing states after a commit. -/
theorem forms_seeded_commitAll (h : f.Fits s) {model : String} (hmodel : model ∈ f.boundModels) :
    ∃ fields record, s.schema.models.get? model = some fields ∧
      (commitAll s (f.pending s)).2.store.record? model = some record ∧
        Dict.get? (commitAll s (f.pending s)).2.forms model =
          some (.ofRecord (some record) fields) := by
  obtain ⟨field, hfield, hname⟩ := (h.consistent.mem_boundModels_iff model).1 hmodel
  obtain ⟨fields, hfields⟩ := Dict.contains_eq_true_iff.1 (h.known field hfield)
  rw [hname] at hfields
  exact ⟨fields, f.pendingRecord s model, hfields, record?_commitAll_pending hmodel,
    get?_forms_commitAll_of_mem (nodup_pending f s) (mem_pending hmodel s) hfields⟩

/-- The form remembers the reported revisions, and they are those of the store. -/
theorem in_step_commitAll (f : Form) (s : Session) {c : String × Revision}
    (hc : c ∈ (commitAll s (f.pending s)).1) :
    (commitAll s (f.pending s)).2.store.revision c.1 = c.2 ∧
      (f.committed s).syncedRevision? c.1 = some c.2 := by
  have hmodel : c.1 ∈ f.boundModels := by
    rw [← map_fst_pending f s, ← map_fst_commitAll]
    exact List.mem_map.2 ⟨c, hc, rfl⟩
  have hsynced : (f.committed s).syncedRevision? c.1 = some c.2 := by
    refine (Dict.get?_eq_some_iff _ _ _).2 ?_
    rw [entries_committed]
    exact hc
  refine ⟨?_, hsynced⟩
  rw [syncedRevision?_committed hmodel] at hsynced
  exact Option.some.inj hsynced

/-- A commit of a form that fits a coherent session is exact. -/
theorem commitsExactly_commitAll (h : f.Fits s) (hcoherent : s.Coherent) :
    f.CommitsExactly s (commitAll s (f.pending s)).1 (f.committed s)
      (commitAll s (f.pending s)).2 where
  reads refs := List.map_congr_left fun r _ => reads_commitAll h.consistent hcoherent r
  unbound_kept r hbound := by
    refine fieldValue?_commitAll_of_unbound fun state hmem => ?_
    have hin := (h.consistent.isBound_iff r).2 (mem_boundStates_iff.1 hmem).1
    rw [hbound] at hin
    cases hin
  models_kept model hmodel := get?_models_commitAll_of_notMem (notMem_pending hmodel s)
  forms_seeded model hmodel := forms_seeded_commitAll h hmodel
  forms_kept model hmodel := get?_forms_commitAll_of_notMem (notMem_pending hmodel s)
  boundModels_iff := h.consistent.mem_boundModels_iff
  committed_names := by rw [map_fst_commitAll, map_fst_pending]
  committed_ascending := by
    rw [map_fst_commitAll, map_fst_pending]
    exact f.revisions.pairwise_names
  committed_revisions := pairwise_commitAll s (f.pending s)
  in_step c hc := in_step_commitAll f s hc
  announced i := waiting?_commitAll s (f.pending s) i

end submit
end Form

namespace Panels

/-- Every commit that goes through is exact, whatever has been done with the panels before. -/
theorem submit_commitsExactly {p : Panels} (hp : p.Reachable) {k : Nat}
    {committed : List (String × Revision)}
    (hok : ((p.forms k).submit p.session).outcome = .ok committed) :
    (p.forms k).CommitsExactly p.session committed ((p.forms k).submit p.session).form
      ((p.forms k).submit p.session).session := by
  obtain ⟨hbelongs, hfault, rfl⟩ := Form.submit_eq_ok_iff.1 hok
  have hsound := sound_of_reachable hp
  rw [Form.submit_of_no_fault hbelongs hfault]
  exact Form.commitsExactly_commitAll (hsound.fits k hbelongs) hsound.coherent

/-- The commit of the edited title writes exactly the memo. -/
theorem submit_commitsExactly_titleEdited :
    ((desk.run titleEdited).forms 0).CommitsExactly (desk.run titleEdited).session
      [("memo", ⟨2⟩)]
      (((desk.run titleEdited).forms 0).submit (desk.run titleEdited).session).form
      (((desk.run titleEdited).forms 0).submit (desk.run titleEdited).session).session :=
  submit_commitsExactly (reachable_titleEdited.mono fun _ _ _ => trivial) rfl

end Panels
end PanelForms
