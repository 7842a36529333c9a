import PanelForms.Proofs.Session.Invariant

/-!
# The commit loop

A commit writes the records of all its models one after another, and seeds each model anew right
after its record has been written.  This module follows the loop: every record is written where it
belongs, no iteration disturbs the records or the editing states of another model, the revisions
are consecutive, and every subscriber hears of each replacement in order.

Main results:

- Theorem `Form.commitAll_fst`: the models in order, with consecutive revisions.
- Theorem `Form.commitAll_snd`: the loop is a run of elementary commits.
- Theorems `Form.get?_models_commitAll_of_notMem` and `Form.get?_forms_commitAll_of_notMem`: what
  is not committed is not disturbed.
- Theorems `Form.get?_models_commitAll_of_mem` and `Form.get?_forms_commitAll_of_mem`: what is
  committed is written once.
- Theorem `Form.waiting?_commitAll`: the announcements.
- Theorems `Form.get?_pendingRecord_of_bound` and `Form.get?_pendingRecord_of_unbound`: the record
  that a commit writes, field by field.
-/

namespace PanelForms
namespace Form

/-- The records that a commit writes, in the order in which it writes them. -/
def pending (f : Form) (s : Session) : List (String × ModelRecord) :=
  f.boundModels.map fun model => (model, f.pendingRecord s model)

/-- A record is pending for each bound model. -/
theorem map_fst_pending (f : Form) (s : Session) :
    (f.pending s).map (·.1) = f.boundModels := by
  simp [pending, Function.comp_def]

/-- Every model has one pending record at most. -/
theorem nodup_pending (f : Form) (s : Session) : ((f.pending s).map (·.1)).Nodup := by
  rw [map_fst_pending]
  exact f.revisions.nodup_names

/-- The pending record of a bound model is among the pending ones. -/
theorem mem_pending {f : Form} {model : String} (h : model ∈ f.boundModels) (s : Session) :
    (model, f.pendingRecord s model) ∈ f.pending s :=
  List.mem_map.2 ⟨model, h, rfl⟩

/-- Nothing is pending for a model that is not bound. -/
theorem notMem_pending {f : Form} {model : String} (h : model ∉ f.boundModels) (s : Session) :
    model ∉ (f.pending s).map (·.1) := by
  rw [map_fst_pending]
  exact h

/-! ## One iteration -/

/-- Committing a model writes its record and nothing else. -/
@[simp]
theorem store_commitModel (s : Session) (model : String) (record : ModelRecord) :
    (commitModel s model record).store = s.store.update model record := by
  simp [commitModel]

@[simp]
theorem schema_commitModel (s : Session) (model : String) (record : ModelRecord) :
    (commitModel s model record).schema = s.schema := by
  simp [commitModel]

/-- Committing a model keeps the states of the others. -/
theorem get?_forms_commitModel_of_ne {s : Session} {model other : String} {record : ModelRecord}
    (h : model ≠ other) :
    Dict.get? (commitModel s model record).forms other = Dict.get? s.forms other :=
  Session.get?_forms_reseedModel_of_ne h

/-- Committing a model seeds its states from the record that is written. -/
theorem get?_forms_commitModel_self {s : Session} {model : String} {record : ModelRecord}
    {fields : ModelSchema} (h : s.schema.models.get? model = some fields) :
    Dict.get? (commitModel s model record).forms model =
      some (.ofRecord (some record) fields) := by
  let updated : Session := { s with store := s.store.update model record }
  have hupdated : updated.schema.models.get? model = some fields := h
  have hrecord : updated.store.record? model = some record := by
    simp [updated, ModelStore.record?_update]
  rw [commitModel, Session.reseedModel_of_get? hupdated, hrecord]
  exact Dict.get?_insert_self _ _ _

/-! ## The whole loop -/

/-- The committed models with their revisions: the first is the next revision of the store, and
each later one is the successor of the one before. -/
theorem commitAll_fst (s : Session) (pending : List (String × ModelRecord)) :
    (commitAll s pending).1 =
      (pending.zipIdx (s.store.lastStamp + 1)).map fun p => (p.1.1, ⟨p.2⟩) := by
  induction pending generalizing s with
  | nil => rfl
  | cons head rest ih =>
    obtain ⟨model, record⟩ := head
    simp only [commitAll, List.zipIdx_cons, List.map_cons]
    rw [ih (commitModel s model record)]
    simp [ModelStore.nextRevision, ModelStore.update]

/-- The commit loop is a run of elementary commits. -/
theorem commitAll_snd (s : Session) (pending : List (String × ModelRecord)) :
    (commitAll s pending).2 = s.applyAll (pending.map fun p => .commit p.1 p.2) := by
  induction pending generalizing s with
  | nil => rfl
  | cons head rest ih =>
    obtain ⟨model, record⟩ := head
    simp only [commitAll, List.map_cons, Session.applyAll_cons]
    exact ih (commitModel s model record)

theorem schema_commitAll (s : Session) (pending : List (String × ModelRecord)) :
    (commitAll s pending).2.schema = s.schema := by
  rw [commitAll_snd, Session.schema_applyAll]

/-- A commit reports the models in the order in which they are written. -/
theorem map_fst_commitAll (s : Session) (pending : List (String × ModelRecord)) :
    (commitAll s pending).1.map (·.1) = pending.map (·.1) := by
  rw [commitAll_fst, List.map_map]
  have hcomp : ((fun c : String × Revision => c.1) ∘
      fun p : (String × ModelRecord) × Nat => (p.1.1, ⟨p.2⟩)) = (·.1) ∘ Prod.fst := rfl
  rw [hcomp, ← List.map_map, List.zipIdx_map_fst]

/-- The revisions of a commit ascend strictly. -/
theorem pairwise_commitAll (s : Session) (pending : List (String × ModelRecord)) :
    ((commitAll s pending).1.map (·.2.number)).Pairwise (· < ·) := by
  rw [commitAll_fst, List.map_map]
  have hcomp : ((fun c : String × Revision => c.2.number) ∘
      fun p : (String × ModelRecord) × Nat => (p.1.1, ⟨p.2⟩)) = Prod.snd := rfl
  rw [hcomp, List.zipIdx_map_snd]
  exact List.pairwise_lt_range'

/-- A model that is not committed keeps its record and its revision. -/
theorem get?_models_commitAll_of_notMem {s : Session} {pending : List (String × ModelRecord)}
    {model : String} (h : model ∉ pending.map (·.1)) :
    (commitAll s pending).2.store.models.get? model = s.store.models.get? model := by
  induction pending generalizing s with
  | nil => rfl
  | cons head rest ih =>
    rw [List.map_cons, List.mem_cons, not_or] at h
    obtain ⟨hne, hrest⟩ := h
    have hone : (commitModel s head.1 head.2).store.models.get? model =
        s.store.models.get? model := by
      rw [store_commitModel, ModelStore.update, Dict.get?_insert, if_neg (Ne.symm hne)]
    exact (ih hrest).trans hone

/-- A model that is not committed keeps its editing states. -/
theorem get?_forms_commitAll_of_notMem {s : Session} {pending : List (String × ModelRecord)}
    {model : String} (h : model ∉ pending.map (·.1)) :
    Dict.get? (commitAll s pending).2.forms model = Dict.get? s.forms model := by
  induction pending generalizing s with
  | nil => rfl
  | cons head rest ih =>
    rw [List.map_cons, List.mem_cons, not_or] at h
    obtain ⟨hne, hrest⟩ := h
    exact (ih hrest).trans (get?_forms_commitModel_of_ne (Ne.symm hne))

/-- Every committed record is in the store after the commit, under its new revision. -/
theorem get?_models_commitAll_of_mem {s : Session} {pending : List (String × ModelRecord)}
    (hnodup : (pending.map (·.1)).Nodup) {model : String} {record : ModelRecord}
    (hmem : (model, record) ∈ pending) :
    ∃ revision, (model, revision) ∈ (commitAll s pending).1 ∧
      (commitAll s pending).2.store.models.get? model = some ⟨record, revision⟩ := by
  induction pending generalizing s with
  | nil => cases hmem
  | cons head rest ih =>
    obtain ⟨hhead, hrest⟩ := List.nodup_cons.1 hnodup
    rcases List.mem_cons.1 hmem with rfl | hmem
    · refine ⟨s.store.nextRevision, List.mem_cons_self, ?_⟩
      -- No later iteration writes this model again, since the names are distinct.
      refine (get?_models_commitAll_of_notMem hhead).trans ?_
      simp [ModelStore.update]
    · obtain ⟨revision, hcommitted, hget⟩ := ih (s := commitModel s head.1 head.2) hrest hmem
      exact ⟨revision, List.mem_cons_of_mem _ hcommitted, hget⟩

/-- Every field of a committed model has the fresh state for the committed record. -/
theorem get?_forms_commitAll_of_mem {s : Session} {pending : List (String × ModelRecord)}
    (hnodup : (pending.map (·.1)).Nodup) {model : String} {record : ModelRecord}
    (hmem : (model, record) ∈ pending) {fields : ModelSchema}
    (hfields : s.schema.models.get? model = some fields) :
    Dict.get? (commitAll s pending).2.forms model = some (.ofRecord (some record) fields) := by
  induction pending generalizing s with
  | nil => cases hmem
  | cons head rest ih =>
    obtain ⟨hhead, hrest⟩ := List.nodup_cons.1 hnodup
    rcases List.mem_cons.1 hmem with rfl | hmem
    · exact (get?_forms_commitAll_of_notMem hhead).trans (get?_forms_commitModel_self hfields)
    · exact ih hrest hmem (by simpa using hfields)

/-- Every subscriber hears of each committed model in order, after all that waits already. -/
theorem waiting?_commitAll (s : Session) (pending : List (String × ModelRecord)) (i : Nat) :
    (commitAll s pending).2.store.waiting? i =
      (s.store.waiting? i).map (· ++ (commitAll s pending).1.map fun c => ⟨c.1, c.2⟩) := by
  induction pending generalizing s with
  | nil => simp [commitAll]
  | cons head rest ih =>
    have hrest := ih (commitModel s head.1 head.2)
    rw [store_commitModel, ModelStore.waiting?_update, Option.map_map] at hrest
    refine hrest.trans ?_
    congr 1
    funext waiting
    simp [commitAll]

/-! ## The records of a commit -/

/-- The states of a form are those of its fields, as the session has them. -/
theorem mem_boundStates_iff {f : Form} {s : Session} {r : FieldRef} {state : FieldState} :
    (r, state) ∈ f.boundStates s ↔
      (∃ field ∈ f.fields, field.ref = r) ∧ s.forms.field? r = some state := by
  rw [boundStates, List.mem_filterMap]
  constructor
  · rintro ⟨field, hfield, hmap⟩
    obtain ⟨found, hfound, hpair⟩ := Option.map_eq_some_iff.1 hmap
    cases hpair
    exact ⟨⟨field, hfield, rfl⟩, hfound⟩
  · rintro ⟨⟨field, hfield, rfl⟩, hstate⟩
    exact ⟨field, hfield, by simp [hstate]⟩

/-- Write the values of some editing states into a record, each under the name of its field. -/
def writeValues (record : ModelRecord) (states : List (FieldRef × FieldState)) : ModelRecord :=
  states.foldl (fun record b => record.insert b.1.field b.2.value) record

/-- Writing the values of some fields keeps those of the others. -/
theorem get?_writeValues_of_notMem {record : ModelRecord} {states : List (FieldRef × FieldState)}
    {name : String} (h : ∀ b ∈ states, b.1.field ≠ name) :
    (writeValues record states).get? name = record.get? name := by
  induction states generalizing record with
  | nil => rfl
  | cons b rest ih =>
    have hrest : ∀ b ∈ rest, b.1.field ≠ name := fun b hb => h b (List.mem_cons_of_mem _ hb)
    refine (@ih (record.insert b.1.field b.2.value) hrest).trans ?_
    rw [Dict.get?_insert, if_neg (h b List.mem_cons_self)]

/-- Writes under one name agree, so their order does not matter. -/
theorem get?_writeValues_of_mem {record : ModelRecord} {states : List (FieldRef × FieldState)}
    {name : String} {value : Json} (hsome : ∃ b ∈ states, b.1.field = name)
    (hall : ∀ b ∈ states, b.1.field = name → b.2.value = value) :
    (writeValues record states).get? name = some value := by
  induction states generalizing record with
  | nil => obtain ⟨b, hb, -⟩ := hsome; cases hb
  | cons b rest ih =>
    by_cases hlater : ∃ c ∈ rest, c.1.field = name
    · exact @ih (record.insert b.1.field b.2.value) hlater
        fun c hc => hall c (List.mem_cons_of_mem _ hc)
    · have hname : b.1.field = name := by
        obtain ⟨c, hc, hcname⟩ := hsome
        rcases List.mem_cons.1 hc with rfl | hc
        · exact hcname
        · exact (hlater ⟨c, hc, hcname⟩).elim
      have hrest : ∀ c ∈ rest, c.1.field ≠ name := fun c hc he => hlater ⟨c, hc, he⟩
      refine (@get?_writeValues_of_notMem (record.insert b.1.field b.2.value) rest name
        hrest).trans ?_
      rw [Dict.get?_insert, if_pos hname, hall b List.mem_cons_self hname]

/-- A pending record is the stored one with the values of the bound fields written into it. -/
theorem pendingRecord_eq (f : Form) (s : Session) (model : String) :
    f.pendingRecord s model =
      writeValues ((s.store.record? model).getD Dict.empty)
        ((f.boundStates s).filter fun b => b.1.model == model) :=
  rfl

/-- A bound field with editing state is written with the value shown, touched or not. -/
theorem get?_pendingRecord_of_bound {f : Form} {s : Session} {r : FieldRef} {state : FieldState}
    (h : (r, state) ∈ f.boundStates s) :
    (f.pendingRecord s r.model).get? r.field = some state.value := by
  rw [pendingRecord_eq]
  refine get?_writeValues_of_mem ?_ ?_
  · exact ⟨(r, state), List.mem_filter.2 ⟨h, by simp⟩, rfl⟩
  · rintro ⟨other, found⟩ hb hname
    obtain ⟨hmem, hmodel⟩ := List.mem_filter.1 hb
    have hother : other = r := by
      cases other
      cases r
      simp_all
    subst hother
    have hsame := (mem_boundStates_iff.1 hmem).2.symm.trans (mem_boundStates_iff.1 h).2
    exact congrArg FieldState.value (Option.some.inj hsame)

/-- Every other field of the record is written as it is. -/
theorem get?_pendingRecord_of_unbound {f : Form} {s : Session} {r : FieldRef}
    (h : ∀ state, (r, state) ∉ f.boundStates s) :
    (f.pendingRecord s r.model).get? r.field = s.store.fieldValue? r := by
  rw [pendingRecord_eq, get?_writeValues_of_notMem]
  · unfold ModelStore.fieldValue?
    cases s.store.record? r.model <;> rfl
  · rintro ⟨other, found⟩ hb hname
    obtain ⟨hmem, hmodel⟩ := List.mem_filter.1 hb
    have hother : other = r := by
      cases other
      cases r
      simp_all
    exact h found (hother ▸ hmem)

end Form
end PanelForms
