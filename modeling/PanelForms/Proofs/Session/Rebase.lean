import PanelForms.Proofs.Session.Seeding
import PanelForms.Proofs.Session.Verdict

/-!
# Discarding edits

A form that discards its edits seeds every model that it binds anew and adopts its revision.  A
commit ends in the same way, so both leave the form rebased: it shows nothing but what is stored,
and it is in step with the store.  Discarding the edits of a form that is rebased changes nothing,
and no model of such a form has been replaced under an edit.

Main results:

- Definition `Form.Rebased`: nothing is left of the edits of the models that a form binds.
- Theorem `Form.cancel_of_rebased`: then there is nothing to discard.
- Theorems `Form.rebased_cancel` and `Form.rebased_committed`: the operations that rebase a form.
- Theorem `Form.cancel_rebasesFully`: all that discarding edits does, and what may follow it.
-/

namespace PanelForms
namespace Session

variable {s : Session} {model : String} {models : List String}

/-! ## Models without edits -/

/-- Every field of the model has the fresh state for its record, if the schema has the model. -/
def Seeded (s : Session) (model : String) : Prop :=
  ∀ fields, s.schema.models.get? model = some fields →
    Dict.get? s.forms model = some (.ofRecord (s.store.record? model) fields)

/-- A seeded model shows every field as it is stored. -/
theorem Seeded.field? {r : FieldRef} {d : FieldDef} (h : s.Seeded r.model)
    (hd : s.schema.field? r = some d) :
    s.forms.field? r = some (.seeded (s.store.fieldValue? r) d.fieldType) := by
  obtain ⟨fields, hfields, hname⟩ := Option.bind_eq_some_iff.1 hd
  rw [FormState.field?, h fields hfields, Option.bind_some, ModelFormState.get?_ofRecord, hname]
  rfl

/-- Seeding a model whose fields are fresh changes nothing. -/
theorem reseedModel_of_seeded (h : s.Seeded model) : s.reseedModel model = s := by
  cases hfields : s.schema.models.get? model with
  | none => exact reseedModel_of_unknown hfields
  | some fields => rw [reseedModel_of_get? hfields, Dict.insert_of_get? (h fields hfields)]

/-- Reseeding models that are seeded changes nothing. -/
theorem foldl_reseedModel_of_seeded (h : ∀ model ∈ models, s.Seeded model) :
    models.foldl reseedModel s = s := by
  induction models with
  | nil => rfl
  | cons model rest ih =>
    rw [List.foldl_cons, reseedModel_of_seeded (h model List.mem_cons_self)]
    exact ih fun other hother => h other (List.mem_cons_of_mem _ hother)

/-- Each of the models that are reseeded is seeded afterwards: what comes later leaves it alone. -/
theorem seeded_foldl_reseedModel (s : Session) (h : model ∈ models) :
    (models.foldl reseedModel s).Seeded model := by
  intro fields hfields
  rw [schema_foldl_reseedModel] at hfields
  rw [store_foldl_reseedModel]
  exact get?_forms_foldl_reseedModel hfields (Or.inl h)

/-- The editing states of all other models are kept. -/
theorem get?_forms_foldl_reseedModel_of_notMem (s : Session) (h : model ∉ models) :
    Dict.get? (models.foldl reseedModel s).forms model = Dict.get? s.forms model := by
  induction models generalizing s with
  | nil => rfl
  | cons name rest ih =>
    rw [List.mem_cons, not_or] at h
    obtain ⟨hne, hrest⟩ := h
    rw [List.foldl_cons, ih _ hrest, get?_forms_reseedModel_of_ne (Ne.symm hne)]

end Session

namespace Form

variable {f : Form} {s : Session}

/-! ## Rebased forms -/

/-- Nothing is left of the edits of the models that a form binds, and the form is in step with all
of them. -/
structure Rebased (f : Form) (s : Session) : Prop where
  seeded : ∀ model ∈ f.boundModels, s.Seeded model
  in_step : ∀ model ∈ f.boundModels, f.syncedRevision? model = some (s.store.revision model)

/-- A form that is in step with all its models has no revision to adopt. -/
theorem Rebased.adoptRevisions_eq (h : f.Rebased s) : f.adoptRevisions s = f := by
  have hsame : (f.adoptRevisions s).revisions = f.revisions := by
    refine Dict.ext_get? fun model => (syncedRevision?_adoptRevisions f s model).trans ?_
    cases hsynced : f.syncedRevision? model with
    | none => exact hsynced.symm
    | some revision =>
      have hstep := h.in_step model (mem_boundModels_of_syncedRevision? hsynced)
      exact hstep.symm
  calc
    f.adoptRevisions s = { f with revisions := (f.adoptRevisions s).revisions } := rfl
    _ = f := by rw [hsame]

/-- A form that is rebased has nothing to discard. -/
theorem cancel_of_rebased (hattached : f.session = some s.id) (h : f.Rebased s) :
    f.cancel s = ⟨.ok (), f, s⟩ := by
  rw [cancel_of_belongsTo (Or.inr hattached), attached_of_session hattached, h.adoptRevisions_eq,
    Session.foldl_reseedModel_of_seeded h.seeded]

/-- No model of a form that is rebased has been replaced under an edit. -/
theorem Rebased.not_overtaken (h : f.Rebased s) (model : String) (expected : Revision) :
    ¬ f.Overtaken s model expected := by
  rintro ⟨hsynced, hne, -⟩
  rw [h.in_step model (mem_boundModels_of_syncedRevision? hsynced)] at hsynced
  exact hne (Option.some.inj hsynced)

/-- A form that is rebased is never refused for a conflict. -/
theorem Rebased.submit_ne_conflict (hbelongs : f.BelongsTo s) (h : f.Rebased s) (model : String)
    (expected found : Revision) :
    (f.submit s).outcome ≠ .error (.conflict model expected found) := by
  intro hconflict
  obtain ⟨-, -, hovertaken, -⟩ :=
    ((exactVerdict_of_belongsTo hbelongs).conflict_iff model expected found).1 hconflict
  exact h.not_overtaken model expected hovertaken

/-! ## The operations that rebase a form -/

/-- A form that has discarded its edits is rebased. -/
theorem rebased_cancel (f : Form) (s : Session) :
    ((f.attached s).adoptRevisions s).Rebased (f.boundModels.foldl Session.reseedModel s) where
  seeded model hmodel := by
    rw [boundModels_adoptRevisions] at hmodel
    exact Session.seeded_foldl_reseedModel s hmodel
  in_step model hmodel := by
    rw [boundModels_adoptRevisions] at hmodel
    rw [syncedRevision?_adoptRevisions_of_mem hmodel, Session.store_foldl_reseedModel]

/-- A form that has committed is rebased. -/
theorem rebased_committed (f : Form) (s : Session) :
    (f.committed s).Rebased (commitAll s (f.pending s)).2 where
  seeded model hmodel := by
    rw [boundModels_committed] at hmodel
    intro fields hfields
    rw [schema_commitAll] at hfields
    rw [record?_commitAll_pending hmodel]
    exact get?_forms_commitAll_of_mem (nodup_pending f s) (mem_pending hmodel s) hfields
  in_step model hmodel := by
    rw [boundModels_committed] at hmodel
    exact syncedRevision?_committed hmodel

/-! ## All that discarding does -/

/-- All that a form does when it discards its edits, and what holds right after it. -/
structure RebasesFully (f : Form) (s : Session) : Prop where
  accepted : (f.cancel s).outcome = .ok ()
  /-- All records, their revisions and all that waits for subscribers are kept. -/
  store_kept : (f.cancel s).session.store = s.store
  schema_kept : (f.cancel s).session.schema = s.schema
  /-- A model that the form does not bind keeps its editing states. -/
  forms_kept : ∀ model, model ∉ f.boundModels →
    Dict.get? (f.cancel s).session.forms model = Dict.get? s.forms model
  /-- The form binds the same fields of the same models. -/
  bindings_kept : (f.cancel s).form.fields = f.fields ∧ (f.cancel s).form.index = f.index ∧
    (f.cancel s).form.boundModels = f.boundModels
  /-- Every field that the schema gives a bound model is untouched and active, and shows the
  canonical value with its verdict. -/
  fields_fresh : ∀ r d, r.model ∈ f.boundModels → s.schema.field? r = some d →
    ∃ state, (f.cancel s).session.forms.field? r = some state ∧ state.touched = false ∧
      state.active = true ∧ state.value = (s.store.fieldValue? r).getD .null ∧
        state.valid = d.fieldType.validates state.value
  /-- The form is in step with the store in all its models. -/
  in_step : ∀ model ∈ f.boundModels,
    (f.cancel s).form.syncedRevision? model = some (s.store.revision model)
  /-- Discarding once more changes nothing. -/
  idempotent : (f.cancel s).form.cancel (f.cancel s).session = f.cancel s
  /-- A commit right after it is not refused for a conflict. -/
  no_conflict : ∀ model expected found,
    ((f.cancel s).form.submit (f.cancel s).session).outcome ≠
      .error (.conflict model expected found)
  /-- Discarding right after a commit that has gone through changes nothing. -/
  after_commit : ∀ committed, (f.submit s).outcome = .ok committed →
    (f.submit s).form.cancel (f.submit s).session =
      ⟨.ok (), (f.submit s).form, (f.submit s).session⟩

/-- A cancel leaves every field of a bound model untouched, active and as it is stored. -/
theorem fields_fresh_cancel (s : Session) {r : FieldRef} {d : FieldDef}
    (hmodel : r.model ∈ f.boundModels) (hd : s.schema.field? r = some d) :
    ∃ state, (f.boundModels.foldl Session.reseedModel s).forms.field? r = some state ∧
      state.touched = false ∧ state.active = true ∧
        state.value = (s.store.fieldValue? r).getD .null ∧
          state.valid = d.fieldType.validates state.value := by
  have hseeded := Session.seeded_foldl_reseedModel s hmodel
  rw [← Session.schema_foldl_reseedModel f.boundModels s] at hd
  have hfresh := hseeded.field? hd
  rw [Session.store_foldl_reseedModel] at hfresh
  exact ⟨_, hfresh, rfl, rfl, rfl, rfl⟩

/-- Discarding edits right after a commit changes nothing. -/
theorem cancel_of_submit_eq_ok {committed : List (String × Revision)}
    (hok : (f.submit s).outcome = .ok committed) :
    (f.submit s).form.cancel (f.submit s).session =
      ⟨.ok (), (f.submit s).form, (f.submit s).session⟩ := by
  obtain ⟨hbelongs, hfault, -⟩ := submit_eq_ok_iff.1 hok
  rw [submit_of_no_fault hbelongs hfault]
  refine cancel_of_rebased ?_ (rebased_committed f s)
  rw [commitAll_snd, Session.id_applyAll]
  rfl

/-- A form that discards its edits is rebased, whatever has been done before to the form and to its
session: the edits are gone, and all that is stored is as it was. -/
theorem cancel_rebasesFully (h : f.BelongsTo s) : f.RebasesFully s := by
  have hcancel := cancel_of_belongsTo h
  have hrebased := rebased_cancel f s
  have hattached : ((f.attached s).adoptRevisions s).session =
      some (f.boundModels.foldl Session.reseedModel s).id := by
    rw [Session.id_foldl_reseedModel]
    rfl
  constructor
  case after_commit => exact fun committed hok => cancel_of_submit_eq_ok hok
  all_goals rw [hcancel]
  case store_kept => exact Session.store_foldl_reseedModel _ s
  case schema_kept => exact Session.schema_foldl_reseedModel _ s
  case forms_kept => exact fun model => Session.get?_forms_foldl_reseedModel_of_notMem s
  case bindings_kept => exact ⟨rfl, rfl, boundModels_adoptRevisions _ s⟩
  case fields_fresh => exact fun r d hmodel hd => fields_fresh_cancel s hmodel hd
  case in_step => exact fun model hmodel => syncedRevision?_adoptRevisions_of_mem hmodel
  case idempotent => exact cancel_of_rebased hattached hrebased
  case no_conflict => exact hrebased.submit_ne_conflict (Or.inr hattached)

end Form

namespace Panels

/-- The cancel of the edited title rebases the form. -/
theorem cancel_rebasesFully_titleEdited :
    ((desk.run titleEdited).forms 0).BelongsTo (desk.run titleEdited).session ∧
      ((desk.run titleEdited).forms 0).RebasesFully (desk.run titleEdited).session :=
  ⟨Or.inr rfl, Form.cancel_rebasesFully (Or.inr rfl)⟩

end Panels
end PanelForms
