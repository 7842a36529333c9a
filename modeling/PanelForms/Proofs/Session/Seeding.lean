import PanelForms.Proofs.Session.Panels
import PanelForms.Simulation

/-!
# Seeding a session from a document

A document is put into a session in three passes: its records are stored, default records are
stored for the models that are then missing, and every stored model of the schema is seeded anew.
The first two passes read what the session holds already, so the outcome depends on it; the third
forgets all editing states of the models of the schema.

Main results:

- Definition `Session.leftFor`: what the session holds for a model that the document lacks.
- Theorems `Session.record?_loadModels`, `Session.record?_fillMissingDefaults` and
  `Session.store_initializeForms`: what each pass stores.
- Theorem `Simulation.record?_adopt`: every record after the three passes.
- Theorem `Simulation.get?_forms_adopt`: every editing state after the three passes.
-/

namespace PanelForms
namespace Session

variable {s : Session}

/-! ## Storing records -/

@[simp]
theorem schema_replaceModels (s : Session) (records : List (String × ModelRecord)) :
    (s.replaceModels records).schema = s.schema := by
  rw [replaceModels_eq, schema_applyAll]

/-- Replacing a model gives it the record and keeps those of the others. -/
theorem record?_replaceModel (s : Session) (model other : String) (record : ModelRecord) :
    (s.replaceModel model record).store.record? other =
      if model = other then some record else s.store.record? other := by
  simp [replaceModel, ModelStore.record?_update]

/-- The records written are found, and all others are kept. -/
theorem record?_replaceModels {records : Entries ModelRecord} (h : Entries.Ascending records)
    (s : Session) (model : String) :
    (s.replaceModels records).store.record? model =
      (Entries.get? model records).or (s.store.record? model) := by
  induction records generalizing s with
  | nil => simp [replaceModels]
  | cons head rest ih =>
    obtain ⟨name, record⟩ := head
    obtain ⟨hlt, hrest⟩ := List.pairwise_cons.1 h
    have hstep : s.replaceModels ((name, record) :: rest) =
        (s.replaceModel name record).replaceModels rest := rfl
    rw [hstep, ih hrest, record?_replaceModel]
    by_cases hname : name = model
    · subst hname
      have hnone : Entries.get? name rest = none :=
        Entries.get?_eq_none_iff.2 fun e he heq => String.lt_irrefl name (heq ▸ hlt e he)
      simp [hnone, Entries.get?]
    · simp [hname, Entries.get?]

/-! ## The passes -/

/-- The records of a document are taken in the order of their names. -/
theorem ascending_recordsOf {models : Entries Json} (h : Entries.Ascending models) :
    Entries.Ascending (recordsOf models) :=
  h.filterMap fun _ (v : Json) => v.record?

/-- The record that a document has for a model; another value counts as none. -/
def documented (models : Entries Json) (model : String) : Option ModelRecord :=
  (Entries.get? model models).bind Json.record?

/-- The records of a document are those that it holds for the models. -/
theorem get?_recordsOf {models : Entries Json} (h : Entries.Ascending models) (model : String) :
    Entries.get? model (recordsOf models) = documented models model :=
  Entries.get?_filterMap (fun _ (v : Json) => v.record?) h model

/-- Loading a document replaces the records that it holds and keeps the others. -/
theorem record?_loadModels {models : Entries Json} (h : Entries.Ascending models) (s : Session)
    (model : String) :
    (s.loadModels models).store.record? model =
      (documented models model).or (s.store.record? model) := by
  rw [loadModels, record?_replaceModels (ascending_recordsOf h), get?_recordsOf h]

/-- The default record of a model that is missing from the store. -/
def missingDefault? (s : Session) (model : String) : Option ModelRecord :=
  if s.store.contains model then none else s.schema.defaultModel? model

/-- The missing defaults are found by going through the models of the schema. -/
theorem missingDefaults_eq (s : Session) :
    s.missingDefaults = s.schema.models.entries.filterMap fun e =>
      (s.missingDefault? e.1).map fun record => (e.1, record) := by
  rw [missingDefaults, Dict.names, List.filterMap_map]
  congr 1
  funext e
  unfold missingDefault?
  dsimp only [Function.comp]
  split <;> rfl

/-- Defaults are missing for the models of the schema that have no record. -/
theorem get?_missingDefaults (s : Session) (model : String) :
    Entries.get? model s.missingDefaults = s.missingDefault? model := by
  rw [missingDefaults_eq, Entries.get?_filterMap (fun name _ => s.missingDefault? name)
    s.schema.models.ascending]
  have hget : Entries.get? model s.schema.models.entries = s.schema.models.get? model := rfl
  rw [hget]
  cases hmodel : s.schema.models.get? model with
  | some fields => rfl
  | none => simp [missingDefault?, Schema.defaultModel?, hmodel]

/-- What the session holds for a model that a document has no record of: the record that is
stored already, or else the defaults. -/
def leftFor (s : Session) (model : String) : Option ModelRecord :=
  (s.store.record? model).or (s.schema.defaultModel? model)

/-- A model is stored exactly if it has a record. -/
theorem contains_eq_isSome_record? (s : ModelStore) (model : String) :
    s.contains model = (s.record? model).isSome := by
  simp [ModelStore.contains, ModelStore.record?, Dict.contains]

/-- Filling in the defaults leaves what is stored, and gives the other models of the schema
theirs. -/
theorem record?_fillMissingDefaults (s : Session) (model : String) :
    s.fillMissingDefaults.store.record? model = s.leftFor model := by
  have hascending : Entries.Ascending s.missingDefaults := by
    rw [missingDefaults_eq]
    exact s.schema.models.ascending.filterMap fun name _ => s.missingDefault? name
  rw [fillMissingDefaults, record?_replaceModels hascending, get?_missingDefaults, leftFor,
    missingDefault?, contains_eq_isSome_record?]
  cases s.store.record? model <;> simp

/-- Every model of the schema is left with a record. -/
theorem contains_leftFor {model : String} (h : s.schema.models.contains model = true) :
    (s.leftFor model).isSome = true := by
  obtain ⟨fields, hfields⟩ := Dict.contains_eq_true_iff.1 h
  simp [leftFor, Schema.defaultModel?, hfields]

/-! ## Seeding all forms -/

@[simp]
theorem store_initializeForms (s : Session) : s.initializeForms.store = s.store :=
  store_foldl_reseedModel _ s

/-- A model that is seeded has fresh editing states, whatever is seeded before and after it. -/
theorem get?_forms_foldl_reseedModel {models : List String} {model : String}
    {fields : ModelSchema} (hfields : s.schema.models.get? model = some fields)
    (h : model ∈ models ∨
      Dict.get? s.forms model = some (.ofRecord (s.store.record? model) fields)) :
    Dict.get? (models.foldl reseedModel s).forms model =
      some (.ofRecord (s.store.record? model) fields) := by
  induction models generalizing s with
  | nil => exact h.resolve_left List.not_mem_nil
  | cons name rest ih =>
    have hschema : (s.reseedModel name).schema.models.get? model = some fields := by
      rw [schema_reseedModel]
      exact hfields
    rw [List.foldl_cons, ← store_reseedModel s name]
    refine ih hschema ?_
    rw [store_reseedModel]
    -- Seeding does not read the editing states, so a later seed of the model changes nothing.
    by_cases hname : name = model
    · subst hname
      rw [reseedModel_of_get? hfields]
      exact Or.inr (Dict.get?_insert_self _ _ _)
    · rw [get?_forms_reseedModel_of_ne hname]
      exact h.imp_left fun hmem => (List.mem_cons.1 hmem).resolve_left (Ne.symm hname)

/-- Every stored model of the schema has fresh editing states. -/
theorem get?_forms_initializeForms {model : String} {fields : ModelSchema}
    (hfields : s.schema.models.get? model = some fields)
    (hstored : s.store.contains model = true) :
    Dict.get? s.initializeForms.forms model =
      some (.ofRecord (s.store.record? model) fields) := by
  refine get?_forms_foldl_reseedModel hfields (Or.inl (List.mem_filter.2 ⟨?_, ?_⟩))
  · exact Dict.mem_names_iff.2 hstored
  · exact Dict.contains_eq_true_iff.2 ⟨fields, hfields⟩

/-- What the owner of a session does keeps it coherent. -/
theorem Coherent.administer (h : s.Coherent) (op : AdminOp) : (s.administer op).Coherent := by
  rw [administer_eq]
  exact h.applyAll fun c hc => (op.resolvedBy_changes s c hc).knownTo

end Session

namespace Simulation

open Session

variable {s : Session} {models : Entries Json}

/-! ## All passes together -/

theorem schema_adopt (models : Entries Json) (s : Session) :
    (adopt models s).schema = s.schema := by
  have hforms : ∀ t : Session, t.initializeForms.schema = t.schema := fun t => by
    have hrun := t.administer_eq .initializeForms
    exact (congrArg Session.schema hrun).trans (t.schema_applyAll _)
  rw [adopt, hforms, fillMissingDefaults, schema_replaceModels, loadModels, schema_replaceModels]

/-- Adopting a document keeps a session coherent. -/
theorem coherent_adopt (h : s.Coherent) (models : Entries Json) : (adopt models s).Coherent :=
  ((h.administer (.loadModels models)).administer .fillMissingDefaults).administer
    .initializeForms

/-- After a document has been put into a session, a model has the record of the document, and
where the document has none, what the session had left for it. -/
theorem record?_adopt (h : Entries.Ascending models) (s : Session) (model : String) :
    (adopt models s).store.record? model = (documented models model).or (s.leftFor model) := by
  have hschema : (s.loadModels models).schema = s.schema := schema_replaceModels s _
  rw [adopt, store_initializeForms, record?_fillMissingDefaults, leftFor, hschema,
    record?_loadModels h, Option.or_assoc]
  rfl

/-- Once a document is adopted, every model of the schema is stored. -/
theorem contains_adopt (h : Entries.Ascending models) {model : String}
    (hknown : s.schema.models.contains model = true) :
    (adopt models s).store.contains model = true := by
  rw [contains_eq_isSome_record?, record?_adopt h, Option.isSome_or, contains_leftFor hknown,
    Bool.or_true]

/-- After a document has been put into a session, the models of the schema have the fresh editing
states for their records, and no other model has any. -/
theorem get?_forms_adopt (h : Entries.Ascending models) (hcoherent : s.Coherent)
    (model : String) :
    Dict.get? (adopt models s).forms model =
      (s.schema.models.get? model).map fun fields =>
        .ofRecord ((adopt models s).store.record? model) fields := by
  cases hfields : s.schema.models.get? model with
  | some fields =>
    have hknown : s.schema.models.contains model = true :=
      Dict.contains_eq_true_iff.2 ⟨fields, hfields⟩
    let filled : Session := (s.loadModels models).fillMissingDefaults
    have hstore : (adopt models s).store = filled.store := store_initializeForms filled
    have hschema : filled.schema.models.get? model = some fields := by
      rw [show filled.schema = s.schema from
        (schema_replaceModels _ _).trans (schema_replaceModels _ _)]
      exact hfields
    have hstored : filled.store.contains model = true := by
      rw [← hstore]
      exact contains_adopt h hknown
    rw [hstore]
    exact get?_forms_initializeForms hschema hstored
  | none =>
    cases hforms : Dict.get? (adopt models s).forms model with
    | none => rfl
    | some states =>
      have hknown := (coherent_adopt hcoherent models).known model
        (Dict.contains_eq_true_iff.2 ⟨states, hforms⟩)
      rw [schema_adopt] at hknown
      simp [Dict.contains, hfields] at hknown

end Simulation
end PanelForms
