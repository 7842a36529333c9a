import PanelForms.Proofs.Session.BoundStates
import PanelForms.Proofs.Session.Seeding
import PanelForms.Proofs.Session.Verdict

/-!
# Replacing records under open forms

The administration replaces records while forms are open on them.  The fields that the user has
touched keep their editing states; all other fields of a replaced model follow the new record, but
a field that a form has hidden stays hidden.  Whatever is not replaced stays as it is.  So a form is
as dirty as before, and one that has touched nothing has nothing to lose: it may be committed
however often its models have been replaced.

Main results:

- Theorem `Session.field?_replaceModels`: the editing state of every field after any number of
  replacements.
- Definition `Session.Respects`: all that a replacement may do to a session.
- Definition `Session.KeepsEdits`: the touched fields are the same, in the same states.
- Theorem `Form.submit_ne_conflict_of_untouched`: a form that has touched nothing has no conflict.
- Theorem `Panels.replacements_respect`: replacements respect edits and visibility.
-/

namespace PanelForms
namespace Session

variable {s t : Session} {r : FieldRef} {state : FieldState}

/-! ## What replacements leave -/

/-- A field that follows one record and then another is as if it had followed the other only. -/
theorem refreshed_refreshed (previous : Option FieldState) (first second : Option Json)
    (t : FieldType) :
    refreshed (some (refreshed previous first t)) second t = refreshed previous second t := by
  cases previous with
  | none => rfl
  | some state =>
    cases htouched : state.touched with
    | true => simp [refreshed, htouched]
    | false => simp [refreshed, htouched, FieldState.seeded, FieldState.setActive]

/-- A field that follows a record is touched only if it has been touched before, and then its state
is kept. -/
theorem refreshed_eq_iff {previous : Option FieldState} {canonical : Option Json} {t : FieldType}
    (htouched : state.touched = true) :
    refreshed previous canonical t = state ↔ previous = some state := by
  constructor
  · intro heq
    cases previous with
    | none =>
      subst heq
      cases htouched
    | some before =>
      by_cases hbefore : before.touched = true
      · simpa [refreshed, hbefore] using heq
      · subst heq
        simp [refreshed, hbefore, FieldState.seeded, FieldState.setActive] at htouched
  · rintro rfl
    simp [refreshed, htouched]

/-- Replacing a model writes its record and nothing else. -/
@[simp]
theorem store_replaceModel (s : Session) (model : String) (record : ModelRecord) :
    (s.replaceModel model record).store = s.store.update model record :=
  store_refreshUntouched _ model

/-- A model that is not replaced keeps its record and its revision. -/
theorem get?_models_replaceModels_of_notMem {records : List (String × ModelRecord)}
    {model : String} (s : Session) (h : model ∉ records.map (·.1)) :
    (s.replaceModels records).store.models.get? model = s.store.models.get? model := by
  induction records generalizing s with
  | nil => rfl
  | cons head rest ih =>
    obtain ⟨name, record⟩ := head
    simp only [List.map_cons, List.mem_cons, not_or] at h
    have hrest := ih (s.replaceModel name record) h.2
    rw [store_replaceModel, ModelStore.update, Dict.get?_insert, if_neg (Ne.symm h.1)] at hrest
    exact hrest

/-- Replacing a model keeps the states of the others. -/
theorem get?_forms_replaceModel_of_ne {model other : String} (h : model ≠ other) (s : Session)
    (record : ModelRecord) :
    Dict.get? (s.replaceModel model record).forms other = Dict.get? s.forms other := by
  unfold replaceModel refreshUntouched
  split
  · simp [Dict.get?_insert, h]
  · rfl

/-- A model that is not replaced keeps all its editing states. -/
theorem get?_forms_replaceModels_of_notMem {records : List (String × ModelRecord)}
    {model : String} (s : Session) (h : model ∉ records.map (·.1)) :
    Dict.get? (s.replaceModels records).forms model = Dict.get? s.forms model := by
  induction records generalizing s with
  | nil => rfl
  | cons head rest ih =>
    obtain ⟨name, record⟩ := head
    simp only [List.map_cons, List.mem_cons, not_or] at h
    exact (ih (s.replaceModel name record) h.2).trans
      (get?_forms_replaceModel_of_ne (Ne.symm h.1) s record)

/-- Replacements give no model its first editing state, and take no model its last one. -/
theorem contains_forms_replaceModels (s : Session) (records : List (String × ModelRecord))
    (model : String) :
    Dict.contains (s.replaceModels records).forms model = true ↔
      Dict.contains s.forms model = true := by
  induction records generalizing s with
  | nil => rfl
  | cons head rest ih =>
    exact (ih (s.replaceModel head.1 head.2)).trans
      (contains_forms_refreshUntouched { s with store := s.store.update head.1 head.2 } head.1
        model)

/-- A model with editing state that is replaced once. -/
theorem field?_replaceModel (hknown : s.schema.models.contains r.model = true)
    (hforms : Dict.contains s.forms r.model = true) (model : String) (record : ModelRecord) :
    (s.replaceModel model record).forms.field? r =
      if model = r.model then
        (s.schema.field? r).map fun d =>
          refreshed (s.forms.field? r) (record.get? r.field) d.fieldType
      else s.forms.field? r := by
  rw [replaceModel, field?_refreshUntouched]
  by_cases hmodel : model = r.model
  · subst hmodel
    simp [hknown, hforms, ModelStore.fieldValue?_update]
  · simp [hmodel]

/-- After any number of replacements, the fields of a replaced model with editing state have
followed the record that is stored last. -/
theorem field?_replaceModels {records : List (String × ModelRecord)} (s : Session)
    (hreplaced : r.model ∈ records.map (·.1)) (hknown : s.schema.models.contains r.model = true)
    (hforms : Dict.contains s.forms r.model = true) :
    (s.replaceModels records).forms.field? r =
      (s.schema.field? r).map fun d =>
        refreshed (s.forms.field? r) ((s.replaceModels records).store.fieldValue? r)
          d.fieldType := by
  induction records generalizing s with
  | nil => cases hreplaced
  | cons head rest ih =>
    obtain ⟨name, record⟩ := head
    have hstep : s.replaceModels ((name, record) :: rest) =
        (s.replaceModel name record).replaceModels rest := rfl
    have hnext := field?_replaceModel hknown hforms name record
    rw [hstep]
    by_cases hrest : r.model ∈ rest.map (·.1)
    · -- What this replacement seeds, a later one of the same model seeds anew.
      have hschema : (s.replaceModel name record).schema = s.schema :=
        schema_refreshUntouched _ name
      have hcontains : Dict.contains (s.replaceModel name record).forms r.model = true :=
        (contains_forms_refreshUntouched _ name r.model).2 hforms
      rw [ih _ hrest (hschema ▸ hknown) hcontains, hschema, hnext]
      cases s.schema.field? r with
      | none => rfl
      | some d =>
        by_cases hname : name = r.model
        · simp [hname, refreshed_refreshed]
        · simp [hname]
    · have hname : name = r.model := by
        simp only [List.map_cons, List.mem_cons] at hreplaced
        exact (hreplaced.resolve_right hrest).symm
      have hkept := get?_models_replaceModels_of_notMem (s.replaceModel name record) hrest
      have hvalue : ((s.replaceModel name record).replaceModels rest).store.fieldValue? r =
          record.get? r.field := by
        rw [ModelStore.fieldValue?, ModelStore.record?, hkept, store_replaceModel]
        simp [ModelStore.update, hname]
      have hsame : ((s.replaceModel name record).replaceModels rest).forms.field? r =
          (s.replaceModel name record).forms.field? r := by
        rw [FormState.field?, get?_forms_replaceModels_of_notMem _ hrest, FormState.field?]
      rw [hsame, hnext, if_pos hname, hvalue]

/-! ## Edits and visibility -/

/-- The touched fields are the same, in the same states. -/
def KeepsEdits (s t : Session) : Prop :=
  ∀ r state, state.touched = true →
    (t.forms.field? r = some state ↔ s.forms.field? r = some state)

theorem keepsEdits_refl (s : Session) : s.KeepsEdits s :=
  fun _ _ _ => Iff.rfl

theorem KeepsEdits.trans {u : Session} (hst : s.KeepsEdits t) (htu : t.KeepsEdits u) :
    s.KeepsEdits u :=
  fun r state htouched => (htu r state htouched).trans (hst r state htouched)

/-- Replacements keep the touched fields of every model, replaced or not. -/
theorem keepsEdits_replaceModels (hcoherent : s.Coherent) (htyped : s.WellTyped)
    (records : List (String × ModelRecord)) : s.KeepsEdits (s.replaceModels records) := by
  intro r state htouched
  by_cases hreplaced : r.model ∈ records.map (·.1)
  · by_cases hforms : Dict.contains s.forms r.model = true
    · rw [field?_replaceModels s hreplaced (hcoherent.known _ hforms) hforms]
      cases hd : s.schema.field? r with
      | none =>
        refine iff_of_false (by simp) fun hstate => ?_
        obtain ⟨d, hd', -⟩ := htyped r state hstate
        rw [hd] at hd'
        cases hd'
      | some d =>
        rw [Option.map_some, Option.some_inj]
        exact refreshed_eq_iff htouched
    · refine iff_of_false (fun hstate => hforms ?_) fun hstate => hforms ?_
      · exact (contains_forms_replaceModels s records r.model).1
          (FormState.contains_of_field? hstate)
      · exact FormState.contains_of_field? hstate
  · rw [FormState.field?, get?_forms_replaceModels_of_notMem s hreplaced, FormState.field?]

/-- All that a replacement may do to a session `s`, which is `t` after it, where `written` holds the
new records of the models that are named. -/
structure Respects (s : Session) (written : String → Option ModelRecord) (t : Session) : Prop where
  records_written : ∀ model record, written model = some record →
    t.store.record? model = some record
  /-- All other models keep their records, with their revisions, and their editing states. -/
  records_kept : ∀ model, written model = none →
    t.store.models.get? model = s.store.models.get? model
  forms_kept : ∀ model, written model = none → Dict.get? t.forms model = Dict.get? s.forms model
  /-- A model without editing state gets none. -/
  forms_absent : ∀ model, Dict.get? s.forms model = none → Dict.get? t.forms model = none
  /-- Touched fields keep their states. -/
  touched_kept : ∀ r state, s.forms.field? r = some state → state.touched = true →
    t.forms.field? r = some state
  /-- Untouched fields of a named model show its new record, and are as active as before. -/
  untouched_follows : ∀ r state record, written r.model = some record →
    s.forms.field? r = some state → state.touched = false →
      ∃ d, s.schema.field? r = some d ∧ t.forms.field? r =
        some ((FieldState.seeded (record.get? r.field) d.fieldType).setActive state.active)
  /-- In a named model with editing state, the fields that had none show its new record. -/
  others_join : ∀ r d record, written r.model = some record →
    Dict.contains s.forms r.model = true → s.schema.field? r = some d →
      s.forms.field? r = none →
        t.forms.field? r = some (.seeded (record.get? r.field) d.fieldType)

/-- Replacements in order of names respect edits and visibility. -/
theorem respects_replaceModels (hcoherent : s.Coherent) (htyped : s.WellTyped)
    {records : Entries ModelRecord} (hascending : Entries.Ascending records) :
    s.Respects (fun model => Entries.get? model records) (s.replaceModels records) := by
  have hnamed : ∀ model record, Entries.get? model records = some record →
      model ∈ records.map (·.1) := fun model record hwritten =>
    List.mem_map.2 ⟨(model, record), Entries.mem_of_get?_eq_some hwritten, rfl⟩
  have hunnamed : ∀ model, Entries.get? model records = none → model ∉ records.map (·.1) := by
    intro model hnone hmem
    obtain ⟨e, he, hname⟩ := List.mem_map.1 hmem
    exact Entries.get?_eq_none_iff.1 hnone e he hname
  have hwritten : ∀ model record, Entries.get? model records = some record →
      (s.replaceModels records).store.record? model = some record := by
    intro model record hget
    rw [record?_replaceModels hascending, hget, Option.some_or]
  have hfollows : ∀ r record, Entries.get? r.model records = some record →
      Dict.contains s.forms r.model = true → (s.replaceModels records).forms.field? r =
        (s.schema.field? r).map fun d =>
          refreshed (s.forms.field? r) (record.get? r.field) d.fieldType := by
    intro r record hget hforms
    rw [field?_replaceModels s (hnamed _ _ hget) (hcoherent.known _ hforms) hforms,
      ModelStore.fieldValue?, hwritten _ _ hget, Option.bind_some]
  constructor
  case records_written => exact hwritten
  case records_kept =>
    exact fun model hnone => get?_models_replaceModels_of_notMem s (hunnamed model hnone)
  case forms_kept =>
    exact fun model hnone => get?_forms_replaceModels_of_notMem s (hunnamed model hnone)
  case forms_absent =>
    intro model hnone
    refine Option.eq_none_iff_forall_ne_some.2 fun states hstates => ?_
    have hcontains := (contains_forms_replaceModels s records model).1
      (Dict.contains_eq_true_iff.2 ⟨states, hstates⟩)
    simp [Dict.contains, hnone] at hcontains
  case touched_kept =>
    intro r state hstate htouched
    exact (keepsEdits_replaceModels hcoherent htyped records r state htouched).2 hstate
  case untouched_follows =>
    intro r state record hget hstate huntouched
    obtain ⟨d, hd, -⟩ := htyped r state hstate
    refine ⟨d, hd, ?_⟩
    rw [hfollows r record hget (FormState.contains_of_field? hstate), hd, hstate]
    simp [refreshed, huntouched]
  case others_join =>
    intro r d record hget hforms hd hnone
    rw [hfollows r record hget hforms, hd, hnone]
    rfl

end Session

namespace Form

variable {f : Form} {s t : Session}

/-! ## What forms notice -/

/-- A form is as dirty as before. -/
theorem isDirty_of_keepsEdits (h : s.KeepsEdits t) : f.isDirty t = f.isDirty s := by
  rw [Bool.eq_iff_iff, isDirty_iff, isDirty_iff]
  refine exists_congr fun field => and_congr_right fun _ => exists_congr fun state => ?_
  constructor
  · rintro ⟨hstate, hactive, htouched⟩
    exact ⟨(h field.ref state htouched).1 hstate, hactive, htouched⟩
  · rintro ⟨hstate, hactive, htouched⟩
    exact ⟨(h field.ref state htouched).2 hstate, hactive, htouched⟩

/-- A form that has touched nothing has touched nothing afterwards either. -/
theorem hasTouchedFields_of_keepsEdits (h : s.KeepsEdits t) {model : String}
    (huntouched : f.hasTouchedFields s model = false) : f.hasTouchedFields t model = false := by
  have hedits : ∀ r, (t.edit? r).isSome = true → (s.edit? r).isSome = true := by
    intro r hedit
    obtain ⟨value, hvalue⟩ := Option.isSome_iff_exists.1 hedit
    obtain ⟨state, hstate, htouched, rfl⟩ := Session.edit?_eq_some_iff.1 hvalue
    rw [Session.edit?_eq_some_iff.2 ⟨state, (h r state htouched).1 hstate, htouched, rfl⟩]
    rfl
  refine Bool.eq_false_iff.2 fun htouched => Bool.eq_false_iff.1 huntouched ?_
  obtain ⟨field, hfield, hmodel, hedit⟩ := hasTouchedFields_iff.1 htouched
  exact hasTouchedFields_iff.2 ⟨field, hfield, hmodel, hedits field.ref hedit⟩

/-- A form that has touched nothing is never refused for a conflict. -/
theorem submit_ne_conflict_of_untouched (h : ∀ model, f.hasTouchedFields s model = false)
    (model : String) (expected found : Revision) :
    (f.submit s).outcome ≠ .error (.conflict model expected found) := by
  intro hconflict
  by_cases hbelongs : f.BelongsTo s
  · have hverdict := (exactVerdict_of_belongsTo hbelongs).conflict_iff model expected found
    obtain ⟨-, -, hovertaken, -⟩ := hverdict.1 hconflict
    obtain ⟨-, -, field, hfield, hmodel, hedit⟩ := hovertaken
    have htouched := hasTouchedFields_iff.2 ⟨field, hfield, hmodel, hedit⟩
    rw [h model] at htouched
    cases htouched
  · obtain ⟨attached, -, -, hforeign⟩ := submit_of_not_belongsTo hbelongs
    rw [hforeign] at hconflict
    cases hconflict

end Form

/-! ## The administration -/

namespace AdminOp

/-- The operation replaces records, and does nothing else. -/
def Replaces : AdminOp → Prop
  | .replaceModel _ _ | .loadModels _ | .fillMissingDefaults => True
  | _ => False

end AdminOp

namespace Session

variable {s : Session}

/-- The session after several administrative operations. -/
def administerAll (s : Session) (ops : List AdminOp) : Session :=
  ops.foldl administer s

/-- What the owner of a session does keeps it well-typed. -/
theorem WellTyped.administer (h : s.WellTyped) (op : AdminOp) : (s.administer op).WellTyped := by
  rw [administer_eq]
  exact h.applyAll (op.resolvedBy_changes s)

/-- Replacements keep all edits. -/
theorem keepsEdits_administer (hcoherent : s.Coherent) (htyped : s.WellTyped) {op : AdminOp}
    (hop : op.Replaces) : s.KeepsEdits (s.administer op) := by
  cases op with
  | replaceModel model record => exact keepsEdits_replaceModels hcoherent htyped [(model, record)]
  | loadModels models => exact keepsEdits_replaceModels hcoherent htyped (recordsOf models)
  | fillMissingDefaults => exact keepsEdits_replaceModels hcoherent htyped s.missingDefaults
  | initializeForms | attend => exact hop.elim

/-- However often records are replaced, the touched fields keep their states. -/
theorem keepsEdits_administerAll (hcoherent : s.Coherent) (htyped : s.WellTyped)
    {ops : List AdminOp} (hops : ∀ op ∈ ops, op.Replaces) : s.KeepsEdits (s.administerAll ops) := by
  induction ops generalizing s with
  | nil => exact keepsEdits_refl s
  | cons op rest ih =>
    have hone := keepsEdits_administer hcoherent htyped (hops op List.mem_cons_self)
    refine hone.trans (ih (hcoherent.administer op) (htyped.administer op) ?_)
    exact fun other hother => hops other (List.mem_cons_of_mem op hother)

end Session

namespace Panels

/-- Whatever has been done with the panels before, the replacement of a record and the load of a
document respect edits and visibility.  However many replacements there are, every form is as dirty
as before, and a form that has touched nothing is not refused for a conflict after them. -/
theorem replacements_respect {p : Panels} (hp : p.ReachableVia OwnBinding) :
    (∀ model record, p.session.Respects (fun other => if model = other then some record else none)
      (p.session.replaceModel model record)) ∧
    (∀ models : Dict Json, p.session.Respects (Session.documented models.entries)
      (p.session.loadModels models.entries)) ∧
    ∀ ops : List AdminOp, (∀ op ∈ ops, op.Replaces) → ∀ f : Form,
      f.isDirty (p.session.administerAll ops) = f.isDirty p.session ∧
      ((∀ model, f.hasTouchedFields p.session model = false) → ∀ model expected found,
        (f.submit (p.session.administerAll ops)).outcome ≠
          .error (.conflict model expected found)) := by
  obtain ⟨⟨hcoherent, -⟩, htyped, -⟩ := own_of_reachable hp
  refine ⟨fun model record => ?_, fun models => ?_, fun ops hops f => ?_⟩
  · have hone : Entries.Ascending [(model, record)] := List.pairwise_singleton _ _
    have hwritten : (fun other => Entries.get? other [(model, record)]) =
        fun other => if model = other then some record else none := by
      funext other
      simp [Entries.get?]
    rw [← hwritten]
    exact Session.respects_replaceModels hcoherent htyped hone
  · have hwritten : (fun other => Entries.get? other (Session.recordsOf models.entries)) =
        Session.documented models.entries := by
      funext other
      exact Session.get?_recordsOf models.ascending other
    rw [← hwritten]
    exact Session.respects_replaceModels hcoherent htyped
      (Session.ascending_recordsOf models.ascending)
  · have hkeeps := Session.keepsEdits_administerAll hcoherent htyped hops
    refine ⟨Form.isDirty_of_keepsEdits hkeeps, fun huntouched => ?_⟩
    exact Form.submit_ne_conflict_of_untouched fun model =>
      Form.hasTouchedFields_of_keepsEdits hkeeps (huntouched model)

/-- The memo is stored, a first form has edited its title, and a second one has hidden its body. -/
def bodyHidden : Panels :=
  desk.run [.admin (.replaceModel "memo" (.memo "old" "text")), .form 0 (.bind "memo.title"),
    .form 1 (.bind "memo.body"), .form 0 (.edit .memoTitle (.string "new")),
    .form 1 (.setActive ⟨"memo", "body"⟩ false)]

theorem reachable_bodyHidden : bodyHidden.ReachableVia OwnBinding :=
  (ReachableVia.fresh fresh_desk).run ⟨trivial, trivial, trivial, trivial, trivial, trivial⟩

/-- A document with a newer memo and a value that is no record. -/
def newerDocument : Dict Json :=
  Dict.ofList [("memo", .object [("body", .string "more"), ("title", .string "newest")]),
    ("notes", .ofInt 3)]

/-- Both ways to replace the memo respect the hidden edit of its body, which keeps the form dirty
and meets no conflict. -/
theorem replacements_respect_bodyHidden :
    bodyHidden.session.Respects
      (fun other => if "memo" = other then some (.memo "newer" "text") else none)
      (bodyHidden.session.replaceModel "memo" (.memo "newer" "text")) ∧
    bodyHidden.session.Respects (Session.documented newerDocument.entries)
      (bodyHidden.session.loadModels newerDocument.entries) ∧
    (bodyHidden.forms 0).isDirty (bodyHidden.session.administerAll
      [.replaceModel "memo" (.memo "newer" "text"), .loadModels newerDocument.entries]) = true ∧
    ∀ model expected found, ((bodyHidden.forms 1).submit (bodyHidden.session.administerAll
      [.replaceModel "memo" (.memo "newer" "text"), .loadModels newerDocument.entries])).outcome ≠
        .error (.conflict model expected found) := by
  obtain ⟨hreplace, hload, hall⟩ := replacements_respect reachable_bodyHidden
  have hops : ∀ op ∈ [AdminOp.replaceModel "memo" (.memo "newer" "text"),
      .loadModels newerDocument.entries], op.Replaces := by
    simp [AdminOp.Replaces]
  have hstates : (bodyHidden.forms 1).boundStates bodyHidden.session =
      [(⟨"memo", "body"⟩, ⟨.string "text", true, false, false⟩)] := by
    rfl
  have huntouched : ∀ model,
      (bodyHidden.forms 1).hasTouchedFields bodyHidden.session model = false := by
    intro model
    rw [Form.hasTouchedFields, hstates]
    simp
  have hdirty : (bodyHidden.forms 0).isDirty bodyHidden.session = true := by
    rfl
  refine ⟨hreplace "memo" _, hload newerDocument, ?_, (hall _ hops _).2 huntouched⟩
  rw [(hall _ hops _).1, hdirty]

end Panels
end PanelForms
