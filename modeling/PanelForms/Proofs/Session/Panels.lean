import Mathlib.Logic.Function.Basic
import PanelForms.Proofs.Session.Operation

/-!
# Panels over one session

An application opens a form for each of its panels, all over one session, and uses them in any
order, with administrative replacements in between.  This module is about every order: a step is
one operation of one form or of the administration, and what a step keeps holds whenever the
session is looked at.

Main results:

- Definitions `Panels.step` and `Panels.ReachableVia`: the steps and what they reach.
- Theorem `Panels.step_effect`: every step is a run of elementary changes.
- Theorems `Panels.Sound.step` and `Panels.Own.step`: the invariants of all panels together.
- Theorem `Panels.fieldState_of_reachable`: every editing state belongs to a field of the schema,
  carries the verdict of its type, and shows the canonical value unless it was touched.
-/

namespace PanelForms

/-! ## Administration -/

/-- What may be done to a session outside all forms. -/
inductive AdminOp where
  | replaceModel (model : String) (record : ModelRecord)
  | loadModels (models : Entries Json)
  | fillMissingDefaults
  | initializeForms
  | attend (op : SubscriptionOp)

namespace AdminOp

/-- The changes that an administrative operation makes. -/
def changes (s : Session) : AdminOp → List Change
  | .replaceModel model record => [.replace model record]
  | .loadModels models => (Session.recordsOf models).map fun r => .replace r.1 r.2
  | .fillMissingDefaults => s.missingDefaults.map fun r => .replace r.1 r.2
  | .initializeForms =>
    (s.store.models.names.filter fun name => s.schema.models.contains name).map .reseed
  | .attend op => [.attend op]

/-- The administration replaces records and attends to subscriptions; only seeding all forms seeds
models anew. -/
theorem mem_changes {s : Session} {op : AdminOp} {c : Change} (hc : c ∈ op.changes s) :
    (∃ model record, c = .replace model record) ∨ (∃ sub, c = .attend sub) ∨
      op = .initializeForms ∧ ∃ model, c = .reseed model := by
  cases op with
  | replaceModel model record => exact Or.inl ⟨model, record, List.mem_singleton.1 hc⟩
  | loadModels models =>
    obtain ⟨r, -, rfl⟩ := List.mem_map.1 hc
    exact Or.inl ⟨r.1, r.2, rfl⟩
  | fillMissingDefaults =>
    obtain ⟨r, -, rfl⟩ := List.mem_map.1 hc
    exact Or.inl ⟨r.1, r.2, rfl⟩
  | initializeForms =>
    obtain ⟨model, -, rfl⟩ := List.mem_map.1 hc
    exact Or.inr (Or.inr ⟨rfl, model, rfl⟩)
  | attend sub => exact Or.inr (Or.inl ⟨sub, List.mem_singleton.1 hc⟩)

/-- The changes that the owner of a session makes are resolved by its schema. -/
theorem resolvedBy_changes (s : Session) (op : AdminOp) :
    ∀ c ∈ op.changes s, c.ResolvedBy s.schema := by
  intro c hc
  rcases mem_changes hc with ⟨model, record, rfl⟩ | ⟨sub, rfl⟩ | ⟨-, model, rfl⟩ <;> trivial

/-- The administration edits nothing. -/
theorem edited?_changes (s : Session) (op : AdminOp) : ∀ c ∈ op.changes s, c.edited? = none := by
  intro c hc
  rcases mem_changes hc with ⟨model, record, rfl⟩ | ⟨sub, rfl⟩ | ⟨-, model, rfl⟩ <;> rfl

/-- Only seeding all forms discards edits. -/
theorem discarded?_changes (s : Session) {op : AdminOp} (h : op ≠ .initializeForms) :
    ∀ c ∈ op.changes s, c.discarded? = none := by
  intro c hc
  rcases mem_changes hc with ⟨model, record, rfl⟩ | ⟨sub, rfl⟩ | ⟨hop, -⟩
  · rfl
  · rfl
  · exact (h hop).elim

end AdminOp

namespace Session

/-- The session after an administrative operation. -/
def administer (s : Session) : AdminOp → Session
  | .replaceModel model record => s.replaceModel model record
  | .loadModels models => s.loadModels models
  | .fillMissingDefaults => s.fillMissingDefaults
  | .initializeForms => s.initializeForms
  | .attend op => { s with store := s.store.attend op }

/-- Replacing some models replaces each of them. -/
theorem replaceModels_eq (s : Session) (records : List (String × ModelRecord)) :
    s.replaceModels records = s.applyAll (records.map fun r => .replace r.1 r.2) := by
  rw [applyAll, List.foldl_map]
  rfl

/-- An administrative operation is a run of elementary changes. -/
theorem administer_eq (s : Session) (op : AdminOp) :
    s.administer op = s.applyAll (op.changes s) := by
  cases op with
  | replaceModel model record => rfl
  | loadModels models => exact replaceModels_eq s _
  | fillMissingDefaults => exact replaceModels_eq s _
  | initializeForms => exact foldl_reseedModel_eq _ s
  | attend op => rfl

end Session

/-! ## Panels and their steps -/

/-- A session with the forms of all panels, opened or not. -/
structure Panels where
  session : Session
  forms : Nat → Form

/-- One step: the administration acts, or one of the forms does. -/
inductive PanelOp where
  | admin (op : AdminOp)
  | form (k : Nat) (op : FormOp)

namespace Panels

/-- The panels after a step. -/
def step (p : Panels) : PanelOp → Panels
  | .admin op => { p with session := p.session.administer op }
  | .form k op =>
    let next := (p.forms k).perform p.session op
    { session := next.2, forms := Function.update p.forms k next.1 }

/-- The panels after several steps. -/
def run (p : Panels) (ops : List PanelOp) : Panels :=
  ops.foldl step p

@[simp]
theorem run_nil (p : Panels) : p.run [] = p :=
  rfl

@[simp]
theorem run_cons (p : Panels) (op : PanelOp) (ops : List PanelOp) :
    p.run (op :: ops) = (p.step op).run ops :=
  rfl

/-- The session is new, and no form has been used with it yet; a form may have been used with
another one. -/
structure Fresh (p : Panels) : Prop where
  session : ∃ id schema, p.session = .new id schema
  forms : ∀ k, p.forms k = .empty ∨ ¬ (p.forms k).BelongsTo p.session

/-- The panels can come about by steps that are allowed. -/
inductive ReachableVia (Allowed : Panels → PanelOp → Prop) : Panels → Prop where
  | fresh {p : Panels} (h : p.Fresh) : ReachableVia Allowed p
  | step {p : Panels} {op : PanelOp} (h : ReachableVia Allowed p) (hallowed : Allowed p op) :
      ReachableVia Allowed (p.step op)

/-- The panels can come about. -/
abbrev Reachable : Panels → Prop :=
  ReachableVia fun _ _ => True

/-- A field that a form is given to bind is one that the schema of the session has resolved. -/
def OwnBinding (p : Panels) : PanelOp → Prop
  | .form _ (.bindField field) => p.session.schema.resolveRef field.ref = .ok field
  | _ => True

/-- A new binding comes from a text, which the schema resolves, or is an own one. -/
theorem OwnBinding.resolveRef {p : Panels} {k : Nat} {op : FormOp} {field : ResolvedField}
    (h : p.OwnBinding (.form k op)) (hbinds : op.binds? p.session.schema = some field) :
    p.session.schema.resolveRef field.ref = .ok field := by
  cases op with
  | bind text =>
    cases hresolve : p.session.schema.resolve text with
    | error e => simp [FormOp.binds?, hresolve, Except.toOption] at hbinds
    | ok found =>
      rw [Form.binds?_bind hresolve] at hbinds
      cases hbinds
      exact Schema.resolveRef_of_resolve hresolve
  | bindField found =>
    cases hbinds
    exact h
  | edit | setActive | submit | cancel => cases hbinds

/-- Every step of a run is allowed where it is taken. -/
def Along (Allowed : Panels → PanelOp → Prop) : Panels → List PanelOp → Prop
  | _, [] => True
  | p, op :: ops => Allowed p op ∧ Along Allowed (p.step op) ops

/-- Some step of a run is of a kind where it is taken. -/
def Happens (Kind : Panels → PanelOp → Prop) : Panels → List PanelOp → Prop
  | _, [] => False
  | p, op :: ops => Kind p op ∨ Happens Kind (p.step op) ops

section ReachableVia

variable {Allowed Weaker : Panels → PanelOp → Prop} {p : Panels}

/-- What is reachable by some operations is reachable if more are allowed. -/
theorem ReachableVia.mono (h : p.ReachableVia Allowed)
    (hweaker : ∀ p op, Allowed p op → Weaker p op) : p.ReachableVia Weaker := by
  induction h with
  | fresh h => exact .fresh h
  | step h hallowed ih => exact .step ih (hweaker _ _ hallowed)

/-- A run of operations that are allowed leads to reachable panels. -/
theorem ReachableVia.run (h : p.ReachableVia Allowed) {ops : List PanelOp}
    (hops : Along Allowed p ops) : (p.run ops).ReachableVia Allowed := by
  induction ops generalizing p with
  | nil => exact h
  | cons op ops ih => exact ih (.step h hops.1) hops.2

end ReachableVia

/-! ## The invariants -/

/-- What all steps keep, whatever was bound. -/
structure Sound (p : Panels) : Prop where
  coherent : p.session.Coherent
  fits : ∀ k, (p.forms k).BelongsTo p.session → (p.forms k).Fits p.session

/-- What all steps keep if only fields resolved by the session are bound. -/
structure Own (p : Panels) : Prop extends Sound p where
  wellTyped : p.session.WellTyped
  /-- Every binding is the one that the schema makes of its reference. -/
  resolved : ∀ k, (p.forms k).BelongsTo p.session → ∀ field ∈ (p.forms k).fields,
    p.session.schema.resolveRef field.ref = .ok field

/-- Fresh panels have bound no field, so all that they have bound is their own. -/
theorem Fresh.own {p : Panels} (h : p.Fresh) : p.Own := by
  obtain ⟨id, schema, hsession⟩ := h.session
  refine { coherent := ?_, fits := ?_, wellTyped := ?_, resolved := ?_ }
  · rw [hsession]
    exact Session.coherent_new id schema
  · intro k hbelongs
    rcases h.forms k with hempty | hnot
    · rw [hempty]
      exact Form.fits_empty _
    · exact (hnot hbelongs).elim
  · rw [hsession]
    exact Session.wellTyped_new id schema
  · intro k hbelongs field hfield
    rcases h.forms k with hempty | hnot
    · rw [hempty] at hfield
      cases hfield
    · exact (hnot hbelongs).elim

/-- What a step makes of the forms, and the changes it makes to the session. -/
inductive Effect (p : Panels) : PanelOp → (Nat → Form) → List Change → Prop where
  | admin {op : AdminOp} : Effect p (.admin op) p.forms (op.changes p.session)
  | form {k : Nat} {op : FormOp} {f : Form} {changes : List Change}
      (he : (p.forms k).Effect p.session op f changes) :
      Effect p (.form k op) (Function.update p.forms k f) changes

section step

variable {p : Panels} {op : PanelOp} {forms : Nat → Form} {changes : List Change}

/-- Every step is a run of elementary changes. -/
theorem step_effect (h : p.Sound) (op : PanelOp) :
    ∃ changes, p.Effect op (p.step op).forms changes ∧
      (p.step op).session = p.session.applyAll changes := by
  cases op with
  | admin op => exact ⟨op.changes p.session, .admin, p.session.administer_eq op⟩
  | form k op =>
    have hconsistent : (p.forms k).BelongsTo p.session → (p.forms k).Consistent :=
      fun hbelongs => (h.fits k hbelongs).consistent
    obtain ⟨changes, he, hsession⟩ := Form.perform_effect hconsistent op
    exact ⟨changes, .form he, hsession⟩

/-- A form either acts or stays as it is. -/
theorem Effect.forms_eq (he : p.Effect op forms changes) (k : Nat) :
    forms k = p.forms k ∨
      ∃ fop, op = .form k fop ∧ (p.forms k).Effect p.session fop (forms k) changes := by
  cases he with
  | admin => exact Or.inl rfl
  | @form j fop f _ he =>
    by_cases hk : k = j
    · subst hk
      refine Or.inr ⟨fop, rfl, ?_⟩
      rw [Function.update_self]
      exact he
    · exact Or.inl (Function.update_of_ne hk f p.forms)

/-- The operations of sound panels change known models only. -/
theorem Effect.knownTo (he : p.Effect op forms changes) (h : p.Sound) :
    ∀ c ∈ changes, c.KnownTo p.session.schema := by
  cases he with
  | @admin aop => exact fun c hc => (aop.resolvedBy_changes p.session c hc).knownTo
  | @form k fop f _ he =>
    by_cases hbelongs : (p.forms k).BelongsTo p.session
    · have hfits := h.fits k hbelongs
      exact he.knownTo hfits.consistent hfits.known
    · rw [(he.eq_of_not_belongsTo hbelongs).2]
      intro c hc
      cases hc

/-- Whether a form belongs to the session never changes. -/
theorem Effect.belongsTo_iff (he : p.Effect op forms changes) (k : Nat) :
    (forms k).BelongsTo (p.session.applyAll changes) ↔ (p.forms k).BelongsTo p.session := by
  have hid := p.session.id_applyAll changes
  rcases he.forms_eq k with hsame | ⟨fop, -, heffect⟩
  · rw [hsame]
    simp [Form.BelongsTo]
  · exact heffect.belongsTo_iff hid

/-- Every operation keeps the panels sound. -/
theorem Sound.step (h : p.Sound) (op : PanelOp) : (p.step op).Sound := by
  obtain ⟨changes, he, hsession⟩ := step_effect h op
  have hknown := he.knownTo h
  have hle := h.coherent.revision_le_applyAll hknown
  refine ⟨?_, ?_⟩
  · rw [hsession]
    exact h.coherent.applyAll hknown
  · intro k hbelongs
    rw [hsession] at hbelongs ⊢
    have hbefore := h.fits k ((he.belongsTo_iff k).1 hbelongs)
    rcases he.forms_eq k with hsame | ⟨fop, -, heffect⟩
    · rw [hsame]
      exact hbefore.mono (p.session.schema_applyAll changes) hle
    · exact heffect.fits hbefore hle

/-- After a step with an own binding, every form binds fields as the schema resolves them. -/
theorem Own.resolved_step (h : p.Own) (he : p.Effect op forms changes) (hop : p.OwnBinding op)
    (k : Nat) (hbelongs : (p.forms k).BelongsTo p.session) :
    ∀ field ∈ (forms k).fields, p.session.schema.resolveRef field.ref = .ok field := by
  intro field hfield
  rcases he.forms_eq k with hsame | ⟨fop, rfl, heffect⟩
  · rw [hsame] at hfield
    exact h.resolved k hbelongs field hfield
  · rcases heffect.fields_eq with hsame | ⟨new, hbinds, -, hnew⟩
    · rw [hsame] at hfield
      exact h.resolved k hbelongs field hfield
    · rw [hnew, List.mem_append, List.mem_singleton] at hfield
      rcases hfield with hold | rfl
      · exact h.resolved k hbelongs field hold
      · exact hop.resolveRef hbinds

/-- Panels that bind their own fields make changes that the schema resolves. -/
theorem Own.resolvedBy (h : p.Own) (he : p.Effect op forms changes) (hop : p.OwnBinding op) :
    ∀ c ∈ changes, c.ResolvedBy p.session.schema := by
  have hresolved := h.resolved_step he hop
  cases he with
  | @admin aop => exact aop.resolvedBy_changes p.session
  | @form k fop f _ he =>
    by_cases hbelongs : (p.forms k).BelongsTo p.session
    · have hforms := hresolved k hbelongs
      rw [Function.update_self] at hforms
      exact he.resolvedBy (h.fits k hbelongs).consistent hforms
    · rw [(he.eq_of_not_belongsTo hbelongs).2]
      intro c hc
      cases hc

/-- Panels that bind their own fields go on doing so. -/
theorem Own.step (h : p.Own) (hop : p.OwnBinding op) : (p.step op).Own := by
  obtain ⟨changes, he, hsession⟩ := step_effect h.toSound op
  have hsound := h.toSound.step op
  refine { toSound := hsound, wellTyped := ?_, resolved := ?_ }
  · rw [hsession]
    exact h.wellTyped.applyAll (h.resolvedBy he hop)
  · intro k hbelongs field hfield
    rw [hsession, Session.schema_applyAll]
    rw [hsession] at hbelongs
    exact h.resolved_step he hop k ((he.belongsTo_iff k).1 hbelongs) field hfield

end step

/-- Reachable panels are sound, by induction on the way to them. -/
theorem sound_of_reachable {Allowed : Panels → PanelOp → Prop} {p : Panels}
    (hp : p.ReachableVia Allowed) : p.Sound := by
  induction hp with
  | fresh h => exact h.own.toSound
  | step h hallowed ih => exact ih.step _

/-- Panels that are reachable by binding own fields have bound such fields only. -/
theorem own_of_reachable {p : Panels} (hp : p.ReachableVia OwnBinding) : p.Own := by
  induction hp with
  | fresh h => exact h.own
  | step h hallowed ih => exact ih.step hallowed

/-- Every editing state belongs to a field of the schema, carries the verdict of its type, and
shows the canonical value, or null where there is none, unless it was touched. -/
theorem fieldState_of_reachable {p : Panels} (hp : p.ReachableVia OwnBinding) {r : FieldRef}
    {state : FieldState} (hstate : p.session.forms.field? r = some state) :
    ∃ d, p.session.schema.field? r = some d ∧
      state.valid = d.fieldType.validates state.value ∧
      (state.touched = false → state.value = (p.session.store.fieldValue? r).getD .null) := by
  have hown := own_of_reachable hp
  obtain ⟨d, hd, hvalid⟩ := hown.wellTyped r state hstate
  exact ⟨d, hd, hvalid, hown.coherent.follows r state hstate⟩

end Panels

/-! ## A small desk -/

/-- A schema of one model, a memo with a title and a body. -/
def Schema.memo : Schema where
  models := Dict.ofList [("memo", Dict.ofList [
    ("body", ⟨"Body", ⟨.text, false⟩, none, none⟩),
    ("title", ⟨"Title", ⟨.text, false⟩, none, none⟩)])]
  views := []

/-- The title of the memo. -/
def FieldRef.memoTitle : FieldRef :=
  ⟨"memo", "title"⟩

/-- A record of the memo. -/
def ModelRecord.memo (title body : String) : ModelRecord :=
  Dict.ofList [("body", .string body), ("title", .string title)]

namespace Panels

/-- No form has been opened yet, and the memo is not stored yet. -/
def desk : Panels :=
  ⟨.new ⟨1⟩ .memo, fun _ => .empty⟩

theorem fresh_desk : desk.Fresh where
  session := ⟨⟨1⟩, .memo, rfl⟩
  forms _ := Or.inl rfl

/-- The memo is stored, and a first form edits its title. -/
def titleEdited : List PanelOp :=
  [.admin (.replaceModel "memo" (.memo "old" "text")), .form 0 (.bind "memo.title"),
    .form 0 (.edit .memoTitle (.string "new"))]

theorem reachable_titleEdited : (desk.run titleEdited).ReachableVia OwnBinding :=
  (ReachableVia.fresh fresh_desk).run ⟨trivial, trivial, trivial, trivial⟩

/-- The title that was edited is checked, and need not be what is stored. -/
theorem fieldState_of_titleEdited :
    ∃ d, (desk.run titleEdited).session.schema.field? .memoTitle = some d ∧
      true = d.fieldType.validates (.string "new") ∧
      (true = false → .string "new" =
        ((desk.run titleEdited).session.store.fieldValue? .memoTitle).getD .null) := by
  have hstate : (desk.run titleEdited).session.forms.field? .memoTitle =
      some ⟨.string "new", true, true, true⟩ := by decide
  exact fieldState_of_reachable reachable_titleEdited hstate

end Panels
end PanelForms
