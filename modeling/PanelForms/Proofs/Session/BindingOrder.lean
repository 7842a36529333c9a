import PanelForms.Proofs.Session.Verdict

/-!
# The order of bindings

The fields of a form may be bound in any order.  A text that does not resolve binds nothing, a
field that is bound already is not bound again, and two new fields are seeded independently of each
other.  They may belong to one model: its revision is that of the store, which no binding changes.
So two steps of binding commute up to the order of the fields in the form, and nothing depends on
that order but the list of the fields that are not valid.

Main definitions:

- `Form.bindTexts`: texts are bound one after another.
- `Form.SameBindings`: the bindings of two forms differ in their order at most.
- `Form.Interchangeable`: what is shown of two forms, and what a commit makes of them, is the same.

Main results:

- Theorem `Form.SameBindings.bindText`: the order of the bindings does not matter for the next one.
- Theorem `Form.bindText_comm`: two steps of binding commute.
- Theorem `Form.SameBindings.submit`: the order of the bindings does not matter for a commit.
- Theorem `Form.isBound_bindTexts`: which fields are bound afterwards.
- Theorem `Form.binding_order`: whatever texts are bound, their order does not matter.
-/

namespace PanelForms
namespace Form

/-- Bind the text of a reference; one that is refused is passed over. -/
def bindText (p : Form × Session) (text : String) : Form × Session :=
  p.1.perform p.2 (.bind text)

/-- Bind the texts of references one after another. -/
def bindTexts (f : Form) (s : Session) (texts : List String) : Form × Session :=
  texts.foldl bindText (f, s)

/-- The index and the revisions of two forms tell the truth about their fields, and the bindings
differ in their order at most. -/
structure SameBindings (f g : Form) : Prop where
  left : f.Consistent
  right : g.Consistent
  session_eq : f.session = g.session
  fields_perm : f.fields.Perm g.fields
  revisions_eq : f.revisions = g.revisions

/-- Two forms on one session, with bindings that differ in their order at most. -/
structure Alike (p q : Form × Session) : Prop where
  bindings : SameBindings p.1 q.1
  session_eq : p.2 = q.2

/-- Two outcomes of a commit are equal up to the order of the fields that are not valid. -/
inductive SameOutcome : Except FormError (List (String × Revision)) →
    Except FormError (List (String × Revision)) → Prop where
  | same (outcome : Except FormError (List (String × Revision))) : SameOutcome outcome outcome
  | invalid {refs refs' : List FieldRef} (h : refs.Perm refs') :
    SameOutcome (.error (.invalid refs)) (.error (.invalid refs'))

/-- Two forms on one session show the same, and a commit of either has the same outcome and the
same effect. -/
structure Interchangeable (p q : Form × Session) : Prop extends Alike p q where
  /-- A reference has the same binding in both, or none. -/
  bound_eq : ∀ r, p.1.bound r = q.1.bound r
  isDirty_eq : p.1.isDirty p.2 = q.1.isDirty q.2
  isValid_eq : p.1.isValid p.2 = q.1.isValid q.2
  outcome : SameOutcome (p.1.submit p.2).outcome (q.1.submit q.2).outcome
  /-- The forms and the session after a commit: what it writes and which revisions it leaves. -/
  committed : Alike (p.1.submit p.2).after (q.1.submit q.2).after

/-! ## One step -/

section bindText

variable {f : Form} {s : Session} {text : String}

/-- Binding keeps a form consistent, whatever the text. -/
theorem consistent_bindText (h : f.Consistent) (s : Session) (text : String) :
    (bindText (f, s) text).1.Consistent := by
  obtain ⟨changes, heffect, -⟩ := perform_effect (fun _ => h) (.bind text)
  exact heffect.consistent h

theorem schema_bindText (h : f.Consistent) (s : Session) (text : String) :
    (bindText (f, s) text).2.schema = s.schema := by
  obtain ⟨changes, -, hsession⟩ := perform_effect (s := s) (fun _ => h) (.bind text)
  rw [bindText, hsession, Session.schema_applyAll]

/-- Binding keeps whether the form belongs to the session. -/
theorem belongsTo_bindText (h : f.Consistent) (s : Session) (text : String) :
    (bindText (f, s) text).1.BelongsTo (bindText (f, s) text).2 ↔ f.BelongsTo s := by
  obtain ⟨changes, heffect, hsession⟩ := perform_effect (s := s) (fun _ => h) (.bind text)
  apply heffect.belongsTo_iff
  rw [bindText, hsession, Session.id_applyAll]

/-- A form of another session binds nothing. -/
theorem bindText_of_not_belongsTo (hbelongs : ¬ f.BelongsTo s) (text : String) :
    bindText (f, s) text = (f, s) :=
  (perform_of_not_belongsTo hbelongs _).2

/-- A text that names no field changes nothing. -/
theorem bindText_of_unresolved {e : ResolveError} (f : Form)
    (hresolve : s.schema.resolve text = .error e) : bindText (f, s) text = (f, s) := by
  simp [bindText, perform, bind, hresolve, FormStep.after]

/-- Binding a field again changes nothing but that the form is attached. -/
theorem bindText_of_bound {field : ResolvedField} (hbelongs : f.BelongsTo s)
    (hresolve : s.schema.resolve text = .ok field) (hbound : f.isBound field.ref = true) :
    bindText (f, s) text = (f.attached s, s) := by
  rw [bindText, perform_of_binds (binds?_bind hresolve)]
  simp [bindField, attach_of_belongsTo hbelongs, hbound, FormStep.after]

/-- Binding a new field adds it to the form and seeds it in the session. -/
theorem bindText_of_new {field : ResolvedField} (hbelongs : f.BelongsTo s)
    (hresolve : s.schema.resolve text = .ok field) (hnew : f.isBound field.ref = false) :
    bindText (f, s) text = (f.withField s field, seedField s field) := by
  have hknown : s.schema.models.contains field.ref.model = true :=
    Schema.contains_of_resolveRef (Schema.resolveRef_of_resolve hresolve)
  rw [bindText, perform_of_binds (binds?_bind hresolve)]
  simp [bindField, attach_of_belongsTo hbelongs, hnew, hknown, FormStep.after, withField]

/-- A text adds the field that it resolves to, if the form may be used with the session. -/
theorem isBound_bindText (h : f.Consistent) (s : Session) (text : String) (r : FieldRef) :
    (bindText (f, s) text).1.isBound r = true ↔
      f.isBound r = true ∨
        f.BelongsTo s ∧ ∃ field, s.schema.resolve text = .ok field ∧ field.ref = r := by
  by_cases hbelongs : f.BelongsTo s
  · cases hresolve : s.schema.resolve text with
    | error e => simp [bindText_of_unresolved f hresolve]
    | ok field =>
      simp only [hbelongs, true_and, Except.ok.injEq, exists_eq_left']
      cases hbound : f.isBound field.ref with
      | false =>
        rw [bindText_of_new hbelongs hresolve hbound]
        exact h.isBound_withField s hbound r
      | true =>
        rw [bindText_of_bound hbelongs hresolve hbound, isBound_attached]
        refine (or_iff_left_of_imp ?_).symm
        intro href
        rw [← href, hbound]
  · simp [bindText_of_not_belongsTo hbelongs, hbelongs]

/-- A text counts only for what it resolves to. -/
theorem bindText_congr {p : Form × Session} {text' : String}
    (h : p.2.schema.resolve text = p.2.schema.resolve text') :
    bindText p text = bindText p text' := by
  simp only [bindText, perform, bind, h]

end bindText

/-! ## Forms with the same bindings -/

section SameBindings

variable {f g : Form}

theorem SameBindings.refl (h : f.Consistent) : SameBindings f f :=
  ⟨h, h, rfl, .refl _, rfl⟩

theorem SameBindings.trans {f' : Form} (h : SameBindings f g) (h' : SameBindings g f') :
    SameBindings f f' :=
  ⟨h.left, h'.right, h.session_eq.trans h'.session_eq, h.fields_perm.trans h'.fields_perm,
    h.revisions_eq.trans h'.revisions_eq⟩

/-- Forms with the same bindings belong to the same session. -/
theorem SameBindings.belongsTo_iff (h : SameBindings f g) (s : Session) :
    f.BelongsTo s ↔ g.BelongsTo s := by
  rw [BelongsTo, BelongsTo, h.session_eq]

/-- Forms with the same bindings bind the same references. -/
theorem SameBindings.isBound_eq (h : SameBindings f g) (r : FieldRef) :
    f.isBound r = g.isBound r := by
  rw [Bool.eq_iff_iff, h.left.isBound_iff, h.right.isBound_iff]
  simp only [h.fields_perm.mem_iff]

/-- The only fault of looking up a field is that it is not bound. -/
theorem bound_eq_error {r : FieldRef} {e : FormError} (h : f.bound r = .error e) :
    e = .unboundField r := by
  unfold bound at h
  split at h
  · cases h
  · cases h
    rfl

/-- Two forms with the same bindings find the same field for a reference, or none. -/
theorem SameBindings.bound_eq (h : SameBindings f g) (r : FieldRef) : f.bound r = g.bound r := by
  have hiff : ∀ field, f.bound r = .ok field ↔ g.bound r = .ok field := by
    intro field
    rw [h.left.bound_eq_ok_iff, h.right.bound_eq_ok_iff, h.fields_perm.mem_iff]
  cases hf : f.bound r with
  | ok field => exact ((hiff field).1 hf).symm
  | error e =>
    cases hg : g.bound r with
    | ok field =>
      rw [(hiff field).2 hg] at hf
      cases hf
    | error e' => rw [bound_eq_error hf, bound_eq_error hg]

/-- Attaching keeps two forms with the same bindings so. -/
theorem SameBindings.attached (h : SameBindings f g) (s : Session) :
    SameBindings (f.attached s) (g.attached s) :=
  ⟨h.left.attached s, h.right.attached s, rfl, h.fields_perm, h.revisions_eq⟩

/-- Binding the same new field keeps two forms with the same bindings so. -/
theorem SameBindings.withField (h : SameBindings f g) (s : Session) {field : ResolvedField}
    (hnew : f.isBound field.ref = false) :
    SameBindings (f.withField s field) (g.withField s field) where
  left := h.left.withField s hnew
  right := h.right.withField s (h.isBound_eq field.ref ▸ hnew)
  session_eq := by rw [session_withField, session_withField]
  fields_perm := by
    rw [fields_withField, fields_withField]
    exact h.fields_perm.append_right [field]
  revisions_eq := by
    refine Dict.ext_get? fun model => ?_
    have hsynced : f.syncedRevision? model = g.syncedRevision? model :=
      congrArg (Dict.get? · model) h.revisions_eq
    refine (syncedRevision?_withField f s field model).trans ?_
    rw [hsynced]
    exact (syncedRevision?_withField g s field model).symm

/-- Equal forms on equal sessions are alike. -/
theorem Alike.of_eq {p q : Form × Session} (hp : p.1.Consistent) (h : p = q) : Alike p q := by
  subst h
  exact ⟨.refl hp, rfl⟩

theorem Alike.trans {p q r : Form × Session} (h : Alike p q) (h' : Alike q r) : Alike p r :=
  ⟨h.bindings.trans h'.bindings, h.session_eq.trans h'.session_eq⟩

/-- The order of the bindings does not matter for the next one. -/
theorem SameBindings.bindText (h : SameBindings f g) (s : Session) (text : String) :
    Alike (bindText (f, s) text) (bindText (g, s) text) := by
  by_cases hf : f.BelongsTo s
  · have hg : g.BelongsTo s := (h.belongsTo_iff s).1 hf
    cases hresolve : s.schema.resolve text with
    | error e =>
      rw [bindText_of_unresolved f hresolve, bindText_of_unresolved g hresolve]
      exact ⟨h, rfl⟩
    | ok field =>
      cases hbound : f.isBound field.ref with
      | true =>
        rw [bindText_of_bound hf hresolve hbound,
          bindText_of_bound hg hresolve (h.isBound_eq field.ref ▸ hbound)]
        exact ⟨h.attached s, rfl⟩
      | false =>
        rw [bindText_of_new hf hresolve hbound,
          bindText_of_new hg hresolve (h.isBound_eq field.ref ▸ hbound)]
        exact ⟨h.withField s hbound, rfl⟩
  · have hg : ¬ g.BelongsTo s := fun hg => hf ((h.belongsTo_iff s).2 hg)
    rw [bindText_of_not_belongsTo hf, bindText_of_not_belongsTo hg]
    exact ⟨h, rfl⟩

/-- Binding the same text keeps two forms alike. -/
theorem Alike.bindText {p q : Form × Session} (h : Alike p q) (text : String) :
    Alike (bindText p text) (bindText q text) := by
  obtain ⟨f, s⟩ := p
  obtain ⟨g, t⟩ := q
  obtain ⟨hbindings, hsession⟩ := h
  cases hsession
  exact hbindings.bindText s text

end SameBindings

/-! ## Two steps -/

section bindText_comm

variable {f : Form} {s : Session} {t u : String} {a b : ResolvedField}

/-- A text that names no field may be bound at any time. -/
theorem bindText_comm_of_unresolved {e : ResolveError} (h : f.Consistent)
    (ht : s.schema.resolve t = .error e) (u : String) :
    bindText (bindText (f, s) t) u = bindText (bindText (f, s) u) t := by
  have hlater : (bindText (f, s) u).2.schema.resolve t = .error e := by
    rw [schema_bindText h]
    exact ht
  rw [bindText_of_unresolved f ht]
  exact (bindText_of_unresolved _ hlater).symm

/-- Two texts that resolve alike may be bound in either order. -/
theorem bindText_comm_of_congr (h : f.Consistent)
    (htu : s.schema.resolve t = s.schema.resolve u) :
    bindText (bindText (f, s) t) u = bindText (bindText (f, s) u) t := by
  have hfirst : bindText (f, s) t = bindText (f, s) u := bindText_congr htu
  rw [hfirst]
  apply bindText_congr
  rw [schema_bindText h]
  exact htu.symm

/-- A field that is bound already stays bound, so its text attaches the form at most. -/
theorem bindText_comm_of_bound (h : f.Consistent) (hbelongs : f.BelongsTo s)
    (ht : s.schema.resolve t = .ok a) (hu : s.schema.resolve u = .ok b)
    (ha : f.isBound a.ref = true) :
    bindText (bindText (f, s) t) u = bindText (bindText (f, s) u) t := by
  have hattached : (f.attached s).BelongsTo s := Or.inr rfl
  rw [bindText_of_bound hbelongs ht ha]
  cases hb : f.isBound b.ref with
  | true =>
    rw [bindText_of_bound hbelongs hu hb, bindText_of_bound hattached hu hb,
      bindText_of_bound hattached ht ha]
  | false =>
    have hstays : (f.withField s b).isBound a.ref = true :=
      (h.isBound_withField s hb a.ref).2 (Or.inl ha)
    have ht' : (seedField s b).schema.resolve t = .ok a := by
      rw [schema_seedField]
      exact ht
    rw [bindText_of_new hbelongs hu hb, bindText_of_new hattached hu hb,
      bindText_of_bound (belongsTo_withField f s b) ht' hstays]
    rw [attached_withField]
    rfl

/-- Two new fields give the same bindings in either order: the revision of a model is that of the
store, whichever of them brings the model in. -/
theorem withField_comm (h : f.Consistent) (s : Session) (hne : a.ref ≠ b.ref)
    (ha : f.isBound a.ref = false) (hb : f.isBound b.ref = false) :
    SameBindings ((f.withField s a).withField s b) ((f.withField s b).withField s a) where
  left := (h.withField s ha).withField s (h.isBound_withField_of_ne s ha hne hb)
  right := (h.withField s hb).withField s (h.isBound_withField_of_ne s hb hne.symm ha)
  session_eq := by rw [session_withField, session_withField]
  fields_perm := by
    simp only [fields_withField, List.append_assoc]
    exact (List.Perm.swap b a []).append_left f.fields
  revisions_eq := by
    apply Dict.ext_get?
    intro model
    have hsynced : ((f.withField s a).withField s b).syncedRevision? model =
        ((f.withField s b).withField s a).syncedRevision? model := by
      simp only [syncedRevision?_withField, Option.or_assoc]
      by_cases hamodel : a.ref.model = model <;> by_cases hbmodel : b.ref.model = model <;>
        simp [hamodel, hbmodel]
    exact hsynced

/-- Two new fields may be bound in either order. -/
theorem bindText_comm_of_new (h : f.Consistent) (hbelongs : f.BelongsTo s)
    (ht : s.schema.resolve t = .ok a) (hu : s.schema.resolve u = .ok b) (hne : a.ref ≠ b.ref)
    (ha : f.isBound a.ref = false) (hb : f.isBound b.ref = false) :
    Alike (bindText (bindText (f, s) t) u) (bindText (bindText (f, s) u) t) := by
  have hb' := h.isBound_withField_of_ne s ha hne hb
  have ha' := h.isBound_withField_of_ne s hb hne.symm ha
  have hu' : (seedField s a).schema.resolve u = .ok b := by
    rw [schema_seedField]
    exact hu
  have ht' : (seedField s b).schema.resolve t = .ok a := by
    rw [schema_seedField]
    exact ht
  rw [bindText_of_new hbelongs ht ha, bindText_of_new hbelongs hu hb,
    bindText_of_new (belongsTo_withField f s a) hu' hb',
    bindText_of_new (belongsTo_withField f s b) ht' ha']
  rw [withField_seedField, withField_seedField]
  constructor
  case bindings => exact withField_comm h s hne ha hb
  case session_eq => exact seedField_comm hne s

/-- Two steps of binding commute. -/
theorem bindText_comm (h : f.Consistent) (s : Session) (t u : String) :
    Alike (bindText (bindText (f, s) t) u) (bindText (bindText (f, s) u) t) := by
  have hconsistent : (bindText (bindText (f, s) t) u).1.Consistent :=
    consistent_bindText (consistent_bindText h s t) _ u
  by_cases hbelongs : f.BelongsTo s
  · cases ht : s.schema.resolve t with
    | error e => exact .of_eq hconsistent (bindText_comm_of_unresolved h ht u)
    | ok a =>
      cases hu : s.schema.resolve u with
      | error e => exact .of_eq hconsistent (bindText_comm_of_unresolved h hu t).symm
      | ok b =>
        cases ha : f.isBound a.ref with
        | true => exact .of_eq hconsistent (bindText_comm_of_bound h hbelongs ht hu ha)
        | false =>
          cases hb : f.isBound b.ref with
          | true => exact .of_eq hconsistent (bindText_comm_of_bound h hbelongs hu ht hb).symm
          | false =>
            by_cases href : a.ref = b.ref
            · refine .of_eq hconsistent (bindText_comm_of_congr h ?_)
              rw [ht, hu, ← Schema.resolveRef_of_resolve ht, href, Schema.resolveRef_of_resolve hu]
            · exact bindText_comm_of_new h hbelongs ht hu href ha hb
  · have hsame : bindText (bindText (f, s) t) u = bindText (bindText (f, s) u) t := by
      rw [bindText_of_not_belongsTo hbelongs t, bindText_of_not_belongsTo hbelongs u,
        bindText_of_not_belongsTo hbelongs t]
    exact .of_eq hconsistent hsame

end bindText_comm

/-! ## A whole run -/

section run

/-- Binding the same texts keeps two forms alike. -/
theorem Alike.bindTexts {p q : Form × Session} (h : Alike p q) (texts : List String) :
    Alike (p.1.bindTexts p.2 texts) (q.1.bindTexts q.2 texts) := by
  induction texts generalizing p q with
  | nil => exact h
  | cons text rest ih => exact ih (h.bindText text)

/-- The texts may be bound in any order. -/
theorem alike_of_perm {texts texts' : List String} (h : texts.Perm texts') {f : Form}
    (hf : f.Consistent) (s : Session) : Alike (f.bindTexts s texts) (f.bindTexts s texts') := by
  induction h generalizing f s with
  | nil => exact .of_eq hf rfl
  | cons text _ ih => exact ih (consistent_bindText hf s text) _
  | swap t u rest => exact (bindText_comm hf s u t).bindTexts rest
  | trans _ _ ih ih' => exact (ih hf s).trans (ih' hf s)

/-- The fields bound after a run are those bound before and those that the texts resolve to. -/
theorem isBound_bindTexts {f : Form} (hf : f.Consistent) (s : Session) (texts : List String)
    (r : FieldRef) :
    (f.bindTexts s texts).1.isBound r = true ↔
      f.isBound r = true ∨ f.BelongsTo s ∧
        ∃ text ∈ texts, ∃ field, s.schema.resolve text = .ok field ∧ field.ref = r := by
  induction texts generalizing f s with
  | nil => simp [bindTexts]
  | cons text rest ih =>
    have hrest := ih (consistent_bindText hf s text) (bindText (f, s) text).2
    rw [isBound_bindText hf, belongsTo_bindText hf, schema_bindText hf] at hrest
    refine Iff.trans hrest ?_
    simp only [List.mem_cons, or_and_right, exists_or, exists_eq_left, and_or_left, or_assoc]

end run

/-! ## A commit afterwards -/

section commit

variable {f g : Form}

/-- Forms with the same bindings have the same states in some order. -/
theorem SameBindings.boundStates_perm (h : SameBindings f g) (s : Session) :
    (f.boundStates s).Perm (g.boundStates s) :=
  h.fields_perm.filterMap _

/-- Forms with the same bindings have the same invalid fields in some order. -/
theorem SameBindings.invalidFields_perm (h : SameBindings f g) (s : Session) :
    (f.invalidFields s).Perm (g.invalidFields s) :=
  ((h.boundStates_perm s).filter _).map _

/-- Forms with the same bindings are dirty together. -/
theorem SameBindings.isDirty_eq (h : SameBindings f g) (s : Session) :
    f.isDirty s = g.isDirty s :=
  (h.boundStates_perm s).any_eq

/-- Forms with the same bindings are valid together. -/
theorem SameBindings.isValid_eq (h : SameBindings f g) (s : Session) :
    f.isValid s = g.isValid s :=
  congrArg (!·) (h.boundStates_perm s).any_eq

/-- Forms with the same bindings meet the same conflict. -/
theorem SameBindings.conflictAt?_eq (h : SameBindings f g) (s : Session) :
    f.conflictAt? s = g.conflictAt? s := by
  ext bound
  have htouched : f.hasTouchedFields s bound.1 = g.hasTouchedFields s bound.1 :=
    (h.boundStates_perm s).any_eq
  simp only [conflictAt?, htouched]

/-- The checks before a commit find the same, but may list the fields that are not valid in
another order. -/
theorem SameBindings.submitFault? (h : SameBindings f g) (s : Session) :
    f.submitFault? s = g.submitFault? s ∨
      f.submitFault? s = some (.invalid (f.invalidFields s)) ∧
        g.submitFault? s = some (.invalid (g.invalidFields s)) := by
  have hempty : (f.invalidFields s).isEmpty = (g.invalidFields s).isEmpty :=
    (h.invalidFields_perm s).isEmpty_eq
  unfold Form.submitFault?
  cases hvalid : (f.invalidFields s).isEmpty with
  | true =>
    apply Or.inl
    simp [← hempty, hvalid, h.revisions_eq, h.conflictAt?_eq]
  | false =>
    apply Or.inr
    simp [← hempty, hvalid]

/-- A commit writes the same records: every field is written under its own name. -/
theorem SameBindings.pendingRecord_eq (h : SameBindings f g) (s : Session) (model : String) :
    f.pendingRecord s model = g.pendingRecord s model := by
  apply Dict.ext_get?
  intro name
  by_cases hbound : ∃ state, ((⟨model, name⟩ : FieldRef), state) ∈ f.boundStates s
  · obtain ⟨state, hf⟩ := hbound
    have hg := (h.boundStates_perm s).mem_iff.1 hf
    exact (get?_pendingRecord_of_bound hf).trans (get?_pendingRecord_of_bound hg).symm
  · have hf : ∀ state, ((⟨model, name⟩ : FieldRef), state) ∉ f.boundStates s :=
      fun state hmem => hbound ⟨state, hmem⟩
    have hg : ∀ state, ((⟨model, name⟩ : FieldRef), state) ∉ g.boundStates s :=
      fun state hmem => hf state ((h.boundStates_perm s).mem_iff.2 hmem)
    exact (get?_pendingRecord_of_unbound hf).trans (get?_pendingRecord_of_unbound hg).symm

/-- Forms with the same bindings would write the same records. -/
theorem SameBindings.pending_eq (h : SameBindings f g) (s : Session) :
    f.pending s = g.pending s := by
  simp only [pending, boundModels, h.revisions_eq, h.pendingRecord_eq]

/-- A commit keeps two forms with the same bindings so. -/
theorem SameBindings.committed (h : SameBindings f g) {s : Session} (hf : f.BelongsTo s)
    (hfault : f.submitFault? s = none) (hfault' : g.submitFault? s = none) :
    SameBindings (f.committed s) (g.committed s) where
  left := (Effect.committed hf hfault).consistent h.left
  right := (Effect.committed ((h.belongsTo_iff s).1 hf) hfault').consistent h.right
  session_eq := rfl
  fields_perm := h.fields_perm
  revisions_eq := by simp only [Form.committed, h.pending_eq]

/-- The order of the bindings does not matter for a commit. -/
theorem SameBindings.submit (h : SameBindings f g) (s : Session) :
    SameOutcome (f.submit s).outcome (g.submit s).outcome ∧
      Alike (f.submit s).after (g.submit s).after := by
  by_cases hf : f.BelongsTo s
  · have hg : g.BelongsTo s := (h.belongsTo_iff s).1 hf
    rcases h.submitFault? s with hsame | ⟨hinvalid, hinvalid'⟩
    · cases hfault : f.submitFault? s with
      | none =>
        have hfault' := hsame ▸ hfault
        rw [submit_of_no_fault hf hfault, submit_of_no_fault hg hfault', h.pending_eq]
        exact ⟨.same _, h.committed hf hfault hfault', rfl⟩
      | some e =>
        rw [submit_of_fault hf hfault, submit_of_fault hg (hsame ▸ hfault)]
        exact ⟨.same _, h.attached s, rfl⟩
    · rw [submit_of_fault hf hinvalid, submit_of_fault hg hinvalid']
      exact ⟨.invalid (h.invalidFields_perm s), h.attached s, rfl⟩
  · have hg : ¬ g.BelongsTo s := fun hg => hf ((h.belongsTo_iff s).2 hg)
    obtain ⟨attached, hsession, -, hsubmit⟩ := submit_of_not_belongsTo hf
    obtain ⟨attached', hsession', -, hsubmit'⟩ := submit_of_not_belongsTo hg
    have hattached : attached = attached' := by
      rw [h.session_eq, hsession'] at hsession
      exact (Option.some.inj hsession).symm
    rw [hsubmit, hsubmit', hattached]
    exact ⟨.same _, h, rfl⟩

/-- Forms that are alike answer alike, up to the order of the invalid fields. -/
theorem Alike.interchangeable {p q : Form × Session} (h : Alike p q) : Interchangeable p q := by
  obtain ⟨f, s⟩ := p
  obtain ⟨g, t⟩ := q
  obtain ⟨hbindings, hsession⟩ := h
  cases hsession
  obtain ⟨houtcome, hcommitted⟩ := hbindings.submit s
  constructor
  case toAlike => exact ⟨hbindings, rfl⟩
  case bound_eq => exact hbindings.bound_eq
  case isDirty_eq => exact hbindings.isDirty_eq s
  case isValid_eq => exact hbindings.isValid_eq s
  case outcome => exact houtcome
  case committed => exact hcommitted

end commit

/-- Whatever has been done with the form before and whatever the state of the session is, the order
in which fields are bound does not matter: the fields that the texts resolve to are added to those
that are bound already. -/
theorem binding_order {f : Form} (hf : f.Reachable) (s : Session) {texts texts' : List String}
    (h : texts.Perm texts') :
    Interchangeable (f.bindTexts s texts) (f.bindTexts s texts') ∧
      ∀ r, (f.bindTexts s texts).1.isBound r = true ↔
        f.isBound r = true ∨ f.BelongsTo s ∧
          ∃ text ∈ texts, ∃ field, s.schema.resolve text = .ok field ∧ field.ref = r := by
  have hconsistent : f.Consistent := hf.rooted.consistent
  exact ⟨(alike_of_perm h hconsistent s).interchangeable, isBound_bindTexts hconsistent s texts⟩

/-- The memo is stored with lists in place of its title and its body. -/
def garbledMemo : Session :=
  (Session.new ⟨1⟩ .memo).replaceModel "memo"
    (Dict.ofList [("body", .array []), ("title", .array [])])

/-- A form that binds both fields of the memo, one of them twice, and is asked for a reference
without a field in between. -/
def titleFirst : Form × Session :=
  empty.bindTexts garbledMemo ["memo.title", "memo", "memo.body", "memo.title"]

/-- The same with the body first. -/
def bodyFirst : Form × Session :=
  empty.bindTexts garbledMemo ["memo.body", "memo.title", "memo.title", "memo"]

/-- Both fields of the memo are invalid, and only the order in which they are told depends on that
of binding. -/
theorem binding_order_garbledMemo :
    (titleFirst.1.submit titleFirst.2).outcome =
        .error (.invalid [.memoTitle, ⟨"memo", "body"⟩]) ∧
      (bodyFirst.1.submit bodyFirst.2).outcome =
        .error (.invalid [⟨"memo", "body"⟩, .memoTitle]) ∧
      Interchangeable titleFirst bodyFirst ∧ titleFirst.1.isBound .memoTitle = true := by
  have horder : ["memo.title", "memo", "memo.body", "memo.title"].Perm
      ["memo.body", "memo.title", "memo.title", "memo"] := by decide
  obtain ⟨hsame, hbound⟩ := binding_order .empty garbledMemo horder
  refine ⟨rfl, rfl, hsame, (hbound .memoTitle).2 (Or.inr ⟨Or.inl rfl, "memo.title", ?_⟩)⟩
  exact ⟨List.mem_cons_self, _, rfl, rfl⟩

end Form
end PanelForms
