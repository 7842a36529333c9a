import PanelForms.Proofs.Session.Submit

/-!
# What becomes of an edit

All forms on a session share the editing states, but each remembers revisions of its own.  An
edit is kept until its model is committed or seeded anew, by whichever form; and a form that
commits it checks the revision that this form remembers, not the one at which the edit was made.
This module follows an edit through every run and says exactly when it is written, when it is
lost, and when it is written over a newer record.

Main results:

- Theorem `Panels.edit?_step`: an edit is lost only by a change that discards it.
- Theorem `Panels.edit_overtaken`: an edit is written by the commit that follows unless another form
  has committed its model; then it is lost, and the commit goes through without it.
- Theorem `Panels.not_every_edit_written`: a commit does go through without an accepted edit.
- Theorem `Panels.edit_committed_late`: whichever form commits an edit, the record is still the one
  that was edited exactly if that form bound the model in time.
- Theorem `Panels.not_every_edit_fresh`: an edit is written over a newer record.
-/

namespace PanelForms

/-- A step is accepted exactly if it has a result. -/
theorem FormStep.accepted_iff {α : Type} {step : FormStep α} :
    step.accepted = true ↔ ∃ a, step.outcome = .ok a := by
  unfold accepted
  cases step.outcome <;> simp [Except.toBool]

namespace Form

variable {f : Form} {s : Session}

/-- An edit is accepted exactly if the form may be used with the session and binds the field. -/
theorem accepts_edit_iff {r : FieldRef} {value : Json} :
    f.accepts s (.edit r value) = true ↔ f.BelongsTo s ∧ ∃ field, f.bound r = .ok field := by
  by_cases hbelongs : f.BelongsTo s
  · cases hbound : f.bound r <;>
      simp [accepts, edit, attach_of_belongsTo hbelongs, hbound, hbelongs, FormStep.accepted,
        Except.toBool]
  · simp [(perform_of_not_belongsTo hbelongs (.edit r value)).1, hbelongs]

/-- A commit is accepted exactly if the form belongs to the session and nothing speaks against
it. -/
theorem accepts_submit_iff :
    f.accepts s .submit = true ↔ f.BelongsTo s ∧ f.submitFault? s = none := by
  have hok : f.accepts s .submit = true ↔ ∃ committed, (f.submit s).outcome = .ok committed :=
    FormStep.accepted_iff
  rw [hok]
  simp only [submit_eq_ok_iff]
  constructor
  · rintro ⟨committed, hbelongs, hfault, -⟩
    exact ⟨hbelongs, hfault⟩
  · rintro ⟨hbelongs, hfault⟩
    exact ⟨_, hbelongs, hfault, rfl⟩

end Form

namespace Panels

/-! ## Kinds of steps -/

/-- The step is an edit of a field, and it is accepted. -/
def Edits (r : FieldRef) (p : Panels) : PanelOp → Prop
  | .form k (.edit other value) =>
    other = r ∧ (p.forms k).accepts p.session (.edit other value) = true
  | _ => False

/-- The step is a commit of a model, and it goes through. -/
def Commits (model : String) (p : Panels) : PanelOp → Prop
  | .form k .submit =>
    (p.forms k).accepts p.session .submit = true ∧ model ∈ (p.forms k).boundModels
  | _ => False

/-- The step leaves an edit of form `b` to its fate: nobody cancels, no forms are seeded, form `b`
neither commits nor edits the field again, and no other form that acts binds the field. -/
def SparesEdit (b : Nat) (r : FieldRef) (p : Panels) : PanelOp → Prop
  | .admin op => op ≠ .initializeForms
  | .form k op =>
    op ≠ .cancel ∧
      if k = b then op ≠ .submit ∧ ∀ value, op ≠ .edit r value
      else ((p.step (.form k op)).forms k).isBound r = false

/-- Some panels of a run, the first or the last ones included, are of a kind. -/
def Visits (Kind : Panels → Prop) : Panels → List PanelOp → Prop
  | p, [] => Kind p
  | p, op :: ops => Kind p ∨ Visits Kind (p.step op) ops

/-- A run visits the panels that it ends with. -/
theorem Visits.last {Kind : Panels → Prop} {p : Panels} {ops : List PanelOp}
    (h : Kind (p.run ops)) : Visits Kind p ops := by
  induction ops generalizing p with
  | nil => exact h
  | cons op ops ih => exact Or.inr (ih h)

section step

variable {p : Panels} {op : PanelOp} {r : FieldRef} {forms : Nat → Form} {changes : List Change}

/-- A change that edits a field comes from an accepted edit of it. -/
theorem Effect.edits (he : p.Effect op forms changes) (h : p.Sound) {c : Change}
    (hc : c ∈ changes) (hedited : c.edited? = some r) : p.Edits r op := by
  cases he with
  | @admin aop =>
    rw [aop.edited?_changes p.session c hc] at hedited
    cases hedited
  | @form k fop f _ he =>
    rcases he.mem_changes hc with ⟨field, -, -, rfl⟩ |
      ⟨other, value, field, rfl, hbelongs, hbound, rfl⟩ | ⟨other, active, rfl⟩ |
      ⟨model, record, rfl⟩ | ⟨model, rfl⟩
    · cases hedited
    · have hmem := ((h.fits k hbelongs).consistent.bound_eq_ok_iff other field).1 hbound
      have href : field.ref = r := Option.some.inj hedited
      exact ⟨hmem.2.symm.trans href, Form.accepts_edit_iff.2 ⟨hbelongs, field, hbound⟩⟩
    · cases hedited
    · cases hedited
    · cases hedited

/-- A step that does not edit a field keeps the edit that it holds, unless it makes a change that
discards the edits of its model. -/
theorem edit?_step (h : p.Own) (hown : p.OwnBinding op) (hnot : ¬ p.Edits r op)
    (he : p.Effect op (p.step op).forms changes)
    (hsession : (p.step op).session = p.session.applyAll changes) :
    (p.step op).session.edit? r =
      if ∃ c ∈ changes, c.discarded? = some r.model then none else p.session.edit? r := by
  rw [hsession]
  exact Session.edit?_applyAll h.coherent h.wellTyped (h.resolvedBy he hown)
    fun c hc hedited => hnot (he.edits h.toSound hc hedited)

/-- A form commits a model exactly if its commit is accepted and the model is bound. -/
theorem commits_form_iff {model : String} {k : Nat} {fop : FormOp} :
    p.Commits model (.form k fop) ↔
      fop = .submit ∧ (p.forms k).accepts p.session .submit = true ∧
        model ∈ (p.forms k).boundModels := by
  cases fop <;> simp [Commits]

/-- Where nobody cancels and no forms are seeded, commits alone discard edits. -/
theorem Effect.discards_iff (he : p.Effect op forms changes) {model : String} {b : Nat}
    (hspares : p.SparesEdit b r op) :
    (∃ c ∈ changes, c.discarded? = some model) ↔ p.Commits model op := by
  cases he with
  | @admin aop =>
    refine iff_of_false ?_ id
    rintro ⟨c, hc, hdiscarded⟩
    rw [aop.discarded?_changes p.session hspares c hc] at hdiscarded
    cases hdiscarded
  | @form k fop f _ he =>
    rw [commits_form_iff]
    cases he with
    | refused hrefused =>
      refine iff_of_false (by simp) ?_
      rintro ⟨rfl, haccepts, -⟩
      rw [hrefused] at haccepts
      cases haccepts
    | rebound hbelongs hbinds =>
      refine iff_of_false (by simp) ?_
      rintro ⟨rfl, -, -⟩
      cases hbinds
    | bound hbelongs hbinds =>
      refine iff_of_false (by simp [Change.discarded?]) ?_
      rintro ⟨rfl, -, -⟩
      cases hbinds
    | edited => exact iff_of_false (by simp [Change.discarded?]) (by simp)
    | activated => exact iff_of_false (by simp [Change.discarded?]) (by simp)
    | committed hbelongs hfault =>
      constructor
      · rintro ⟨c, hc, hdiscarded⟩
        obtain ⟨pending, hpending, rfl⟩ := List.mem_map.1 hc
        obtain ⟨name, hname, rfl⟩ := List.mem_map.1 hpending
        cases hdiscarded
        exact ⟨rfl, Form.accepts_submit_iff.2 ⟨hbelongs, hfault⟩, hname⟩
      · rintro ⟨-, -, hmodel⟩
        exact ⟨_, List.mem_map.2 ⟨_, Form.mem_pending hmodel p.session, rfl⟩, rfl⟩
    | cancelled => exact (hspares.1 rfl).elim

/-! ## What later steps keep -/

/-- Whether a form belongs to the session never changes. -/
theorem Sound.belongsTo_step (h : p.Sound) (op : PanelOp) (k : Nat) :
    ((p.step op).forms k).BelongsTo (p.step op).session ↔
      (p.forms k).BelongsTo p.session := by
  obtain ⟨changes, he, hsession⟩ := step_effect h op
  rw [hsession]
  exact he.belongsTo_iff k

/-- Form `k` belongs to the session and binds a field. -/
def Binds (p : Panels) (k : Nat) (r : FieldRef) : Prop :=
  (p.forms k).BelongsTo p.session ∧ (p.forms k).isBound r = true

/-- A field stays bound. -/
theorem Sound.binds_step (h : p.Sound) {k : Nat} (hbinds : p.Binds k r) (op : PanelOp) :
    (p.step op).Binds k r := by
  obtain ⟨hbelongs, hbound⟩ := hbinds
  refine ⟨(h.belongsTo_step op k).2 hbelongs, ?_⟩
  obtain ⟨changes, he, -⟩ := step_effect h op
  rcases he.forms_eq k with hsame | ⟨fop, -, heffect⟩
  · rw [hsame]
    exact hbound
  · exact heffect.isBound (h.fits k hbelongs).consistent hbound

/-- Sound panels stay sound over any run. -/
theorem Sound.run (h : p.Sound) (ops : List PanelOp) : (p.run ops).Sound := by
  induction ops generalizing p with
  | nil => exact h
  | cons op ops ih => exact ih (h.step op)

/-- A run keeps which forms belong to the session. -/
theorem Sound.belongsTo_run (h : p.Sound) (ops : List PanelOp) (k : Nat) :
    ((p.run ops).forms k).BelongsTo (p.run ops).session ↔ (p.forms k).BelongsTo p.session := by
  induction ops generalizing p with
  | nil => exact Iff.rfl
  | cons op ops ih => exact (ih (h.step op)).trans (h.belongsTo_step op k)

/-- What a form binds stays bound. -/
theorem Sound.binds_run (h : p.Sound) {k : Nat} (hbinds : p.Binds k r) (ops : List PanelOp) :
    (p.run ops).Binds k r := by
  induction ops generalizing p with
  | nil => exact hbinds
  | cons op ops ih => exact ih (h.step op) (h.binds_step hbinds op)

/-- Only a bound field can be edited. -/
theorem Sound.binds_of_accepts_edit (h : p.Sound) {k : Nat} {value : Json}
    (haccepts : (p.forms k).accepts p.session (.edit r value) = true) : p.Binds k r := by
  obtain ⟨hbelongs, hbound⟩ := Form.accepts_edit_iff.1 haccepts
  exact ⟨hbelongs, ((h.fits k hbelongs).consistent.isBound_iff_bound r).2 hbound⟩

/-- The panels right after form `k` was asked to edit a field. -/
def afterEdit (p : Panels) (k : Nat) (r : FieldRef) (value : Json) : Panels :=
  p.step (.form k (.edit r value))

/-- An accepted edit is held afterwards. -/
theorem edit?_afterEdit {k : Nat} {value : Json}
    (haccepts : (p.forms k).accepts p.session (.edit r value) = true) :
    (p.afterEdit k r value).session.edit? r = some value := by
  obtain ⟨hbelongs, field, hbound⟩ := Form.accepts_edit_iff.1 haccepts
  have hstep : (p.afterEdit k r value).session.forms.field? r =
      some (((p.session.forms.field? r).getD (.seeded none field.fieldType)).edited value
        field.fieldType) := by
    simp [afterEdit, Panels.step, Form.perform, Form.edit, FormStep.after,
      Form.attach_of_belongsTo hbelongs, hbound, FormState.field?_setField]
  rw [Session.edit?, hstep]
  rfl

/-- An edit writes no record. -/
theorem store_afterEdit (p : Panels) (k : Nat) (r : FieldRef) (value : Json) :
    (p.afterEdit k r value).session.store = p.session.store := by
  simp only [afterEdit, Panels.step, Form.perform, Form.edit, FormStep.after]
  split
  · rfl
  · split <;> rfl

end step

/-! ## An edit that another commit overtakes -/

section overtaken

variable {p : Panels} {b : Nat} {r : FieldRef}

/-- A step that leaves an edit to its fate is no edit of the field. -/
theorem not_edits_of_sparesEdit (h : p.Sound) {op : PanelOp} (hspares : p.SparesEdit b r op) :
    ¬ p.Edits r op := by
  intro hedits
  cases op with
  | admin op => exact hedits
  | form k fop =>
    cases fop with
    | edit other value =>
      obtain ⟨rfl, haccepts⟩ := hedits
      by_cases hk : k = b
      · have hnot := hspares.2
        rw [if_pos hk] at hnot
        exact hnot.2 value rfl
      · have hunbound := hspares.2
        rw [if_neg hk] at hunbound
        have hbinds := h.binds_step (h.binds_of_accepts_edit haccepts) (.form k (.edit other value))
        rw [hbinds.2] at hunbound
        cases hunbound
    | bind | bindField | setActive | submit | cancel => exact hedits

/-- The fate of an edit over a run: it is lost if its model is committed, and kept otherwise. -/
theorem edit?_run_of_spares (h : p.Own) {ops : List PanelOp}
    (hops : Along (fun q op => q.OwnBinding op ∧ q.SparesEdit b r op) p ops) :
    (Happens (Commits r.model) p ops → (p.run ops).session.edit? r = none) ∧
      (¬ Happens (Commits r.model) p ops →
        (p.run ops).session.edit? r = p.session.edit? r) := by
  -- The induction also has to know that an edit that is lost does not come back.
  suffices hall : (Happens (Commits r.model) p ops ∨ p.session.edit? r = none →
      (p.run ops).session.edit? r = none) ∧
      (¬ Happens (Commits r.model) p ops →
        (p.run ops).session.edit? r = p.session.edit? r) from
    ⟨fun hcommits => hall.1 (Or.inl hcommits), hall.2⟩
  induction ops generalizing p with
  | nil => exact ⟨fun hlost => hlost.elim False.elim id, fun _ => rfl⟩
  | cons op ops ih =>
    obtain ⟨⟨hown, hspares⟩, hrest⟩ := hops
    obtain ⟨changes, he, hsession⟩ := step_effect h.toSound op
    have hstep := edit?_step h hown (not_edits_of_sparesEdit h.toSound hspares) he hsession
    have hdiscards : (∃ c ∈ changes, c.discarded? = some r.model) ↔ p.Commits r.model op :=
      he.discards_iff hspares
    have hone := ih (h.step hown) hrest
    refine ⟨?_, ?_⟩
    · rintro ((hhead | hlater) | hnone)
      · refine hone.1 (Or.inr ?_)
        rw [hstep, if_pos (hdiscards.2 hhead)]
      · exact hone.1 (Or.inl hlater)
      · refine hone.1 (Or.inr ?_)
        rw [hstep, hnone, ite_self]
    · intro hnever
      rw [run_cons, hone.2 fun hlater => hnever (Or.inr hlater), hstep,
        if_neg fun hhead => hnever (Or.inl (hdiscards.1 hhead))]

/-- What has become of an edit when its form asks for a commit: it is held, and the commit writes
it, unless it was overtaken; then it is lost, and the commit goes through without it. -/
structure EditFate (p : Panels) (b : Nat) (r : FieldRef) (value : Json) (overtaken : Prop) :
    Prop where
  /-- An edit that was not overtaken is still held. -/
  held : ¬ overtaken → p.session.edit? r = some value
  /-- An edit that was overtaken has disappeared. -/
  lost : overtaken → p.session.edit? r = none
  /-- A commit that goes through writes an edit that was not overtaken. -/
  written : ∀ committed, ((p.forms b).submit p.session).outcome = .ok committed → ¬ overtaken →
    ((p.forms b).submit p.session).session.store.fieldValue? r = some value
  /-- A commit that goes through leaves the field as it reads if the edit was overtaken. -/
  passed_over : ∀ committed, ((p.forms b).submit p.session).outcome = .ok committed → overtaken →
    (((p.forms b).submit p.session).session.store.fieldValue? r).getD .null =
      (p.session.store.fieldValue? r).getD .null
  /-- A commit is refused for invalid fields or for a conflict only. -/
  refused : ∀ e, ((p.forms b).submit p.session).outcome = .error e →
    (∃ fields, e = .invalid fields) ∨
      ∃ model expected found, e = .conflict model expected found

/-- An accepted edit that is left to its fate is overtaken exactly if a form that does not bind the
field commits another field of its model. -/
theorem edit_overtaken {p : Panels} (hp : p.ReachableVia OwnBinding) {b : Nat} {r : FieldRef}
    {value : Json} (hedit : ((p.forms b).edit p.session r value).outcome = .ok ())
    {ops : List PanelOp}
    (hops : Along (fun q op => q.OwnBinding op ∧ q.SparesEdit b r op)
      (p.afterEdit b r value) ops) :
    EditFate ((p.afterEdit b r value).run ops) b r value
      (Happens (Commits r.model) (p.afterEdit b r value) ops) := by
  have haccepts : (p.forms b).accepts p.session (.edit r value) = true :=
    FormStep.accepted_iff.2 ⟨(), hedit⟩
  have hsound := (own_of_reachable hp).toSound
  have hedited : (p.afterEdit b r value).Own := (own_of_reachable hp).step trivial
  have hbinds := hedited.toSound.binds_run
    (hsound.binds_step (hsound.binds_of_accepts_edit haccepts) (.form b (.edit r value))) ops
  obtain ⟨hlost, hheld⟩ := edit?_run_of_spares hedited hops
  rw [edit?_afterEdit haccepts] at hheld
  have hend := hedited.toSound.run ops
  generalize (p.afterEdit b r value).run ops = q at hbinds hlost hheld hend ⊢
  generalize Happens (Commits r.model) (p.afterEdit b r value) ops = overtaken
    at hlost hheld ⊢
  have hfits := hend.fits b hbinds.1
  refine ⟨hheld, hlost, ?_, ?_, ?_⟩
  · intro committed hok hnot
    obtain ⟨hbelongs, hfault, -⟩ := Form.submit_eq_ok_iff.1 hok
    rw [Form.submit_of_no_fault hbelongs hfault]
    exact Form.fieldValue?_commitAll_of_edit hfits.consistent hbinds.2 (hheld hnot)
  · intro committed hok hovertaken
    obtain ⟨hbelongs, hfault, -⟩ := Form.submit_eq_ok_iff.1 hok
    rw [Form.submit_of_no_fault hbelongs hfault,
      Form.reads_commitAll hfits.consistent hend.coherent r, hlost hovertaken, ite_self]
    rfl
  · intro e herror
    exact Form.submit_error hbinds.1 herror

end overtaken

/-- The memo is stored, and two forms bind a field of it each. -/
def sideBySide : Panels :=
  desk.run [.admin (.replaceModel "memo" (.memo "old" "text")), .form 1 (.bind "memo.title"),
    .form 0 (.bind "memo.body")]

theorem reachable_sideBySide : sideBySide.ReachableVia OwnBinding :=
  (ReachableVia.fresh fresh_desk).run ⟨trivial, trivial, trivial, trivial⟩

/-- The other form commits the body of the memo, which leaves the edit of its title to its fate. -/
theorem spared_sideBySide :
    Along (fun q op => q.OwnBinding op ∧ q.SparesEdit 1 .memoTitle op)
      (sideBySide.afterEdit 1 .memoTitle (.string "new")) [.form 0 .submit] :=
  ⟨⟨trivial, nofun, rfl⟩, trivial⟩

/-- The edit meets its fate: the model was committed in between. -/
theorem edit_overtaken_sideBySide :
    EditFate ((sideBySide.afterEdit 1 .memoTitle (.string "new")).run [.form 0 .submit])
      1 .memoTitle (.string "new")
      (Happens (Commits "memo") (sideBySide.afterEdit 1 .memoTitle (.string "new"))
        [.form 0 .submit]) :=
  edit_overtaken reachable_sideBySide rfl spared_sideBySide

/-- A commit goes through without an edit that was accepted and left to its fate: the two forms
bind no field in common, and still the commit of one discards the edit of the other. -/
theorem not_every_edit_written :
    ¬ ∀ p : Panels, p.ReachableVia OwnBinding → ∀ b r value,
      ((p.forms b).edit p.session r value).outcome = .ok () → ∀ ops,
      Along (fun q op => q.OwnBinding op ∧ q.SparesEdit b r op)
        (p.afterEdit b r value) ops →
      ∀ q, q = (p.afterEdit b r value).run ops →
      ∀ committed, ((q.forms b).submit q.session).outcome = .ok committed →
        ((q.forms b).submit q.session).session.store.fieldValue? r = some value := by
  intro hall
  let overtaken : Panels :=
    (sideBySide.afterEdit 1 .memoTitle (.string "new")).run [.form 0 .submit]
  have hok : ((overtaken.forms 1).submit overtaken.session).outcome = .ok [("memo", ⟨3⟩)] := by
    rfl
  have hold : ((overtaken.forms 1).submit overtaken.session).session.store.fieldValue?
      .memoTitle = some (.string "old") := by
    rfl
  have hnew := hall sideBySide reachable_sideBySide 1 .memoTitle (.string "new") rfl
    [.form 0 .submit] spared_sideBySide overtaken rfl _ hok
  rw [hold] at hnew
  simp at hnew

/-! ## An edit that is committed late -/

section late

variable {p : Panels} {r : FieldRef} {ops : List PanelOp}

/-- Form `k` binds the model while it is at the revision. -/
def InTime (k : Nat) (model : String) (revision : Revision) (p : Panels) : Prop :=
  model ∈ (p.forms k).boundModels ∧ p.session.store.revision model = revision

/-- A step never sets a revision back. -/
theorem Sound.revision_le_step (h : p.Sound) (op : PanelOp) (model : String) :
    (p.session.store.revision model).number ≤
      ((p.step op).session.store.revision model).number := by
  obtain ⟨changes, he, hsession⟩ := step_effect h op
  rw [hsession]
  exact h.coherent.revision_le_applyAll (he.knownTo h) model

/-- A run never sets a revision back. -/
theorem Sound.revision_le_run (h : p.Sound) (ops : List PanelOp) (model : String) :
    (p.session.store.revision model).number ≤
      ((p.run ops).session.store.revision model).number := by
  induction ops generalizing p with
  | nil => exact Nat.le_refl _
  | cons op ops ih => exact Nat.le_trans (h.revision_le_step op model) (ih (h.step op))

/-- While an edit is held and not made again, every form keeps the revision that it remembers for
the model. -/
theorem kept_while_held (h : p.Own)
    (hops : Along (fun q op => q.OwnBinding op ∧ ¬ q.Edits r op) p ops) {value : Json}
    (hheld : (p.run ops).session.edit? r = some value) :
    p.session.edit? r = some value ∧
      ∀ k revision, (p.forms k).syncedRevision? r.model = some revision →
        ((p.run ops).forms k).syncedRevision? r.model = some revision := by
  induction ops generalizing p with
  | nil => exact ⟨hheld, fun k revision hsynced => hsynced⟩
  | cons op ops ih =>
    obtain ⟨⟨hown, hnot⟩, hrest⟩ := hops
    obtain ⟨hafter, hkept⟩ := ih (h.step hown) hrest hheld
    obtain ⟨changes, he, hsession⟩ := step_effect h.toSound op
    have hstep := edit?_step h hown hnot he hsession
    have hkeeps : ¬ ∃ c ∈ changes, c.discarded? = some r.model := by
      intro hdiscards
      rw [hafter, if_pos hdiscards] at hstep
      cases hstep
    rw [if_neg hkeeps] at hstep
    refine ⟨hstep.symm.trans hafter, fun k revision hsynced => hkept k revision ?_⟩
    rcases he.forms_eq k with hsame | ⟨fop, -, heffect⟩
    · rw [hsame]
      exact hsynced
    · exact heffect.syncedRevision?_of_bound hsynced
        fun c hc hdiscarded => hkeeps ⟨c, hc, hdiscarded⟩

/-- A form that bound the model in time remembers no later revision, so it does not commit an edit
that is still held at a later one. -/
theorem revision_le_of_visits (h : p.Own)
    (hops : Along (fun q op => q.OwnBinding op ∧ ¬ q.Edits r op) p ops) {value : Json}
    (hheld : (p.run ops).session.edit? r = some value) {k : Nat} {revision : Revision}
    (hbinds : (p.run ops).Binds k r)
    (hfault : ((p.run ops).forms k).submitFault? (p.run ops).session = none)
    (hvisits : Visits (InTime k r.model revision) p ops) :
    ((p.run ops).session.store.revision r.model).number ≤ revision.number := by
  induction ops generalizing p with
  | nil => exact Nat.le_of_eq (congrArg Revision.number hvisits.2)
  | cons op ops ih =>
    rcases hvisits with ⟨hmodel, hrevision⟩ | hlater
    · -- What the form remembers here it still remembers at the commit, where it is checked.
      rw [Form.boundModels, Dict.mem_names_iff] at hmodel
      obtain ⟨synced, hsynced⟩ := Dict.contains_eq_true_iff.1 hmodel
      have hbelongs := (h.toSound.belongsTo_run (op :: ops) k).1 hbinds.1
      have hle := (h.fits k hbelongs).synced_le r.model synced hsynced
      rw [hrevision] at hle
      have hfits := (h.toSound.run (op :: ops)).fits k hbinds.1
      have hkept := (kept_while_held h hops hheld).2 k synced hsynced
      rw [Form.revision_of_no_fault hfits.consistent hbinds.2 hheld hkept hfault]
      exact hle
    · exact ih (h.step hops.1.1) hops.2 hheld hbinds hfault hlater

/-- A form that commits an edit that is still held finds the record that was edited exactly if it
has bound the model while that record was there. -/
theorem revision_eq_iff_visits (h : p.Own)
    (hops : Along (fun q op => q.OwnBinding op ∧ ¬ q.Edits r op) p ops) {value : Json}
    (hheld : (p.run ops).session.edit? r = some value) {k : Nat}
    (hbinds : (p.run ops).Binds k r)
    (hfault : ((p.run ops).forms k).submitFault? (p.run ops).session = none) :
    (p.run ops).session.store.revision r.model = p.session.store.revision r.model ↔
      Visits (InTime k r.model (p.session.store.revision r.model)) p ops := by
  constructor
  · intro hfresh
    have hconsistent := ((h.toSound.run ops).fits k hbinds.1).consistent
    obtain ⟨field, hfield, href⟩ := (hconsistent.isBound_iff r).1 hbinds.2
    have hmodel := (hconsistent.mem_boundModels_iff r.model).2
      ⟨field, hfield, congrArg FieldRef.model href⟩
    exact Visits.last ⟨hmodel, hfresh⟩
  · intro hvisits
    have hle := revision_le_of_visits h hops hheld hbinds hfault hvisits
    have hge := h.toSound.revision_le_run ops r.model
    exact congrArg Revision.mk (Nat.le_antisymm hle hge)

/-- What a commit of form `k` makes of the last edit of a field, which was made at a revision of
its model and then `ops` were run from `p`. -/
structure LateCommit (p : Panels) (ops : List PanelOp) (k : Nat) (r : FieldRef) (value : Json)
    (revision : Revision) (after : Session) : Prop where
  /-- The edit is written if the form binds the field and the edit is still held. -/
  written : ((p.run ops).forms k).isBound r = true → ((p.run ops).session.edit? r).isSome →
    after.store.fieldValue? r = some value
  /-- Then the record is still the one that was edited exactly if the form has bound the model
  while it was. -/
  fresh_iff : ((p.run ops).forms k).isBound r = true → ((p.run ops).session.edit? r).isSome →
    ((p.run ops).session.store.revision r.model = revision ↔
      Visits (InTime k r.model revision) p ops)
  /-- Otherwise the field reads as before. -/
  passed_over : ((p.run ops).forms k).isBound r = false ∨ (p.run ops).session.edit? r = none →
    (after.store.fieldValue? r).getD .null =
      ((p.run ops).session.store.fieldValue? r).getD .null

/-- The commit of the last edit of a field, by whichever form: it overwrites a newer record exactly
if the form has bound the model only after the record was replaced. -/
theorem edit_committed_late {p : Panels} (hp : p.ReachableVia OwnBinding) {j k : Nat}
    {r : FieldRef} {value : Json}
    (hedit : ((p.forms j).edit p.session r value).outcome = .ok ()) {ops : List PanelOp}
    (hops : Along (fun q op => q.OwnBinding op ∧ ¬ q.Edits r op)
      (p.afterEdit j r value) ops)
    {q : Panels} (hq : q = (p.afterEdit j r value).run ops)
    {committed : List (String × Revision)}
    (hok : ((q.forms k).submit q.session).outcome = .ok committed) :
    LateCommit (p.afterEdit j r value) ops k r value
      (p.session.store.revision r.model) ((q.forms k).submit q.session).session := by
  subst hq
  have haccepts : (p.forms j).accepts p.session (.edit r value) = true :=
    FormStep.accepted_iff.2 ⟨(), hedit⟩
  have hedited : (p.afterEdit j r value).Own := (own_of_reachable hp).step trivial
  have hmade := edit?_afterEdit haccepts
  have hrevision : (p.afterEdit j r value).session.store.revision r.model =
      p.session.store.revision r.model := by rw [store_afterEdit]
  rw [← hrevision]
  generalize p.afterEdit j r value = edited at hops hok hedited hmade ⊢
  obtain ⟨hbelongs, hfault, -⟩ := Form.submit_eq_ok_iff.1 hok
  have hend := hedited.toSound.run ops
  have hconsistent := (hend.fits k hbelongs).consistent
  have hvalue : ((edited.run ops).session.edit? r).isSome →
      (edited.run ops).session.edit? r = some value := by
    intro hsome
    obtain ⟨held, hheld⟩ := Option.isSome_iff_exists.1 hsome
    have hsame := (kept_while_held hedited hops hheld).1
    rw [hmade] at hsame
    rw [hheld, ← hsame]
  rw [Form.submit_of_no_fault hbelongs hfault]
  refine ⟨?_, ?_, ?_⟩
  · intro hbound hsome
    exact Form.fieldValue?_commitAll_of_edit hconsistent hbound (hvalue hsome)
  · intro hbound hsome
    exact revision_eq_iff_visits hedited hops (hvalue hsome) ⟨hbelongs, hbound⟩ hfault
  · rintro (hunbound | hnone)
    · rw [Form.reads_commitAll hconsistent hend.coherent r, hunbound]
      rfl
    · rw [Form.reads_commitAll hconsistent hend.coherent r, hnone, ite_self]
      rfl

end late

/-- The memo is stored, and a form binds its title. -/
def alone : Panels :=
  desk.run [.admin (.replaceModel "memo" (.memo "old" "text")), .form 0 (.bind "memo.title")]

theorem reachable_alone : alone.ReachableVia OwnBinding :=
  (ReachableVia.fresh fresh_desk).run ⟨trivial, trivial, trivial⟩

/-- The memo is replaced under the edit, and then another form binds the title too. -/
def replacedThenBound : List PanelOp :=
  [.admin (.replaceModel "memo" (.memo "newer" "text")), .form 1 (.bind "memo.title")]

theorem spared_replacedThenBound :
    Along (fun q op => q.OwnBinding op ∧ ¬ q.Edits .memoTitle op)
      (alone.afterEdit 0 .memoTitle (.string "stale")) replacedThenBound :=
  ⟨⟨trivial, id⟩, ⟨trivial, id⟩, trivial⟩

/-- The panels when the other form asks for a commit. -/
def boundLate : Panels :=
  (alone.afterEdit 0 .memoTitle (.string "stale")).run replacedThenBound

/-- The commit of the other form is accepted. -/
theorem submit_boundLate :
    ((boundLate.forms 1).submit boundLate.session).outcome = .ok [("memo", ⟨3⟩)] := by
  rfl

/-- The edit that was made before the replacement is what the late form commits. -/
theorem edit_committed_late_boundLate :
    LateCommit (alone.afterEdit 0 .memoTitle (.string "stale")) replacedThenBound 1
      .memoTitle (.string "stale") (alone.session.store.revision "memo")
      ((boundLate.forms 1).submit boundLate.session).session :=
  edit_committed_late reachable_alone rfl spared_replacedThenBound rfl submit_boundLate

/-- A stale edit is written over a newer record by a form that has bound the field since. -/
theorem not_every_edit_fresh :
    ¬ ∀ p : Panels, p.ReachableVia OwnBinding → ∀ j r value,
      ((p.forms j).edit p.session r value).outcome = .ok () → ∀ ops,
      Along (fun q op => q.OwnBinding op ∧ ¬ q.Edits r op)
        (p.afterEdit j r value) ops →
      ∀ q, q = (p.afterEdit j r value).run ops →
      ∀ k committed, ((q.forms k).submit q.session).outcome = .ok committed →
        (q.forms k).isBound r = true → (q.session.edit? r).isSome →
          q.session.store.revision r.model = p.session.store.revision r.model := by
  intro hall
  have hbound : (boundLate.forms 1).isBound .memoTitle = true := by rfl
  have hheld : (boundLate.session.edit? .memoTitle).isSome = true := by rfl
  have hfresh := hall alone reachable_alone 0 .memoTitle (.string "stale") rfl replacedThenBound
    spared_replacedThenBound boundLate rfl 1 _ submit_boundLate hbound hheld
  revert hfresh
  decide

end Panels
end PanelForms
