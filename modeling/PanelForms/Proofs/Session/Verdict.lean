import PanelForms.Proofs.Session.Submit

/-!
# The verdict on a commit

A form that asks for a commit is refused because it is attached to another session, because some
of its active fields are not valid, or because one of its models was replaced under an edit, in
this order; otherwise the commit goes through.  A refusal leaves no trace: the session is as it was
before, whichever operation was refused, and so are the bindings of the form.  None of this depends
on the state of the session, so the results hold for every session whatever has been done to it.

Main results:

- Definition `Form.Reachable`: the forms that can come about.
- Definitions `Form.ExactVerdict` and `Form.LeavesNoTrace`: which outcome a commit has and when,
  and what a refusal must not change.
- Theorems `Form.submitFault?_eq_invalid_iff` and `Form.submitFault?_eq_conflict_iff`: what the
  checks before a commit find.
- Theorem `Form.perform_of_refused`: an operation that is refused attaches the form at most.
- Theorem `Form.verdict_exact`: the verdict on a commit is exact, and refusals leave no trace.
-/

namespace PanelForms

/-- An active field that is not valid. -/
def Session.blocks (s : Session) (r : FieldRef) : Bool :=
  (s.forms.field? r).any fun state => state.active && !state.valid

namespace Form

/-- The bound fields that keep the form from being committed, in the order of binding. -/
def blockingFields (f : Form) (s : Session) : List FieldRef :=
  (f.fields.filter fun field => s.blocks field.ref).map (·.ref)

/-- A bound model has been replaced since the form was in step with it at the `expected` revision,
and the form has touched one of its fields. -/
def Overtaken (f : Form) (s : Session) (model : String) (expected : Revision) : Prop :=
  f.syncedRevision? model = some expected ∧ s.store.revision model ≠ expected ∧
    ∃ field ∈ f.fields, field.ref.model = model ∧ (s.edit? field.ref).isSome = true

/-- Which outcome a commit has, and exactly when. -/
structure ExactVerdict (f : Form) (s : Session)
    (outcome : Except FormError (List (String × Revision))) : Prop where
  /-- The form is attached to another session. -/
  foreign_iff : ∀ attached given, outcome = .error (.foreignSession attached given) ↔
    f.session = some attached ∧ attached ≠ s.id ∧ given = s.id
  /-- Otherwise some fields are active and not valid, and just these are listed. -/
  invalid_iff : ∀ refs, outcome = .error (.invalid refs) ↔
    f.BelongsTo s ∧ refs = f.blockingFields s ∧ refs ≠ []
  /-- Otherwise a model was replaced under an edit, and the first such model is named. -/
  conflict_iff : ∀ model expected found, outcome = .error (.conflict model expected found) ↔
    f.BelongsTo s ∧ f.blockingFields s = [] ∧ f.Overtaken s model expected ∧
      found = s.store.revision model ∧
        ∀ other revision, f.Overtaken s other revision → model ≤ other
  /-- Otherwise the commit goes through. -/
  ok_iff : (∃ committed, outcome = .ok committed) ↔
    f.BelongsTo s ∧ f.blockingFields s = [] ∧ ∀ model expected, ¬ f.Overtaken s model expected

/-- An operation leaves the session and the bindings of the form as they are, and a commit leaves
the attachment of the form as it is too. -/
structure LeavesNoTrace (f : Form) (s : Session) (op : FormOp) : Prop where
  session_kept : (f.perform s op).2 = s
  fields_kept : (f.perform s op).1.fields = f.fields
  index_kept : (f.perform s op).1.index = f.index
  revisions_kept : (f.perform s op).1.revisions = f.revisions
  form_kept : op = .submit → (f.perform s op).1 = f

section verdict

variable {f : Form} {s : Session}

/-! ## What the checks find -/

/-- The invalid fields are those that block. -/
theorem invalidFields_eq (f : Form) (s : Session) : f.invalidFields s = f.blockingFields s := by
  unfold invalidFields blockingFields boundStates
  induction f.fields with
  | nil => rfl
  | cons field rest ih =>
    cases hstate : s.forms.field? field.ref with
    | none => simpa [hstate, Session.blocks] using ih
    | some state =>
      cases hblocks : state.blocksSubmit with
      | true =>
        have hstop : s.blocks field.ref = true := by
          simpa [Session.blocks, hstate, FieldState.blocksSubmit] using hblocks
        simpa [hstate, hblocks, hstop] using ih
      | false =>
        have hpass : s.blocks field.ref = false := by
          simpa [Session.blocks, hstate, FieldState.blocksSubmit] using hblocks
        simpa [hstate, hblocks, hpass] using ih

/-- A recorded revision is in conflict exactly if the model was overtaken. -/
theorem conflictAt?_isSome_iff {model : String} {expected : Revision}
    (hsynced : f.syncedRevision? model = some expected) :
    (∃ e, f.conflictAt? s (model, expected) = some e) ↔ f.Overtaken s model expected := by
  simp only [conflictAt?_eq_some_iff, hasTouchedFields_iff, Overtaken, hsynced, true_and]
  constructor
  · rintro ⟨e, hne, htouched, -⟩
    exact ⟨hne, htouched⟩
  · rintro ⟨hne, htouched⟩
    exact ⟨_, hne, htouched, rfl⟩

/-- The models are checked in order of names, so the first conflict found is the least one. -/
theorem eq_conflict_of_findSome? {e : FormError}
    (hfound : f.revisions.entries.findSome? (f.conflictAt? s) = some e) :
    ∃ model expected, e = .conflict model expected (s.store.revision model) ∧
      f.Overtaken s model expected ∧
        ∀ other revision, f.Overtaken s other revision → model ≤ other := by
  obtain ⟨before, ⟨model, expected⟩, after, hentries, hconflict, hnone⟩ :=
    List.findSome?_eq_some_iff.1 hfound
  have hmem : (model, expected) ∈ f.revisions.entries := by simp [hentries]
  have hsynced : f.syncedRevision? model = some expected :=
    (Dict.get?_eq_some_iff f.revisions model expected).2 hmem
  refine ⟨model, expected, (conflictAt?_eq_some_iff.1 hconflict).2.2,
    (conflictAt?_isSome_iff hsynced).1 ⟨e, hconflict⟩, ?_⟩
  intro other revision hother
  have hin : (other, revision) ∈ f.revisions.entries :=
    (Dict.get?_eq_some_iff f.revisions other revision).1 hother.1
  have hascending := f.revisions.ascending
  rw [hentries] at hin hascending
  rcases List.mem_append.1 hin with hearlier | hlater
  · obtain ⟨e', he'⟩ := (conflictAt?_isSome_iff hother.1).2 hother
    rw [hnone _ hearlier] at he'
    cases he'
  · rcases List.mem_cons.1 hlater with hsame | hlater
    · cases hsame
      exact String.le_refl model
    · have hpairwise := (List.pairwise_append.1 hascending).2.1
      have hlt : model < other := (List.pairwise_cons.1 hpairwise).1 _ hlater
      exact String.not_lt.1 (String.lt_asymm hlt)

/-- The conflict that is found is that of the first overtaken model, by name. -/
theorem findSome?_eq_conflict_iff {model : String} {expected found : Revision} :
    f.revisions.entries.findSome? (f.conflictAt? s) = some (.conflict model expected found) ↔
      f.Overtaken s model expected ∧ found = s.store.revision model ∧
        ∀ other revision, f.Overtaken s other revision → model ≤ other := by
  constructor
  · intro hfound
    obtain ⟨_, _, heq, hovertaken, hleast⟩ := eq_conflict_of_findSome? hfound
    cases heq
    exact ⟨hovertaken, rfl, hleast⟩
  · rintro ⟨hovertaken, rfl, hleast⟩
    have hmem := (Dict.get?_eq_some_iff f.revisions model expected).1 hovertaken.1
    obtain ⟨e, he⟩ := (conflictAt?_isSome_iff hovertaken.1).2 hovertaken
    have hsome : (f.revisions.entries.findSome? (f.conflictAt? s)).isSome = true :=
      List.findSome?_isSome_iff.2 ⟨_, hmem, by simp [he]⟩
    obtain ⟨e', he'⟩ := Option.isSome_iff_exists.1 hsome
    obtain ⟨model', expected', rfl, hovertaken', hleast'⟩ := eq_conflict_of_findSome? he'
    have hmodel : model' = model :=
      String.le_antisymm (hleast' _ _ hovertaken) (hleast _ _ hovertaken')
    subst hmodel
    have hexpected : expected' = expected :=
      Option.some.inj (hovertaken'.1.symm.trans hovertaken.1)
    rw [he', hexpected]

/-- Invalid fields are found before any conflict is looked for. -/
theorem submitFault?_eq_invalid_iff {refs : List FieldRef} :
    f.submitFault? s = some (.invalid refs) ↔ refs = f.blockingFields s ∧ refs ≠ [] := by
  unfold submitFault?
  simp only [invalidFields_eq, List.isEmpty_iff]
  split
  next hvalid =>
    refine iff_of_false ?_ ?_
    · intro hfound
      obtain ⟨model, expected, heq, -⟩ := eq_conflict_of_findSome? hfound
      cases heq
    · rintro ⟨rfl, hne⟩
      exact hne hvalid
  next hinvalid =>
    constructor
    · rintro ⟨⟩
      exact ⟨rfl, hinvalid⟩
    · rintro ⟨rfl, -⟩
      rfl

/-- A commit meets a conflict exactly if no field blocks and a model was overtaken; the first one by
name is told. -/
theorem submitFault?_eq_conflict_iff {model : String} {expected found : Revision} :
    f.submitFault? s = some (.conflict model expected found) ↔
      f.blockingFields s = [] ∧ f.Overtaken s model expected ∧ found = s.store.revision model ∧
        ∀ other revision, f.Overtaken s other revision → model ≤ other := by
  unfold submitFault?
  simp only [invalidFields_eq, List.isEmpty_iff]
  split
  next hvalid => rw [findSome?_eq_conflict_iff, and_iff_right hvalid]
  next hinvalid => exact iff_of_false nofun fun h => hinvalid h.1

/-- Nothing speaks against a commit exactly if no field blocks and no model was overtaken. -/
theorem submitFault?_eq_none_iff_not_overtaken :
    f.submitFault? s = none ↔
      f.blockingFields s = [] ∧ ∀ model expected, ¬ f.Overtaken s model expected := by
  rw [submitFault?_eq_none_iff, invalidFields_eq]
  refine and_congr_right fun _ => ?_
  constructor
  · rintro hagree model expected ⟨hsynced, hne, htouched⟩
    exact hne (hagree model expected hsynced (hasTouchedFields_iff.2 htouched))
  · intro hnone model expected hsynced htouched
    refine Decidable.byContradiction fun hne => ?_
    exact hnone model expected ⟨hsynced, hne, hasTouchedFields_iff.1 htouched⟩

/-! ## The verdict -/

/-- A form of another session names both sessions. -/
theorem submit_of_not_belongsTo (h : ¬ f.BelongsTo s) :
    ∃ attached, f.session = some attached ∧ attached ≠ s.id ∧
      f.submit s = ⟨.error (.foreignSession attached s.id), f, s⟩ := by
  obtain ⟨session, fields, index, revisions⟩ := f
  cases session with
  | none => exact (h (Or.inl rfl)).elim
  | some attached =>
    have hne : attached ≠ s.id := fun he => h (Or.inr (congrArg some he))
    exact ⟨attached, rfl, hne, by simp [submit, attach, hne]⟩

/-- A form that belongs to a session is attached to no other. -/
theorem BelongsTo.eq_of_session {attached : SessionId} (h : f.BelongsTo s)
    (hsession : f.session = some attached) : attached = s.id := by
  rcases h with hnone | hsome
  · rw [hnone] at hsession
    cases hsession
  · exact Option.some.inj (hsession.symm.trans hsome)

/-- The verdict on a form of the session is exact. -/
theorem exactVerdict_of_belongsTo (h : f.BelongsTo s) : f.ExactVerdict s (f.submit s).outcome := by
  have herror : ∀ e, (f.submit s).outcome = .error e ↔ f.submitFault? s = some e := by
    intro e
    cases hfault : f.submitFault? s with
    | none => simp [submit_of_no_fault h hfault]
    | some e' => simp [submit_of_fault h hfault]
  refine { foreign_iff := ?_, invalid_iff := ?_, conflict_iff := ?_, ok_iff := ?_ }
  · intro attached given
    refine iff_of_false ?_ fun hforeign => hforeign.2.1 (h.eq_of_session hforeign.1)
    rw [herror]
    intro hfault
    rcases eq_invalid_or_conflict_of_fault hfault with ⟨_, he⟩ | ⟨_, _, _, he⟩ <;> cases he
  · intro refs
    rw [herror, submitFault?_eq_invalid_iff, and_iff_right h]
  · intro model expected found
    rw [herror, submitFault?_eq_conflict_iff, and_iff_right h]
  · simp only [submit_eq_ok_iff, h, true_and, exists_and_left, exists_eq, and_true]
    exact submitFault?_eq_none_iff_not_overtaken

/-- The verdict on a form of another session is that it is foreign. -/
theorem exactVerdict_of_not_belongsTo (h : ¬ f.BelongsTo s) :
    f.ExactVerdict s (f.submit s).outcome := by
  obtain ⟨other, hsession, hne, hsubmit⟩ := submit_of_not_belongsTo h
  rw [hsubmit]
  refine { foreign_iff := ?_, invalid_iff := ?_, conflict_iff := ?_, ok_iff := ?_ }
  · intro attached given
    constructor
    · rintro ⟨⟩
      exact ⟨hsession, hne, rfl⟩
    · rintro ⟨hsession', -, rfl⟩
      rw [Option.some.inj (hsession.symm.trans hsession')]
  · exact fun refs => iff_of_false nofun fun hb => h hb.1
  · exact fun model expected found => iff_of_false nofun fun hb => h hb.1
  · exact iff_of_false nofun fun hb => h hb.1

/-! ## Refusals -/

/-- A refused binding does no more than to attach the form. -/
theorem bindField_of_refused {field : ResolvedField} (hbelongs : f.BelongsTo s)
    (hrefused : (f.bindField s field).accepted = false) :
    (f.bindField s field).after = (f.attached s, s) := by
  have hattach := attach_of_belongsTo hbelongs
  cases hbound : f.isBound field.ref with
  | true => simp [bindField, hattach, hbound, FormStep.accepted, Except.toBool] at hrefused
  | false =>
    cases hknown : s.schema.models.contains field.ref.model with
    | true =>
      simp [bindField, hattach, hbound, hknown, FormStep.accepted, Except.toBool] at hrefused
    | false => simp [bindField, hattach, hbound, hknown, FormStep.after]

/-- An operation that is refused leaves the session as it is, and attaches the form at most. -/
theorem perform_of_refused {op : FormOp} (hrefused : f.accepts s op = false) :
    (f.perform s op).2 = s ∧ ((f.perform s op).1 = f ∨ (f.perform s op).1 = f.attached s) := by
  by_cases hbelongs : f.BelongsTo s
  · have hattach := attach_of_belongsTo hbelongs
    cases op with
    | bind text =>
      cases hresolve : s.schema.resolve text with
      | error e => simp [perform, bind, hresolve, FormStep.after]
      | ok field =>
        have hfield : (f.bindField s field).accepted = false := by
          revert hrefused
          simp only [accepts, bind, hresolve, FormStep.accepted]
          cases (f.bindField s field).outcome <;> exact id
        have hstep := f.perform_of_binds (binds?_bind hresolve)
        simp [hstep, bindField_of_refused hbelongs hfield]
    | bindField field => simp [perform, bindField_of_refused hbelongs hrefused]
    | edit r value =>
      cases hbound : f.bound r with
      | error e => simp [perform, edit, hattach, hbound, FormStep.after]
      | ok field =>
        simp [accepts, edit, hattach, hbound, FormStep.accepted, Except.toBool] at hrefused
    | setActive r active =>
      cases hbound : f.bound r with
      | error e => simp [perform, setActive, hattach, hbound, FormStep.after]
      | ok field =>
        cases hstate : s.forms.field? r with
        | none => simp [perform, setActive, hattach, hbound, hstate, FormStep.after]
        | some state =>
          simp [accepts, setActive, hattach, hbound, hstate, FormStep.accepted,
            Except.toBool] at hrefused
    | submit =>
      cases hfault : f.submitFault? s with
      | none =>
        simp [accepts, submit_of_no_fault hbelongs hfault, FormStep.accepted,
          Except.toBool] at hrefused
      | some e => simp [perform, submit_of_fault hbelongs hfault, FormStep.after]
    | cancel => simp [accepts, cancel, hattach, FormStep.accepted, Except.toBool] at hrefused
  · rw [(perform_of_not_belongsTo hbelongs op).2]
    exact ⟨rfl, Or.inl rfl⟩

/-- A form without fields is never refused for what it binds. -/
theorem submitFault?_of_no_fields (h : f.fields = []) : f.submitFault? s = none := by
  rw [submitFault?_eq_none_iff_not_overtaken]
  refine ⟨by simp [blockingFields, h], ?_⟩
  rintro model expected ⟨-, -, field, hfield, -⟩
  rw [h] at hfield
  cases hfield

end verdict

/-! ## Forms that can come about -/

/-- The form can come about: it has no bindings at first, and then operations are performed with
it, on any sessions in any state. -/
inductive Reachable : Form → Prop where
  | empty : Reachable .empty
  | perform {f : Form} (h : Reachable f) (s : Session) (op : FormOp) :
    Reachable (f.perform s op).1

/-- What a form that can come about is like before it is used again. -/
structure Rooted (f : Form) : Prop where
  consistent : f.Consistent
  /-- A form that is not attached yet binds nothing. -/
  unattached : f.session = none → f.fields = []

/-- A form that is still unattached was left alone. -/
theorem Effect.eq_of_unattached {f f' : Form} {s : Session} {op : FormOp} {changes : List Change}
    (he : f.Effect s op f' changes) (h : f'.session = none) : f' = f := by
  cases he with
  | refused hrefused hsame =>
    rcases hsame with rfl | ⟨-, rfl⟩
    · rfl
    · cases h
  | bound => simp [appendField, session_noteRevision, Form.attached] at h
  | rebound | edited | activated | committed | cancelled => cases h

/-- Reachable forms have bindings only together with a session. -/
theorem Reachable.rooted {f : Form} (h : f.Reachable) : f.Rooted := by
  induction h with
  | empty => exact ⟨consistent_empty, fun _ => rfl⟩
  | @perform f h s op ih =>
    obtain ⟨changes, he, -⟩ := perform_effect (fun _ => ih.consistent) op
    refine ⟨he.consistent ih.consistent, fun hnone => ?_⟩
    have hsame := he.eq_of_unattached hnone
    rw [hsame] at hnone ⊢
    exact ih.unattached hnone

/-- A commit that is refused leaves the form as it is, its attachment included: a form that is not
attached yet binds nothing, so that no check fails. -/
theorem Rooted.submit_of_refused {f : Form} {s : Session} (h : f.Rooted)
    (hrefused : f.accepts s .submit = false) : (f.perform s .submit).1 = f := by
  by_cases hbelongs : f.BelongsTo s
  · cases hfault : f.submitFault? s with
    | none =>
      simp [accepts, submit_of_no_fault hbelongs hfault, FormStep.accepted,
        Except.toBool] at hrefused
    | some e =>
      have hsession : f.session = some s.id := by
        refine hbelongs.resolve_left fun hnone => ?_
        rw [submitFault?_of_no_fields (h.unattached hnone)] at hfault
        cases hfault
      simp [perform, submit_of_fault hbelongs hfault, FormStep.after,
        attached_of_session hsession]
  · rw [(perform_of_not_belongsTo hbelongs .submit).2]

/-- The verdict on a commit is exact, and no operation that is refused leaves a trace. -/
theorem verdict_exact {f : Form} (hf : f.Reachable) (s : Session) :
    f.ExactVerdict s (f.submit s).outcome ∧
      ∀ op, f.accepts s op = false → f.LeavesNoTrace s op := by
  refine ⟨?_, ?_⟩
  · by_cases hbelongs : f.BelongsTo s
    · exact exactVerdict_of_belongsTo hbelongs
    · exact exactVerdict_of_not_belongsTo hbelongs
  · intro op hrefused
    obtain ⟨hsession, hform⟩ := perform_of_refused hrefused
    have hsubmit : op = .submit → (f.perform s op).1 = f := by
      rintro rfl
      exact hf.rooted.submit_of_refused hrefused
    rcases hform with hsame | hattached
    · exact ⟨hsession, by rw [hsame], by rw [hsame], by rw [hsame], hsubmit⟩
    · exact ⟨hsession, by rw [hattached]; rfl, by rw [hattached]; rfl, by rw [hattached]; rfl,
        hsubmit⟩

/-- A form that has edited the title of the memo, and the session after the edit. -/
def titleEditor : Form × Session :=
  let stored := (Session.new ⟨1⟩ .memo).replaceModel "memo" (.memo "old" "text")
  let bound := empty.perform stored (.bind "memo.title")
  bound.1.perform bound.2 (.edit .memoTitle (.string "new"))

theorem reachable_titleEditor : titleEditor.1.Reachable :=
  .perform (.perform .empty _ _) _ _

/-- The session after the memo has been replaced under the edit. -/
def replacedUnderEdit : Session :=
  titleEditor.2.replaceModel "memo" (.memo "newer" "text")

/-- The memo was replaced under the edit, so the commit meets a conflict and leaves no trace. -/
theorem verdict_exact_replacedUnderEdit :
    (titleEditor.1.submit replacedUnderEdit).outcome = .error (.conflict "memo" ⟨1⟩ ⟨2⟩) ∧
      titleEditor.1.ExactVerdict replacedUnderEdit
        (titleEditor.1.submit replacedUnderEdit).outcome ∧
      titleEditor.1.LeavesNoTrace replacedUnderEdit .submit := by
  have hverdict := verdict_exact reachable_titleEditor replacedUnderEdit
  exact ⟨rfl, hverdict.1, hverdict.2 .submit rfl⟩

end Form
end PanelForms
