import PanelForms.Proofs.Session.BoundStates
import PanelForms.Proofs.Session.Reload
import PanelForms.Proofs.Session.Sendable

/-!
# Commits of a form that is not dirty

A form is dirty if one of its active fields has been touched, but a commit writes all bound fields,
whatever their state.  So a form that is not dirty may still write: an edit in a field that was
taken out of the form, and null for a field that has no value yet, which can make a record of its
own.  This module shows that it writes nothing else.

Main results:

- Definition `Form.CommitsUnseen`: what a commit of a form that is not dirty does to the records.
- Theorem `Form.state_of_not_dirty`: a bound field of such a form follows its record or hides an
  edit.
- Theorem `Form.records_eq_iff_reads`: all records are kept if every field keeps its value.
- Theorem `Panels.submit_of_not_dirty`: a commit of such a form writes hidden edits and nulls only.
- Theorem `Panels.not_every_clean_commit_silent`: each of the two is written by some form.
-/

namespace PanelForms
namespace Form

variable {f : Form} {s t : Session}

/-- What a commit of a form that is not dirty does to the records, from the session before it to
the session after it. -/
structure CommitsUnseen (f : Form) (s t : Session) : Prop where
  /-- A hidden edit is written. -/
  hidden_written : ∀ r v, f.HidesEdit s r v → t.store.fieldValue? r = some v
  /-- Every other bound field keeps its value, and has null if it had none. -/
  bound_kept : ∀ r, f.isBound r = true → (∀ v, ¬ f.HidesEdit s r v) →
    t.store.fieldValue? r = some ((s.store.fieldValue? r).getD .null)
  /-- A field that is not bound keeps its value, or has still none. -/
  unbound_kept : ∀ r, f.isBound r = false → t.store.fieldValue? r = s.store.fieldValue? r
  /-- There are records for the same models, and for the bound ones. -/
  models_stored : ∀ model, t.store.contains model = true ↔
    s.store.contains model = true ∨ model ∈ f.boundModels
  /-- Nothing changes exactly if every bound field has a value, which is that of any hidden edit. -/
  records_eq_iff : t.records = s.records ↔ ∀ r, f.isBound r = true →
    ∃ v, s.store.fieldValue? r = some v ∧ ∀ edit, f.HidesEdit s r edit → edit = v

/-! ## The fields of a form that is not dirty -/

/-- A bound field of a form that is not dirty has been hidden with an edit in it, or it shows its
canonical value. -/
theorem state_of_not_dirty (hcoherent : s.Coherent) (h : f.Consistent)
    (hclean : f.isDirty s = false) {r : FieldRef} {state : FieldState}
    (hbound : f.isBound r = true) (hstate : s.forms.field? r = some state) :
    f.HidesEdit s r state.value ∨ state.value = (s.store.fieldValue? r).getD .null := by
  cases htouched : state.touched with
  | false => exact Or.inr (hcoherent.follows r state hstate htouched)
  | true =>
    have hhidden : state.active = false := by
      refine Bool.of_not_eq_true fun hactive => ?_
      obtain ⟨field, hfield, rfl⟩ := (h.isBound_iff r).1 hbound
      rw [isDirty_iff.2 ⟨field, hfield, state, hstate, hactive, htouched⟩] at hclean
      cases hclean
    exact Or.inl ⟨hbound, state, hstate, hhidden, htouched, rfl⟩

/-- A field hides one edit at most. -/
theorem HidesEdit.unique {r : FieldRef} {v w : Json} (hv : f.HidesEdit s r v)
    (hw : f.HidesEdit s r w) : v = w := by
  obtain ⟨-, state, hstate, -, -, rfl⟩ := hv
  obtain ⟨-, state', hstate', -, -, rfl⟩ := hw
  rw [Option.some.inj (hstate.symm.trans hstate')]

/-! ## Records and their fields -/

/-- The value of a field is found in the record of its model. -/
theorem fieldValue?_of_record? {store : ModelStore} {model : String} {record : ModelRecord}
    (h : store.record? model = some record) (name : String) :
    store.fieldValue? ⟨model, name⟩ = record.get? name := by
  simp [ModelStore.fieldValue?, h]

/-- If the same models are stored and every field keeps its value, all records are kept. -/
theorem records_eq_iff_reads
    (hmodels : ∀ model, t.store.contains model = true ↔ s.store.contains model = true) :
    t.records = s.records ↔ ∀ r, t.store.fieldValue? r = s.store.fieldValue? r := by
  constructor
  · intro hrecords r
    have hrecord : t.store.record? r.model = s.store.record? r.model := by
      rw [← Session.get?_records, ← Session.get?_records, hrecords]
    rw [ModelStore.fieldValue?, ModelStore.fieldValue?, hrecord]
  · intro hreads
    refine Dict.ext_get? fun model => ?_
    rw [Session.get?_records, Session.get?_records]
    have hstored := hmodels model
    rw [Session.contains_eq_isSome_record?, Session.contains_eq_isSome_record?] at hstored
    cases ht : t.store.record? model with
    | none =>
      cases hs : s.store.record? model with
      | none => rfl
      | some record => simp [ht, hs] at hstored
    | some record =>
      cases hs : s.store.record? model with
      | none => simp [ht, hs] at hstored
      | some record' =>
        congr 1
        refine Dict.ext_get? fun name => ?_
        rw [← fieldValue?_of_record? ht, ← fieldValue?_of_record? hs]
        exact hreads ⟨model, name⟩

/-! ## The commit -/

/-- A commit stores the bound models and keeps the others. -/
theorem contains_commitAll_iff {model : String} :
    (commitAll s (f.pending s)).2.store.contains model = true ↔
      s.store.contains model = true ∨ model ∈ f.boundModels := by
  by_cases hmodel : model ∈ f.boundModels
  · refine iff_of_true ?_ (Or.inr hmodel)
    rw [Session.contains_eq_isSome_record?, record?_commitAll_pending hmodel]
    rfl
  · have hsame := get?_models_commitAll_of_notMem (s := s) (notMem_pending hmodel s)
    simp [ModelStore.contains, Dict.contains, hsame, hmodel]

/-- A form that is not dirty commits hidden edits, and null for missing values, and nothing else. -/
theorem commitsUnseen_commitAll (h : f.Fits s) (hcoherent : s.Coherent)
    (hstates : ∀ field ∈ f.fields, s.HasState field.ref) (hclean : f.isDirty s = false) :
    f.CommitsUnseen s (commitAll s (f.pending s)).2 := by
  have hexact := commitsExactly_commitAll h hcoherent
  have hstate : ∀ r, f.isBound r = true → s.HasState r := by
    intro r hbound
    obtain ⟨field, hfield, rfl⟩ := (h.consistent.isBound_iff r).1 hbound
    exact hstates field hfield
  have hhidden : ∀ r v, f.HidesEdit s r v →
      (commitAll s (f.pending s)).2.store.fieldValue? r = some v := by
    rintro r v ⟨hbound, state, hfound, -, -, rfl⟩
    exact fieldValue?_commitAll_of_bound h.consistent hbound hfound
  have hkept : ∀ r, f.isBound r = true → (∀ v, ¬ f.HidesEdit s r v) →
      (commitAll s (f.pending s)).2.store.fieldValue? r =
        some ((s.store.fieldValue? r).getD .null) := by
    intro r hbound hnone
    obtain ⟨state, hfound⟩ := hstate r hbound
    have hvalue := (state_of_not_dirty hcoherent h.consistent hclean hbound hfound).resolve_left
      (hnone state.value)
    rw [fieldValue?_commitAll_of_bound h.consistent hbound hfound, hvalue]
  refine ⟨hhidden, hkept, hexact.unbound_kept, fun _ => contains_commitAll_iff, ?_⟩
  constructor
  · intro hrecords r hbound
    have hmodels : ∀ model, (commitAll s (f.pending s)).2.store.contains model = true ↔
        s.store.contains model = true := by
      intro model
      simp only [Session.contains_eq_isSome_record?, ← Session.get?_records, hrecords]
    have hreads := (records_eq_iff_reads hmodels).1 hrecords r
    by_cases hsome : ∃ v, f.HidesEdit s r v
    · obtain ⟨v, hv⟩ := hsome
      exact ⟨v, hreads.symm.trans (hhidden r v hv), fun edit hedit => hedit.unique hv⟩
    · have hnone := not_exists.1 hsome
      exact ⟨_, hreads.symm.trans (hkept r hbound hnone), fun edit hedit => (hnone edit hedit).elim⟩
  · intro hcomplete
    refine (records_eq_iff_reads fun model => ?_).2 fun r => ?_
    · rw [contains_commitAll_iff, or_iff_left_iff_imp]
      intro hmodel
      obtain ⟨field, hfield, rfl⟩ := (h.consistent.mem_boundModels_iff model).1 hmodel
      obtain ⟨v, hv, -⟩ := hcomplete _ ((h.consistent.isBound_iff _).2 ⟨field, hfield, rfl⟩)
      obtain ⟨record, hrecord, -⟩ := Option.bind_eq_some_iff.1 hv
      rw [Session.contains_eq_isSome_record?, hrecord]
      rfl
    · cases hbound : f.isBound r with
      | false => exact hexact.unbound_kept r hbound
      | true =>
        obtain ⟨v, hv, hsame⟩ := hcomplete r hbound
        by_cases hsome : ∃ edit, f.HidesEdit s r edit
        · obtain ⟨edit, hedit⟩ := hsome
          rw [hhidden r edit hedit, hsame edit hedit, hv]
        · rw [hkept r hbound (not_exists.1 hsome), hv]
          rfl

end Form

namespace Panels

/-- Whatever has been done with the panels before, a form that is not dirty commits hidden edits,
and null for missing values, and nothing else. -/
theorem submit_of_not_dirty {p : Panels} (hp : p.ReachableVia OwnBinding) {k : Nat}
    (hclean : (p.forms k).isDirty p.session = false) {committed : List (String × Revision)}
    (hok : ((p.forms k).submit p.session).outcome = .ok committed) :
    (p.forms k).CommitsUnseen p.session ((p.forms k).submit p.session).session := by
  obtain ⟨hbelongs, hfault, -⟩ := Form.submit_eq_ok_iff.1 hok
  have hown := own_of_reachable hp
  rw [Form.submit_of_no_fault hbelongs hfault]
  exact Form.commitsUnseen_commitAll (hown.fits k hbelongs) hown.coherent
    (hasState_of_reachable hp hbelongs) hclean

/-! ## Two forms that write unseen -/

/-- The memo is not stored, and a form has bound its title. -/
def titleMissing : Panels :=
  desk.run [.form 0 (.bind "memo.title")]

theorem reachable_titleMissing : titleMissing.ReachableVia OwnBinding :=
  (ReachableVia.fresh fresh_desk).run ⟨trivial, trivial⟩

/-- The commit is accepted and stores the memo for the first time. -/
theorem submit_titleMissing :
    ((titleMissing.forms 0).submit titleMissing.session).outcome = .ok [("memo", ⟨1⟩)] := by
  rfl

/-- The commit of the form, which is not dirty, is one that goes unseen. -/
theorem submit_of_not_dirty_titleMissing :
    (titleMissing.forms 0).CommitsUnseen titleMissing.session
      ((titleMissing.forms 0).submit titleMissing.session).session :=
  submit_of_not_dirty reachable_titleMissing rfl submit_titleMissing

/-- The memo is stored, and a form has hidden its title and then edited it. -/
def titleHidden : Panels :=
  desk.run [.admin (.replaceModel "memo" (.memo "old" "text")), .form 0 (.bind "memo.title"),
    .form 0 (.setActive .memoTitle false), .form 0 (.edit .memoTitle (.string "new"))]

theorem reachable_titleHidden : titleHidden.ReachableVia OwnBinding :=
  (ReachableVia.fresh fresh_desk).run ⟨trivial, trivial, trivial, trivial, trivial⟩

/-- The commit is accepted and writes the memo anew. -/
theorem submit_titleHidden :
    ((titleHidden.forms 0).submit titleHidden.session).outcome = .ok [("memo", ⟨2⟩)] := by
  rfl

/-- A form with the title as its only field binds the title only. -/
theorem eq_memoTitle_of_isBound {p : Panels} (hp : p.ReachableVia OwnBinding)
    (hbelongs : (p.forms 0).BelongsTo p.session)
    (hfields : (p.forms 0).fields.map (·.ref) = [.memoTitle]) {r : FieldRef}
    (hbound : (p.forms 0).isBound r = true) : r = .memoTitle := by
  have hconsistent := ((own_of_reachable hp).fits 0 hbelongs).consistent
  obtain ⟨field, hfield, rfl⟩ := (hconsistent.isBound_iff r).1 hbound
  have hmem : field.ref ∈ (p.forms 0).fields.map (·.ref) := List.mem_map_of_mem hfield
  rw [hfields] at hmem
  exact List.mem_singleton.1 hmem

/-- Forms of a kind that are not dirty keep all records when they commit. -/
def CommitSilently (Kind : Form → Session → Prop) : Prop :=
  ∀ p : Panels, p.ReachableVia OwnBinding → ∀ k, Kind (p.forms k) p.session →
    (p.forms k).isDirty p.session = false → ∀ committed,
      ((p.forms k).submit p.session).outcome = .ok committed →
        ((p.forms k).submit p.session).session.records = p.session.records

/-- A form that is not dirty may write: null for a value that is missing, even if it hides no edit,
and a hidden edit, even if no value is missing. -/
theorem not_every_clean_commit_silent :
    ¬ CommitSilently (fun _ _ => True) ∧
      ¬ CommitSilently (fun f s => ∀ r v, ¬ f.HidesEdit s r v) ∧
      ¬ CommitSilently (fun f s => ∀ r, f.isBound r = true →
        ∃ v, s.store.fieldValue? r = some v) := by
  have hmissing : ¬ CommitSilently (fun f s => ∀ r v, ¬ f.HidesEdit s r v) := by
    intro hall
    have hunhidden : ∀ r v, ¬ (titleMissing.forms 0).HidesEdit titleMissing.session r v := by
      rintro r v ⟨hbound, state, hstate, -, htouched, -⟩
      obtain rfl := eq_memoTitle_of_isBound reachable_titleMissing (Or.inr rfl) rfl hbound
      have hseeded : titleMissing.session.forms.field? .memoTitle =
          some ⟨.null, true, false, true⟩ := rfl
      rw [hseeded] at hstate
      cases hstate
      cases htouched
    have hrecords := hall titleMissing reachable_titleMissing 0 hunhidden rfl _ submit_titleMissing
    have hstored : true = false := congrArg (fun d : Dict ModelRecord => d.contains "memo") hrecords
    cases hstored
  have hhidden : ¬ CommitSilently (fun f s => ∀ r, f.isBound r = true →
      ∃ v, s.store.fieldValue? r = some v) := by
    intro hall
    have hcomplete : ∀ r, (titleHidden.forms 0).isBound r = true →
        ∃ v, titleHidden.session.store.fieldValue? r = some v := by
      intro r hbound
      obtain rfl := eq_memoTitle_of_isBound reachable_titleHidden (Or.inr rfl) rfl hbound
      exact ⟨.string "old", rfl⟩
    have hrecords := hall titleHidden reachable_titleHidden 0 hcomplete rfl _ submit_titleHidden
    have htitle : some (Json.string "new") = some (.string "old") :=
      congrArg (fun d : Dict ModelRecord => (d.get? "memo").bind (·.get? "title")) hrecords
    simp at htitle
  exact ⟨fun hall => hmissing fun p hp k _ => hall p hp k trivial, hmissing, hhidden⟩

end Panels
end PanelForms
