import PanelForms.Proofs.Session.BoundStates
import PanelForms.Proofs.Session.Sendable
import PanelForms.Proofs.Session.Verdict

/-!
# Opening a form beside another

A form that binds a field for the first time seeds it, unless the field has been edited, and all
forms on the session share what is seeded.  An untouched field shows its canonical value with the
verdict of its type already, so that seeding it anew can only change its activity: a field that
some form has hidden is shown again, in all forms.  This module shows that nothing else that an
open form can see is changed.

Main results:

- Definition `Form.Uncovers`: an operation binds a field that has been hidden and not edited.
- Theorem `Session.field?_seedField_of_state`: seeding a field makes it active, if it is untouched.
- Theorem `Form.KeepsStates.opensBeside`: what a form reads from editing states that are kept.
- Theorem `Panels.bind_opensBeside`: binding disturbs an open form only by uncovering a field.
- Theorem `Panels.not_every_binding_undisturbing`: it does so if the field is not valid.
-/

namespace PanelForms

/-- The operation binds a field. -/
def FormOp.IsBinding : FormOp → Prop
  | .bind _ | .bindField _ => True
  | _ => False

namespace Session

variable {s : Session} {r : FieldRef} {state : FieldState}

/-- A field that has state already is only made active when it is seeded, and not even that if it
holds an edit. -/
theorem field?_seedField_of_state (hcoherent : s.Coherent) (htyped : s.WellTyped)
    {field : ResolvedField} (hresolved : s.schema.resolveRef field.ref = .ok field)
    (hstate : s.forms.field? r = some state) :
    (Form.seedField s field).forms.field? r =
      some (if field.ref = r ∧ state.touched = false then state.setActive true else state) := by
  have hedit : s.edit? r = none ↔ state.touched = false := by
    simp [edit?, hstate, FieldState.edit?]
  simp only [field?_seedField, hedit]
  split
  next hseeds =>
    obtain ⟨rfl, huntouched⟩ := hseeds
    obtain ⟨-, d, hd, htype⟩ := Schema.resolveRef_eq_ok hresolved
    obtain ⟨d', hd', hvalid⟩ := htyped field.ref state hstate
    obtain rfl : d = d' := Option.some.inj (hd.symm.trans hd')
    have hvalue := hcoherent.follows field.ref state hstate huntouched
    rw [← htype] at hvalid
    cases state
    simp_all [FieldState.seeded, FieldState.setActive]
  next => rw [hstate]

/-- A field blocks if it is active and not valid. -/
theorem blocks_of_state (hstate : s.forms.field? r = some state) :
    s.blocks r = (state.active && !state.valid) := by
  simp [blocks, hstate]

end Session

namespace Form

variable {f g : Form} {s t : Session} {op : FormOp} {r : FieldRef}

/-! ## What a form reads -/

/-- A form is valid exactly if it has no invalid field. -/
theorem isValid_iff : f.isValid s = true ↔ f.invalidFields s = [] := by
  rw [isValid, invalidFields, List.map_eq_nil_iff, List.filter_eq_nil_iff]
  simp

/-- The invalid fields of a consistent form are the bound ones that block. -/
theorem mem_invalidFields_iff (h : f.Consistent) :
    r ∈ f.invalidFields s ↔ f.isBound r = true ∧ s.blocks r = true := by
  rw [invalidFields_eq, blockingFields, List.mem_map, h.isBound_iff]
  simp only [List.mem_filter]
  constructor
  · rintro ⟨field, ⟨hfield, hblocks⟩, rfl⟩
    exact ⟨⟨field, hfield, rfl⟩, hblocks⟩
  · rintro ⟨⟨field, hfield, rfl⟩, hblocks⟩
    exact ⟨field, ⟨hfield, hblocks⟩, rfl⟩

/-- Which fields block depends on the blocking of each field alone. -/
theorem blockingFields_congr
    (h : ∀ field ∈ f.fields, t.blocks field.ref = s.blocks field.ref) :
    f.blockingFields t = f.blockingFields s := by
  unfold blockingFields
  rw [List.filter_congr h]

/-- If all that blocks before blocks still, the fields that block before are found, in the same
order, among those that block now. -/
theorem blockingFields_sublist
    (h : ∀ field ∈ f.fields, s.blocks field.ref = true → t.blocks field.ref = true) :
    (f.blockingFields s).Sublist (f.blockingFields t) := by
  have hstill : f.fields.filter (fun field => s.blocks field.ref) =
      (f.fields.filter fun field => t.blocks field.ref).filter fun field =>
        s.blocks field.ref := by
    rw [List.filter_filter]
    refine List.filter_congr fun field hfield => ?_
    cases hbefore : s.blocks field.ref with
    | false => rfl
    | true => simp [h field hfield hbefore]
  unfold blockingFields
  rw [hstill]
  exact List.filter_sublist.map _

/-! ## Binding a field for the first time -/

/-- The operation binds the field to the form, which does not bind it yet. -/
structure Adds (g : Form) (s : Session) (op : FormOp) (field : ResolvedField) : Prop where
  belongs : g.BelongsTo s
  binds : op.binds? s.schema = some field
  new : g.isBound field.ref = false

/-- The operation adds a field that has been taken out of some form and has not been edited since it
was last seeded; `state` is its state. -/
structure Uncovers (g : Form) (s : Session) (op : FormOp) (r : FieldRef) (state : FieldState) :
    Prop where
  adds : ∃ field, g.Adds s op field ∧ field.ref = r
  found : s.forms.field? r = some state
  untouched : state.touched = false
  hidden : state.active = false

/-- Binding adds a field and seeds it, or leaves the session alone. -/
theorem perform_of_binding (hop : op.IsBinding)
    (hknown : ∀ field, op.binds? s.schema = some field →
      s.schema.models.contains field.ref.model = true) :
    (∃ field, g.Adds s op field ∧ (g.perform s op).2 = seedField s field) ∨
      (∀ field, ¬ g.Adds s op field) ∧ (g.perform s op).2 = s := by
  by_cases hbelongs : g.BelongsTo s
  · cases hbinds : op.binds? s.schema with
    | none =>
      refine Or.inr ⟨fun field hadds => ?_, ?_⟩
      · rw [hadds.binds] at hbinds
        cases hbinds
      · cases op with
        | bind text =>
          cases hresolve : s.schema.resolve text with
          | error e => simp [perform, bind, hresolve, FormStep.after]
          | ok field =>
            rw [binds?_bind hresolve] at hbinds
            cases hbinds
        | bindField field => cases hbinds
        | edit | setActive | submit | cancel => exact hop.elim
    | some field =>
      rw [perform_of_binds hbinds]
      cases hbound : g.isBound field.ref with
      | false =>
        refine Or.inl ⟨field, ⟨hbelongs, hbinds, hbound⟩, ?_⟩
        simp [bindField, attach_of_belongsTo hbelongs, hbound, hknown field hbinds, FormStep.after]
      | true =>
        refine Or.inr ⟨fun other hadds => ?_, ?_⟩
        · obtain rfl : field = other := Option.some.inj (hbinds.symm.trans hadds.binds)
          rw [hadds.new] at hbound
          cases hbound
        · simp [bindField, attach_of_belongsTo hbelongs, hbound, FormStep.after]
  · rw [(perform_of_not_belongsTo hbelongs op).2]
    exact Or.inr ⟨fun field hadds => hbelongs hadds.belongs, rfl⟩

/-- What an operation of form `g` does to the editing states that are there: those that it uncovers
become active, all others are kept. -/
structure KeepsStates (g : Form) (s : Session) (op : FormOp) (t : Session) : Prop where
  kept : ∀ r state, s.forms.field? r = some state → ¬ g.Uncovers s op r state →
    t.forms.field? r = some state
  uncovered : ∀ r state, g.Uncovers s op r state →
    t.forms.field? r = some (state.setActive true)

/-- Binding a field as the schema resolves it keeps all editing states but the uncovered one. -/
theorem keepsStates_of_binding (hcoherent : s.Coherent) (htyped : s.WellTyped)
    (hop : op.IsBinding) (hresolved : ∀ field, op.binds? s.schema = some field →
      s.schema.resolveRef field.ref = .ok field) :
    g.KeepsStates s op (g.perform s op).2 := by
  have hknown : ∀ field, op.binds? s.schema = some field →
      s.schema.models.contains field.ref.model = true :=
    fun field hbinds => Schema.contains_of_resolveRef (hresolved field hbinds)
  rcases perform_of_binding hop hknown with ⟨field, hadds, hsession⟩ | ⟨hnone, hsession⟩
  · have hseeded : ∀ r state, s.forms.field? r = some state →
        (g.perform s op).2.forms.field? r =
          some (if field.ref = r ∧ state.touched = false then state.setActive true else state) := by
      intro r state hstate
      rw [hsession]
      exact Session.field?_seedField_of_state hcoherent htyped (hresolved field hadds.binds) hstate
    constructor
    · intro r state hstate hnot
      rw [hseeded r state hstate]
      split
      next hseeds =>
        -- Seeding an active field makes it active once more.
        have hactive : state.active = true := by
          refine Bool.of_not_eq_false fun hhidden => ?_
          exact hnot ⟨⟨field, hadds, hseeds.1⟩, hstate, hseeds.2, hhidden⟩
        cases state
        cases hactive
        rfl
      next => rfl
    · intro r state huncovers
      obtain ⟨other, hother, href⟩ := huncovers.adds
      obtain rfl : field = other := Option.some.inj (hadds.binds.symm.trans hother.binds)
      rw [hseeded r state huncovers.found, if_pos ⟨href, huncovers.untouched⟩]
  · rw [hsession]
    constructor
    · exact fun r state hstate _ => hstate
    · intro r state huncovers
      obtain ⟨field, hadds, -⟩ := huncovers.adds
      exact (hnone field hadds).elim

/-! ## What an open form notices -/

/-- What an open form `f` notices of an operation of form `g` on the session that they share: a
field that both bind is uncovered, which matters if the field is not valid. -/
structure OpensBeside (f g : Form) (s : Session) (op : FormOp) (t : Session) : Prop extends
    g.KeepsStates s op t where
  dirty_kept : f.isDirty t = f.isDirty s
  /-- The fields that are bound, uncovered and not valid join the invalid ones. -/
  invalid_iff : ∀ r, r ∈ f.invalidFields t ↔ r ∈ f.invalidFields s ∨
    f.isBound r = true ∧ ∃ state, g.Uncovers s op r state ∧ state.valid = false
  /-- The invalid fields are still in the order of binding. -/
  invalid_order : (f.invalidFields s).Sublist (f.invalidFields t) ∧
    (f.invalidFields t).Sublist (f.fields.map (·.ref))
  /-- If there is no such field, the invalid fields and the verdict stay as they are. -/
  invalid_kept : (∀ r state, f.isBound r = true → g.Uncovers s op r state → state.valid = true) →
    f.invalidFields t = f.invalidFields s ∧ f.isValid t = f.isValid s
  /-- If there is one, the form is not valid. -/
  not_valid : ∀ r state, f.isBound r = true → g.Uncovers s op r state → state.valid = false →
    f.isValid t = false

section KeepsStates

variable (h : g.KeepsStates s op t)
include h

/-- A field blocks a commit if it has done so before, or if it is uncovered and not valid. -/
theorem KeepsStates.blocks_iff (hr : s.HasState r) :
    t.blocks r = true ↔ s.blocks r = true ∨
      ∃ state, g.Uncovers s op r state ∧ state.valid = false := by
  obtain ⟨state, hstate⟩ := hr
  rw [Session.blocks_of_state hstate]
  by_cases huncovers : g.Uncovers s op r state
  · rw [Session.blocks_of_state (h.uncovered r state huncovers)]
    constructor
    · intro hblocks
      exact Or.inr ⟨state, huncovers, by simpa [FieldState.setActive] using hblocks⟩
    · rintro (hblocks | ⟨state', huncovers', hinvalid⟩)
      · simp [huncovers.hidden] at hblocks
      · obtain rfl : state = state' := Option.some.inj (hstate.symm.trans huncovers'.found)
        simpa [FieldState.setActive] using hinvalid
  · rw [Session.blocks_of_state (h.kept r state hstate huncovers)]
    refine ⟨Or.inl, ?_⟩
    rintro (hblocks | ⟨state', huncovers', -⟩)
    · exact hblocks
    · obtain rfl : state = state' := Option.some.inj (hstate.symm.trans huncovers'.found)
      exact (huncovers huncovers').elim

/-- What is uncovered has not been touched, so the form is as dirty as it was. -/
theorem KeepsStates.isDirty_eq (hstates : ∀ field ∈ f.fields, s.HasState field.ref) :
    f.isDirty t = f.isDirty s := by
  rw [Bool.eq_iff_iff, isDirty_iff, isDirty_iff]
  refine exists_congr fun field => and_congr_right fun hfield => ?_
  obtain ⟨state, hstate⟩ := hstates field hfield
  by_cases huncovers : g.Uncovers s op field.ref state
  · simp [h.uncovered field.ref state huncovers, hstate, FieldState.setActive,
      huncovers.untouched]
  · simp [h.kept field.ref state hstate huncovers, hstate]

/-- If the editing states are kept but for what is uncovered, this is all that a form notices. -/
theorem KeepsStates.opensBeside (hconsistent : f.Consistent)
    (hstates : ∀ field ∈ f.fields, s.HasState field.ref) : f.OpensBeside g s op t := by
  have hblocks : ∀ field ∈ f.fields, t.blocks field.ref = true ↔ s.blocks field.ref = true ∨
      ∃ state, g.Uncovers s op field.ref state ∧ state.valid = false :=
    fun field hfield => h.blocks_iff (hstates field hfield)
  have hiff : ∀ r, r ∈ f.invalidFields t ↔ r ∈ f.invalidFields s ∨
      f.isBound r = true ∧ ∃ state, g.Uncovers s op r state ∧ state.valid = false := by
    intro r
    rw [mem_invalidFields_iff hconsistent, mem_invalidFields_iff hconsistent, ← and_or_left]
    refine and_congr_right fun hbound => ?_
    obtain ⟨field, hfield, rfl⟩ := (hconsistent.isBound_iff r).1 hbound
    exact hblocks field hfield
  constructor
  case toKeepsStates => exact h
  case dirty_kept => exact h.isDirty_eq hstates
  case invalid_iff => exact hiff
  case invalid_order =>
    rw [invalidFields_eq, invalidFields_eq]
    refine ⟨blockingFields_sublist fun field hfield => ?_, List.filter_sublist.map _⟩
    exact fun hbefore => (hblocks field hfield).2 (Or.inl hbefore)
  case invalid_kept =>
    intro hvalid
    have hsame : f.invalidFields t = f.invalidFields s := by
      rw [invalidFields_eq, invalidFields_eq]
      refine blockingFields_congr fun field hfield => ?_
      rw [Bool.eq_iff_iff, hblocks field hfield, or_iff_left_iff_imp]
      rintro ⟨state, huncovers, hinvalid⟩
      have hbound := (hconsistent.isBound_iff field.ref).2 ⟨field, hfield, rfl⟩
      rw [hvalid field.ref state hbound huncovers] at hinvalid
      cases hinvalid
    refine ⟨hsame, ?_⟩
    rw [Bool.eq_iff_iff, isValid_iff, isValid_iff, hsame]
  case not_valid =>
    intro r state hbound huncovers hinvalid
    have hmem := (hiff r).2 (Or.inr ⟨hbound, state, huncovers, hinvalid⟩)
    refine Bool.of_not_eq_true fun hvalid => ?_
    rw [isValid_iff.1 hvalid] at hmem
    cases hmem

end KeepsStates
end Form

namespace Panels

/-- Whatever has been done with the panels before, binding a field to one form disturbs no other
open form, unless it uncovers a field. -/
theorem bind_opensBeside {p : Panels} (hp : p.ReachableVia OwnBinding) {j k : Nat} (hne : k ≠ j)
    (hbelongs : (p.forms k).BelongsTo p.session) {op : FormOp} (hop : op.IsBinding)
    (hown : p.OwnBinding (.form j op)) :
    (p.step (.form j op)).forms k = p.forms k ∧
      (p.forms k).OpensBeside (p.forms j) p.session op (p.step (.form j op)).session := by
  have hall := own_of_reachable hp
  refine ⟨Function.update_of_ne hne _ _, ?_⟩
  have hkeeps : (p.forms j).KeepsStates p.session op ((p.forms j).perform p.session op).2 :=
    Form.keepsStates_of_binding hall.coherent hall.wellTyped hop fun _ => hown.resolveRef
  exact hkeeps.opensBeside (hall.fits k hbelongs).consistent (hasState_of_reachable hp hbelongs)

/-! ## A form that is disturbed -/

/-- The stock is stored with a count that is not valid, and a first form has hidden the count. -/
def miscountHidden : Panels :=
  storeroom.run [.admin (.replaceModel "stock" (Dict.ofList [("count", .string "many")])),
    .form 0 (.bind "stock.count"), .form 0 (.setActive .stockCount false)]

theorem reachable_miscountHidden : miscountHidden.ReachableVia OwnBinding :=
  (ReachableVia.fresh ⟨⟨⟨1⟩, .stock, rfl⟩, fun _ => Or.inl rfl⟩).run
    ⟨trivial, trivial, trivial, trivial⟩

/-- When another form binds the hidden count, the first one is left as it is and notices the count
that is not valid. -/
theorem bind_opensBeside_miscountHidden :
    (miscountHidden.step (.form 1 (.bind "stock.count"))).forms 0 = miscountHidden.forms 0 ∧
      (miscountHidden.forms 0).OpensBeside (miscountHidden.forms 1) miscountHidden.session
        (.bind "stock.count") (miscountHidden.step (.form 1 (.bind "stock.count"))).session :=
  bind_opensBeside reachable_miscountHidden (by decide) (Or.inr rfl) trivial trivial

/-- A form and all editing states are as they were before. -/
structure Undisturbed (f : Form) (s t : Session) : Prop where
  dirty_kept : f.isDirty t = f.isDirty s
  valid_kept : f.isValid t = f.isValid s
  invalid_kept : f.invalidFields t = f.invalidFields s
  states_kept : ∀ r state, s.forms.field? r = some state → t.forms.field? r = some state

/-- Binding a field to one form may make another form invalid: the count is shown again. -/
theorem not_every_binding_undisturbing :
    ¬ ∀ p : Panels, p.ReachableVia OwnBinding → ∀ j k, k ≠ j →
      (p.forms k).session = some p.session.id → ∀ op : FormOp, op.IsBinding →
        p.OwnBinding (.form j op) →
          Undisturbed (p.forms k) p.session (p.step (.form j op)).session := by
  intro hall
  have hundisturbed := hall miscountHidden reachable_miscountHidden 1 0 (by decide) rfl
    (.bind "stock.count") trivial trivial
  have hbefore : (miscountHidden.forms 0).isValid miscountHidden.session = true := by
    rfl
  have hafter : (miscountHidden.forms 0).isValid
      (miscountHidden.step (.form 1 (.bind "stock.count"))).session = false := by
    rfl
  have hsame := hundisturbed.valid_kept
  rw [hbefore, hafter] at hsame
  cases hsame

end Panels
end PanelForms
