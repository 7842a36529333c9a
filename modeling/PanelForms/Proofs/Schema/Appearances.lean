import PanelForms.Proofs.Schema.References

/-!
# Dependencies in order of appearance

The fields of a view and the fields that a report watches are listed once each, in the order in
which they appear first.  What is listed, and in which order, is said here by places alone: the
edited references of a view stand at places of the document, basic layouts before advanced ones, and
those of a report at places of its own list followed by the fields of its form.

Main definitions:

- `FirstAppearances`: a list has what stands somewhere, in the order of first appearance.
- `View.EditsAt`: where the fields of a view stand.

Main results:

- Theorem `FirstAppearances.unique`: there is one such list.
- Theorem `Enumerates.firstAppearances`: thinning out an enumeration makes it.
- Theorem `dependencies_exact`: what views, reports and bindings list.
-/

namespace PanelForms

/-- The list has every item that stands somewhere, each one once, in the order in which they appear
first: an item stands somewhere before all places of those listed after it. -/
structure FirstAppearances {β : Type} (At : Place → β → Prop) (items : List β) : Prop where
  nodup : items.Nodup
  mem_iff : ∀ item, item ∈ items ↔ ∃ place, At place item
  ordered : items.Pairwise fun a b => ∃ place, At place a ∧ ∀ place', At place' b → place < place'

/-- A reference stands in a view to be edited, and names a field. -/
def View.EditsAt (view : View) (place : Place) (r : FieldRef) : Prop :=
  ∃ text, view.RefersAt .edited place text ∧ FieldRef.parse text = .ok r

/-- The error is that of the edited reference that is malformed before all others. -/
def View.FirstMalformed (view : View) (e : FieldRefError) : Prop :=
  ∃ place text, view.RefersAt .edited place text ∧ FieldRef.parse text = .error e ∧
    ∀ place' text', view.RefersAt .edited place' text' → place' < place →
      ∃ r, FieldRef.parse text' = .ok r

/-! ## Lists in order of appearance -/

/-- What stands where determines the list. -/
theorem FirstAppearances.unique {β : Type} {At : Place → β → Prop} {items items' : List β}
    (h : FirstAppearances At items) (h' : FirstAppearances At items') : items = items' := by
  have hperm : items.Perm items' := by
    rw [List.perm_ext_iff_of_nodup h.nodup h'.nodup]
    intro item
    rw [h.mem_iff, h'.mem_iff]
  refine List.Perm.eq_of_pairwise ?_ h.ordered h'.ordered hperm
  -- Two items cannot each stand before all places of the other.
  intro a b _ _ hab hba
  obtain ⟨place, hplace, hbefore⟩ := hab
  obtain ⟨place', hplace', hbefore'⟩ := hba
  exact (List.lt_asymm (hbefore place' hplace') (hbefore' place hplace)).elim

section Enumerates

variable {At : Place → FieldRef → Prop} {refs : List FieldRef}

/-- What is kept of some entries is in order: each reference is kept at its first place. -/
theorem pairwise_go {entries : List (Place × FieldRef)}
    (hascending : entries.Pairwise fun e e' => e.1 < e'.1) (seen : List FieldRef) :
    (FieldRef.firstOccurrences.go seen (entries.map (·.2))).Pairwise fun a b =>
      ∃ place, (place, a) ∈ entries ∧ ∀ place', (place', b) ∈ entries → place < place' := by
  induction entries generalizing seen with
  | nil => exact List.Pairwise.nil
  | cons entry rest ih =>
    obtain ⟨place, r⟩ := entry
    obtain ⟨hfirst, hrest⟩ := List.pairwise_cons.1 hascending
    -- A reference that is kept later on is not the one of the first entry.
    have hlift : ∀ seen', r ∈ seen' →
        (FieldRef.firstOccurrences.go seen' (rest.map (·.2))).Pairwise fun a b =>
          ∃ place₁, (place₁, a) ∈ (place, r) :: rest ∧
            ∀ place₂, (place₂, b) ∈ (place, r) :: rest → place₁ < place₂ := by
      intro seen' hseen
      refine (ih hrest seen').imp_of_mem fun _ hb hbefore => ?_
      obtain ⟨place₁, hplace₁, hlt⟩ := hbefore
      refine ⟨place₁, List.mem_cons_of_mem _ hplace₁, fun place₂ hplace₂ => ?_⟩
      rcases List.mem_cons.1 hplace₂ with heq | hin
      · cases heq
        exact ((FieldRef.mem_go_iff.1 hb).2 hseen).elim
      · exact hlt place₂ hin
    rw [List.map_cons]
    by_cases hseen : r ∈ seen
    · rw [FieldRef.go_of_mem hseen]
      exact hlift seen hseen
    · rw [FieldRef.go_of_not_mem hseen, List.pairwise_cons]
      refine ⟨fun b hb => ⟨place, List.mem_cons_self, fun place₂ hplace₂ => ?_⟩,
        hlift _ List.mem_cons_self⟩
      rcases List.mem_cons.1 hplace₂ with heq | hin
      · cases heq
        exact ((FieldRef.mem_go_iff.1 hb).2 List.mem_cons_self).elim
      · exact hfirst _ hin

/-- Keeping the first occurrences of what is enumerated lists it in the order of appearance. -/
theorem Enumerates.firstAppearances (h : Enumerates At refs) :
    FirstAppearances At (FieldRef.firstOccurrences refs) := by
  obtain ⟨entries, rfl, hascending, hmem⟩ := h
  constructor
  case nodup => exact FieldRef.nodup_firstOccurrences
  case mem_iff =>
    intro r
    rw [FieldRef.mem_firstOccurrences_iff]
    simp [← hmem]
  case ordered =>
    have hordered := pairwise_go hascending []
    simp only [hmem] at hordered
    exact hordered

/-- Items that are read without a fault are enumerated by what is read. -/
theorem Enumerates.mapM {α β ε : Type} {At : Place → α → Prop} {items : List α} {results : List β}
    {f : α → Except ε β} (h : Enumerates At items) (hresults : items.mapM f = .ok results) :
    Enumerates (fun place b => ∃ a, At place a ∧ f a = .ok b) results := by
  obtain ⟨entries, rfl, hascending, hmem⟩ := h
  rw [Except.mapM_eq_ok_iff, List.forall₂_map_left_iff] at hresults
  -- Each result takes the place of its item.
  have hplaced : ∃ read : List (Place × β), read.map (·.2) = results ∧
      read.map (·.1) = entries.map (·.1) ∧
      ∀ place b, (place, b) ∈ read ↔ ∃ a, (place, a) ∈ entries ∧ f a = .ok b := by
    clear hascending hmem
    induction hresults with
    | nil => exact ⟨[], rfl, rfl, by simp⟩
    | @cons entry b rest others hb _ ih =>
      obtain ⟨read, hread, hplaces, hin⟩ := ih
      refine ⟨(entry.1, b) :: read, by simp [hread], by simp [hplaces], fun place other => ?_⟩
      obtain ⟨place₁, a⟩ := entry
      simp only [List.mem_cons, hin, Prod.mk.injEq]
      constructor
      · rintro (⟨rfl, rfl⟩ | ⟨a', ha', hother⟩)
        · exact ⟨a, Or.inl ⟨rfl, rfl⟩, hb⟩
        · exact ⟨a', Or.inr ha', hother⟩
      · rintro ⟨a', ⟨rfl, rfl⟩ | ha', hother⟩
        · exact Or.inl ⟨rfl, Except.ok.inj (hother.symm.trans hb)⟩
        · exact Or.inr ⟨a', ha', hother⟩
  obtain ⟨read, hread, hplaces, hin⟩ := hplaced
  refine ⟨read, hread, ?_, fun place b => ?_⟩
  · rw [← List.pairwise_map (f := Prod.fst) (R := (· < ·)), hplaces, List.pairwise_map]
    exact hascending
  · simp only [hin, hmem]

/-- A traversal of what is enumerated fails exactly if an item fails, and with the error of the one
at the least place. -/
theorem Enumerates.mapM_eq_error_iff {α β ε : Type} {At : Place → α → Prop} {items : List α}
    {f : α → Except ε β} (h : Enumerates At items) {e : ε} :
    items.mapM f = .error e ↔ ∃ place item, At place item ∧ f item = .error e ∧
      ∀ place' item', At place' item' → place' < place → ∃ b, f item' = .ok b := by
  have hfirst := h.exists_first_iff (P := fun item => f item = .error e)
    (Q := fun item => ∃ b, f item = .ok b)
  rw [← hfirst, Except.mapM_eq_error_iff]
  constructor
  · rintro ⟨before, item, after, hsplit, hbefore, hitem⟩
    exact ⟨before, item, after, hsplit, hitem, hbefore⟩
  · rintro ⟨before, item, after, hsplit, hitem, hbefore⟩
    exact ⟨before, item, after, hsplit, hbefore, hitem⟩

end Enumerates

/-! ## Views -/

namespace View

variable {view : View}

/-- The texts of the fields of a view are read one by one. -/
theorem parseAll_fieldRefs (view : View) :
    FieldRef.parseAll view.fieldRefs = (view.refs .edited).mapM FieldRef.parse := by
  rw [FieldRef.parseAll_eq_mapM, fieldRefs_eq]

/-- The fields of a view are listed in order of appearance. -/
theorem firstAppearances_of_formDependencies {deps : List FieldRef}
    (h : view.formDependencies = .ok deps) : FirstAppearances view.EditsAt deps := by
  obtain ⟨refs, hrefs, rfl⟩ := Except.map_eq_ok_iff.1 h
  rw [parseAll_fieldRefs] at hrefs
  exact ((view.enumerates_refs .edited).mapM hrefs).firstAppearances

/-- The first malformed reference of a view is reported. -/
theorem formDependencies_eq_error_iff {e : FieldRefError} :
    view.formDependencies = .error e ↔ view.FirstMalformed e := by
  have hmap : view.formDependencies = .error e ↔
      FieldRef.parseAll view.fieldRefs = .error e := by
    rw [formDependencies]
    cases FieldRef.parseAll view.fieldRefs <;> simp [Except.map]
  rw [hmap, parseAll_fieldRefs, (view.enumerates_refs .edited).mapM_eq_error_iff]
  rfl

/-- The fields of a view are listed if and only if every edited reference names one. -/
theorem exists_formDependencies_iff :
    (∃ deps, view.formDependencies = .ok deps) ↔
      ∀ place text, view.RefersAt .edited place text → ∃ r, FieldRef.parse text = .ok r := by
  obtain ⟨entries, hitems, -, hmem⟩ := view.enumerates_refs .edited
  have htexts : (∀ text ∈ view.refs .edited, ∃ r, FieldRef.parse text = .ok r) ↔
      ∀ place text, view.RefersAt .edited place text → ∃ r, FieldRef.parse text = .ok r := by
    simp only [← hitems, ← hmem, List.mem_map, Prod.exists]
    constructor
    · intro h place text hin
      exact h text ⟨place, text, hin, rfl⟩
    · rintro h text ⟨place, _, hin, rfl⟩
      exact h place _ hin
  rw [← htexts]
  constructor
  · rintro ⟨deps, hdeps⟩ text htext
    obtain ⟨refs, hrefs, -⟩ := Except.map_eq_ok_iff.1 hdeps
    rw [parseAll_fieldRefs] at hrefs
    obtain ⟨r, -, hr⟩ := Except.exists_of_mem_of_mapM_eq_ok hrefs htext
    exact ⟨r, hr⟩
  · intro h
    have hread : ∀ text ∈ view.refs .edited, ∃ r, FieldRef.parse text = .ok r ∧ True :=
      fun text htext => (h text htext).imp fun r hr => ⟨hr, trivial⟩
    obtain ⟨refs, hrefs, -⟩ := Except.exists_mapM_eq_ok hread
    refine ⟨FieldRef.firstOccurrences refs, Except.map_eq_ok_iff.2 ⟨refs, ?_, rfl⟩⟩
    rw [parseAll_fieldRefs, hrefs]

/-- The list of a view is the one that the places determine. -/
theorem formDependencies_eq_ok_iff {deps : List FieldRef} :
    view.formDependencies = .ok deps ↔
      (∀ place text, view.RefersAt .edited place text → ∃ r, FieldRef.parse text = .ok r) ∧
        FirstAppearances view.EditsAt deps := by
  constructor
  · intro h
    exact ⟨exists_formDependencies_iff.1 ⟨deps, h⟩, firstAppearances_of_formDependencies h⟩
  · rintro ⟨hwell, hdeps⟩
    obtain ⟨found, hfound⟩ := exists_formDependencies_iff.2 hwell
    rw [hfound, (firstAppearances_of_formDependencies hfound).unique hdeps]

/-- No list is made exactly if some edited reference is malformed. -/
theorem exists_formDependencies_error_iff :
    (∃ e, view.formDependencies = .error e) ↔
      ∃ place text e, view.RefersAt .edited place text ∧ FieldRef.parse text = .error e := by
  constructor
  · rintro ⟨e, he⟩
    obtain ⟨place, text, hrefers, hparse, -⟩ := formDependencies_eq_error_iff.1 he
    exact ⟨place, text, e, hrefers, hparse⟩
  · rintro ⟨place, text, e, hrefers, hparse⟩
    cases hdeps : view.formDependencies with
    | error fault => exact ⟨fault, rfl⟩
    | ok deps =>
      obtain ⟨r, hr⟩ := exists_formDependencies_iff.1 ⟨deps, hdeps⟩ place text hrefers
      rw [hparse] at hr
      cases hr

end View

/-! ## Reports -/

/-- A report is made if and only if its own references name fields, and then it watches these and
the fields of its form in the order of appearance. -/
theorem Report.exists_new_iff {client : Client} {name : String} {own : List String}
    {form deps : List FieldRef} :
    (∃ report, Report.new client name own form = .ok report ∧ report.dependencies = deps) ↔
      ∃ refs, List.Forall₂ (fun text r => FieldRef.parse text = .ok r) own refs ∧
        FirstAppearances (ListedAt (refs ++ form)) deps := by
  have hlisted : ∀ refs, FirstAppearances (ListedAt (refs ++ form)) (watched refs form) := by
    intro refs
    rw [watched_eq]
    exact (enumerates_list (refs ++ form)).firstAppearances
  unfold Report.new
  rw [FieldRef.parseAll_eq_mapM]
  simp only [← Except.mapM_eq_ok_iff]
  cases hrefs : own.mapM FieldRef.parse with
  | error e => simp
  | ok refs =>
    simp only [Except.ok.injEq, exists_eq_left']
    constructor
    · rintro rfl
      exact hlisted refs
    · intro hdeps
      exact (hlisted refs).unique hdeps

/-- No report is made exactly if one of its own references is malformed. -/
theorem Report.exists_new_error_iff {client : Client} {name : String} {own : List String}
    {form : List FieldRef} :
    (∃ e, Report.new client name own form = .error e) ↔
      ∃ text ∈ own, ∃ e, FieldRef.parse text = .error e := by
  unfold Report.new
  rw [FieldRef.parseAll_eq_mapM]
  cases hrefs : own.mapM FieldRef.parse with
  | error e =>
    obtain ⟨before, text, after, rfl, -, htext⟩ := Except.mapM_eq_error_iff.1 hrefs
    exact iff_of_true ⟨_, rfl⟩ ⟨text, by simp, e, htext⟩
  | ok refs =>
    constructor
    · rintro ⟨e, he⟩
      cases he
    · rintro ⟨text, htext, e, he⟩
      obtain ⟨r, -, hr⟩ := Except.exists_of_mem_of_mapM_eq_ok hrefs htext
      rw [he] at hr
      cases hr

/-! ## Bindings -/

namespace Schema

variable {s : Schema} {view : View}

/-- References are bound in their order, and every binding names its reference. -/
theorem mapM_resolveRef_eq_ok_iff {refs : List FieldRef} {fields : List ResolvedField} :
    refs.mapM s.resolveRef = .ok fields ↔
      fields.map (·.ref) = refs ∧ ∀ field ∈ fields, s.resolveRef field.ref = .ok field := by
  rw [Except.mapM_eq_ok_iff]
  constructor
  · intro h
    induction h with
    | nil => simp
    | cons hfield _ ih =>
      have href := (resolveRef_eq_ok hfield).1
      refine ⟨by rw [List.map_cons, href, ih.1], ?_⟩
      rw [List.forall_mem_cons, href]
      exact ⟨hfield, ih.2⟩
  · rintro ⟨rfl, hfields⟩
    rw [List.forall₂_map_left_iff, List.forall₂_same]
    exact hfields

/-- The bindings of a view are those of its fields, in the same order. -/
theorem resolveView_eq_ok_iff {fields : List ResolvedField} :
    s.resolveView view = .ok fields ↔
      view.formDependencies = .ok (fields.map (·.ref)) ∧
        ∀ field ∈ fields, s.resolveRef field.ref = .ok field := by
  unfold resolveView
  cases view.formDependencies with
  | error fault => simp
  | ok refs =>
    simp only [mapM_resolveRef_eq_ok_iff, Except.ok.injEq]
    rw [eq_comm]

/-- A view is not bound if its fields cannot be listed, or because of the first one in the list
that the schema does not have. -/
theorem resolveView_eq_error_iff {e : ResolveError} :
    s.resolveView view = .error e ↔
      (∃ fault, view.formDependencies = .error fault ∧ e = .reference fault) ∨
        ∃ before r after, view.formDependencies = .ok (before ++ r :: after) ∧
          (∀ other ∈ before, s.Resolves other) ∧ s.resolveRef r = .error e := by
  unfold resolveView Resolves
  cases view.formDependencies with
  | error fault => simp [eq_comm]
  | ok refs => simp [Except.mapM_eq_error_iff]

end Schema

/-! ## All lists -/

/-- A view lists the fields that its edited references name, each one once, in the order in which
they appear first in the document; it does so unless an edited reference is malformed, and then the
first one that is malformed is reported.  A report watches the fields that its own references name,
followed by those of its form, in the order of first appearance too, unless one of its own
references is malformed.  The bindings of a view are those of the fields that it lists, in the same
order, or the error of the first one without a binding. -/
theorem dependencies_exact :
    (∀ (view : View) deps, view.formDependencies = .ok deps ↔
      (∀ place text, view.RefersAt .edited place text → ∃ r, FieldRef.parse text = .ok r) ∧
        FirstAppearances view.EditsAt deps) ∧
    (∀ (view : View) e, view.formDependencies = .error e ↔ view.FirstMalformed e) ∧
    (∀ view : View, (∃ e, view.formDependencies = .error e) ↔
      ∃ place text e, view.RefersAt .edited place text ∧ FieldRef.parse text = .error e) ∧
    (∀ client name own form deps,
      (∃ report, Report.new client name own form = .ok report ∧ report.dependencies = deps) ↔
        ∃ refs, List.Forall₂ (fun text r => FieldRef.parse text = .ok r) own refs ∧
          FirstAppearances (ListedAt (refs ++ form)) deps) ∧
    (∀ client name own form, (∃ e, Report.new client name own form = .error e) ↔
      ∃ text ∈ own, ∃ e, FieldRef.parse text = .error e) ∧
    (∀ (s : Schema) (view : View) fields, s.resolveView view = .ok fields ↔
      view.formDependencies = .ok (fields.map (·.ref)) ∧
        ∀ field ∈ fields, s.resolveRef field.ref = .ok field) ∧
    ∀ (s : Schema) (view : View) e, s.resolveView view = .error e ↔
      (∃ fault, view.formDependencies = .error fault ∧ e = .reference fault) ∨
        ∃ before r after, view.formDependencies = .ok (before ++ r :: after) ∧
          (∀ other ∈ before, s.Resolves other) ∧ s.resolveRef r = .error e :=
  ⟨fun _ _ => View.formDependencies_eq_ok_iff, fun _ _ => View.formDependencies_eq_error_iff,
    fun _ => View.exists_formDependencies_error_iff, fun _ _ _ _ _ => Report.exists_new_iff,
    fun _ _ _ _ => Report.exists_new_error_iff, fun _ _ _ => Schema.resolveView_eq_ok_iff,
    fun _ _ _ => Schema.resolveView_eq_error_iff⟩

/-- A field that is repeated in a nested tab keeps its first place. -/
example : View.formDependencies ⟨"beam", none, View.defaultKind,
    [.fieldList ["beam.current", "beam.species"],
      .tabs [("grid", [.fieldTable ["x"] [⟨none, ["grid.nx", "beam.current"]⟩]]), ("empty", [])]],
    [.fieldList ["beam.label", "grid.nx"]]⟩ =
      .ok [⟨"beam", "current"⟩, ⟨"beam", "species"⟩, ⟨"grid", "nx"⟩, ⟨"beam", "label"⟩] := by
  decide +kernel

end PanelForms
