import PanelForms.Proofs.Except
import PanelForms.Proofs.FieldRef.FirstOccurrences
import PanelForms.Proofs.Schema.Places
import PanelForms.Proofs.Session.Invariant
import PanelForms.Schema.Document

/-!
# References of accepted schemas

A schema is accepted if every reference of its views names one of its fields, and is refused with
the error of the first reference that does not.  What later goes through a view again, to bind its
form and to watch the values of its reports, therefore never meets a dangling reference.

Main results:

- Definitions `Schema.Offends` and `Schema.FirstOffence`: what is wrong with a reference, and which
  one is reported.
- Theorems `Schema.checked_eq_ok_iff` and `Schema.checked_eq_error_iff`: what is accepted, and the
  error of what is not.
- Definition `Schema.Usable`: all that goes through a view finds fields only.
- Theorem `Schema.references_exact`: exactly the schemas without dangling references are accepted,
  and their views are usable.
-/

namespace PanelForms

/-! ## The first item that has a value -/

/-- A search finds nothing exactly if no item at any place is what is looked for. -/
theorem Enumerates.findSome?_eq_none_iff {β γ : Type} {At : Place → β → Prop} {items : List β}
    (h : Enumerates At items) {f : β → Option γ} :
    items.findSome? f = none ↔ ∀ place item, At place item → f item = none := by
  obtain ⟨entries, rfl, -, hmem⟩ := h
  simp only [List.findSome?_eq_none_iff, List.mem_map, ← hmem]
  constructor
  · exact fun hnone place item hat => hnone item ⟨_, hat, rfl⟩
  · rintro hnone item ⟨⟨place, found⟩, hat, rfl⟩
    exact hnone place found hat

/-- What is found is the value of an item such that no item before it has a value. -/
theorem Enumerates.findSome?_eq_some_iff {β γ : Type} {At : Place → β → Prop} {items : List β}
    (h : Enumerates At items) {f : β → Option γ} {c : γ} :
    items.findSome? f = some c ↔ ∃ place item, At place item ∧ f item = some c ∧
      ∀ place' item', At place' item' → place' < place → f item' = none := by
  rw [List.findSome?_eq_some_iff, ← h.exists_first_iff]

namespace Schema

/-! ## Acceptance -/

/-- A reference of a view does not name a field of the schema, for a reason. -/
inductive Offends (s : Schema) : String × String → SchemaError → Prop where
  | malformed {view text : String} {error : FieldRefError}
      (hparse : FieldRef.parse text = .error error) :
      Offends s (view, text) (.badReference view error)
  | unknown {view text : String} {r : FieldRef} (hparse : FieldRef.parse text = .ok r)
      (hfield : s.field? r = none) : Offends s (view, text) (.unknownField view r)

/-- A text names a field of the schema. -/
def Names (s : Schema) (text : String) : Prop :=
  ∃ r d, FieldRef.parse text = .ok r ∧ s.field? r = some d

/-- The error is that of the reference of the views that offends before all others do. -/
def FirstOffence (s : Schema) (e : SchemaError) : Prop :=
  ∃ place ref, RefersAt s.views place ref ∧ s.Offends ref e ∧
    ∀ place' ref', RefersAt s.views place' ref' → place' < place → s.Names ref'.2

variable {s : Schema}

/-- The fault of a reference is what is wrong with it. -/
theorem refFault?_eq_some_iff {ref : String × String} {e : SchemaError} :
    s.refFault? ref.1 ref.2 = some e ↔ s.Offends ref e := by
  obtain ⟨view, text⟩ := ref
  unfold refFault?
  split
  next error hparse =>
    constructor
    · rintro ⟨⟩
      exact .malformed hparse
    · intro h
      cases h with
      | malformed hparse' =>
        rw [hparse] at hparse'
        cases hparse'
        rfl
      | unknown hparse' hfield =>
        rw [hparse] at hparse'
        cases hparse'
  next r hparse =>
    constructor
    · intro h
      split at h
      · cases h
      · next hfield =>
        cases h
        exact .unknown hparse (Option.not_isSome_iff_eq_none.1 hfield)
    · intro h
      cases h with
      | malformed hparse' =>
        rw [hparse] at hparse'
        cases hparse'
      | unknown hparse' hfield =>
        rw [hparse] at hparse'
        cases hparse'
        simp [hfield]

/-- Nothing is wrong with exactly the references that name a field. -/
theorem refFault?_eq_none_iff {view text : String} :
    s.refFault? view text = none ↔ s.Names text := by
  unfold refFault? Names
  split
  next error hparse => simp [hparse]
  next r hparse =>
    simp only [hparse, Except.ok.injEq, ite_eq_left_iff, reduceCtorEq, imp_false, not_not,
      Option.isSome_iff_exists]
    constructor
    · rintro ⟨d, hd⟩
      exact ⟨r, d, rfl, hd⟩
    · rintro ⟨_, d, rfl, hd⟩
      exact ⟨d, hd⟩

/-- All references of the views are checked one after another. -/
theorem checkViews_eq (s : Schema) :
    s.checkViews = (s.views.flatMap fun view => view.allRefs.map fun ref => (view.name, ref)
      ).findSome? fun ref => s.refFault? ref.1 ref.2 := by
  unfold checkViews
  induction s.views with
  | nil => rfl
  | cons view rest ih =>
    have hview : (view.allRefs.map fun ref => (view.name, ref)).findSome?
        (fun ref => s.refFault? ref.1 ref.2) = view.allRefs.findSome? (s.refFault? view.name) :=
      List.findSome?_map
    rw [List.flatMap_cons, List.findSome?_append, hview, List.findSome?_cons, ih]
    cases view.allRefs.findSome? (s.refFault? view.name) <;> rfl

/-- The views are in order exactly if all of their references name fields. -/
theorem checkViews_eq_none_iff :
    s.checkViews = none ↔ ∀ place ref, RefersAt s.views place ref → s.Names ref.2 := by
  rw [checkViews_eq, (enumerates_viewRefs s.views).findSome?_eq_none_iff]
  simp only [refFault?_eq_none_iff]

/-- The fault of the views is that of the first offending reference. -/
theorem checkViews_eq_some_iff {e : SchemaError} :
    s.checkViews = some e ↔ s.FirstOffence e := by
  rw [checkViews_eq, (enumerates_viewRefs s.views).findSome?_eq_some_iff]
  simp only [refFault?_eq_none_iff, refFault?_eq_some_iff, FirstOffence]

/-- A schema is accepted, as it is, exactly if all references of its views name fields. -/
theorem checked_eq_ok_iff {t : Schema} :
    s.checked = .ok t ↔ t = s ∧ ∀ place ref, RefersAt s.views place ref → s.Names ref.2 := by
  rw [← checkViews_eq_none_iff, checked]
  cases s.checkViews <;> simp [eq_comm]

/-- A schema is refused with the error of the first offending reference. -/
theorem checked_eq_error_iff {e : SchemaError} : s.checked = .error e ↔ s.FirstOffence e := by
  rw [← checkViews_eq_some_iff, checked]
  cases s.checkViews <;> simp

/-! ## Use -/

/-- A schema that was made of parts or of a document, over a registry of types. -/
inductive Accepted (s : Schema) : Prop where
  | ofParts {models : Dict ModelSchema} {views : List View} (h : ofParts models views = .ok s)
  | compile {registry : TypeRegistry} {document : Json} (h : compile registry document = .ok s)

/-- An accepted schema passes the check again. -/
theorem Accepted.checked (h : s.Accepted) : s.checked = .ok s := by
  have hself : ∀ t : Schema, t.checked = .ok s → s.checked = .ok s := fun t ht => by
    obtain ⟨rfl, -⟩ := checked_eq_ok_iff.1 ht
    exact ht
  cases h with
  | ofParts h => exact hself _ h
  | compile h =>
    unfold Schema.compile at h
    split at h
    · obtain ⟨registry, -, h⟩ := Except.bind_eq_ok_iff.1 h
      obtain ⟨models, -, h⟩ := Except.bind_eq_ok_iff.1 h
      obtain ⟨views, -, h⟩ := Except.bind_eq_ok_iff.1 h
      exact hself _ h
    · cases h

/-- A reference resolves in the schema. -/
def Resolves (s : Schema) (r : FieldRef) : Prop :=
  ∃ field, s.resolveRef r = .ok field

/-- All that goes through a view goes through, and the references that come of it resolve: the
fields of its form, their bindings, and what its reports watch. -/
def Usable (s : Schema) (client : Client) (view : View) : Prop :=
  ∃ refs fields reports, view.formDependencies = .ok refs ∧ s.resolveView view = .ok fields ∧
    Report.ofView client view = .ok reports ∧
    (∀ r ∈ refs, s.Resolves r) ∧ (∀ field ∈ fields, s.resolveRef field.ref = .ok field) ∧
    ∀ report ∈ reports, ∀ r ∈ report.dependencies, s.Resolves r

/-- A reference to a field that is there resolves. -/
theorem resolves_of_field? {r : FieldRef} {d : FieldDef} (h : s.field? r = some d) :
    s.Resolves r := by
  obtain ⟨model, hmodel, hfield⟩ := Option.bind_eq_some_iff.1 h
  simp [Resolves, resolveRef, hmodel, hfield]

end Schema

namespace Schema

variable {s : Schema} {view : View}

/-- Texts that name fields are read as references that resolve. -/
theorem parseAll_of_names {texts : List String} (h : ∀ text ∈ texts, s.Names text) :
    ∃ refs, FieldRef.parseAll texts = .ok refs ∧ ∀ r ∈ refs, s.Resolves r := by
  rw [FieldRef.parseAll_eq_mapM]
  refine Except.exists_mapM_eq_ok fun text htext => ?_
  obtain ⟨r, d, hparse, hfield⟩ := h text htext
  exact ⟨r, hparse, resolves_of_field? hfield⟩

/-- A report over fields of the schema is made, and all that it watches resolves. -/
theorem new_of_names {client : Client} {name : String} {own : List String} {form : List FieldRef}
    (hown : ∀ text ∈ own, s.Names text) (hform : ∀ r ∈ form, s.Resolves r) :
    ∃ report, Report.new client name own form = .ok report ∧
      ∀ r ∈ report.dependencies, s.Resolves r := by
  obtain ⟨refs, hrefs, hresolve⟩ := parseAll_of_names hown
  refine ⟨⟨name, client.appName, Report.watched refs form, none, .new⟩, ?_, fun r hr => ?_⟩
  · simp only [Report.new, hrefs]
  · have hwatched : r ∈ refs ∨ r ∈ form := by
      simpa [Report.watched_eq, FieldRef.mem_firstOccurrences_iff] using hr
    exact hwatched.elim (hresolve r) (hform r)

/-- A view all of whose references name fields is usable. -/
theorem usable_of_names (h : ∀ text ∈ view.allRefs, s.Names text) (client : Client) :
    s.Usable client view := by
  obtain ⟨parsed, hparsed, hresolve⟩ := parseAll_of_names fun text htext =>
    h text (List.mem_append_left _ htext)
  have hform : ∀ r ∈ FieldRef.firstOccurrences parsed, s.Resolves r := fun r hr =>
    hresolve r (FieldRef.mem_firstOccurrences_iff.1 hr)
  have hrefs : view.formDependencies = .ok (FieldRef.firstOccurrences parsed) := by
    rw [View.formDependencies, hparsed, Except.map]
  obtain ⟨fields, hfields, hbound⟩ : ∃ fields,
      (FieldRef.firstOccurrences parsed).mapM s.resolveRef = .ok fields ∧
        ∀ field ∈ fields, s.resolveRef field.ref = .ok field :=
    Except.exists_mapM_eq_ok fun r hr => by
      obtain ⟨field, hfield⟩ := hform r hr
      exact ⟨field, hfield, by rw [(resolveRef_eq_ok hfield).1, hfield]⟩
  obtain ⟨reports, hreports, hwatched⟩ : ∃ reports,
      view.reports.mapM (fun spec => Report.new client spec.name spec.dependencies
        (FieldRef.firstOccurrences parsed)) = .ok reports ∧
        ∀ report ∈ reports, ∀ r ∈ report.dependencies, s.Resolves r :=
    Except.exists_mapM_eq_ok fun spec hspec => new_of_names (fun text htext =>
      h text (List.mem_append_right _ (List.mem_flatMap.2 ⟨spec, hspec, htext⟩))) hform
  exact ⟨_, fields, reports, hrefs, by simp only [resolveView, hrefs, hfields],
    by simp only [Report.ofView, hrefs, hreports], hform, hbound, hwatched⟩

/-- In an accepted schema every reference that a view makes anywhere names a field. -/
theorem Accepted.names (h : s.Accepted) (hview : view ∈ s.views) {text : String}
    (htext : text ∈ view.allRefs) : s.Names text := by
  obtain ⟨-, hnames⟩ := checked_eq_ok_iff.1 h.checked
  obtain ⟨entries, hitems, -, hmem⟩ := enumerates_viewRefs s.views
  have hin : (view.name, text) ∈ entries.map (·.2) := by
    rw [hitems, List.mem_flatMap]
    exact ⟨view, hview, List.mem_map.2 ⟨text, htext, rfl⟩⟩
  obtain ⟨⟨place, ref⟩, hentry, heq⟩ := List.mem_map.1 hin
  cases heq
  exact hnames place _ ((hmem place _).1 hentry)

/-- Parts are accepted as a schema exactly if every reference of their views names a field of
their models, and refused with the error of the first reference that does not.  So in every
schema that was accepted, whether made of parts or of a document, all views are usable. -/
theorem references_exact :
    (∀ models views s, ofParts models views = .ok s ↔ s = ⟨models, views⟩ ∧
      ∀ place ref, RefersAt views place ref → Names ⟨models, views⟩ ref.2) ∧
    (∀ models views e, ofParts models views = .error e ↔
      FirstOffence ⟨models, views⟩ e) ∧
    ∀ s : Schema, s.Accepted → ∀ view ∈ s.views, ∀ client, s.Usable client view :=
  ⟨fun _ _ _ => checked_eq_ok_iff, fun _ _ _ => checked_eq_error_iff,
    fun _ haccepted _ hview client =>
      usable_of_names (fun _ htext => haccepted.names hview htext) client⟩

/-- A schema of a page, with a view that edits its title in a tab and shows a report on its body
beside it. -/
def page : Schema where
  models := Dict.ofList [("page", Dict.ofList [
    ("body", ⟨"Body", ⟨.text, false⟩, none, none⟩),
    ("title", ⟨"Title", ⟨.text, false⟩, none, none⟩)])]
  views := [⟨"page", none, View.defaultKind,
    [.tabs [("text", [.fieldList ["page.title"], .report "words" ["page.body"]])]], []⟩]

/-- The views of the example page are usable. -/
theorem references_exact_page : ∀ view ∈ page.views, ∀ client, page.Usable client view :=
  references_exact.2.2 page (.ofParts (rfl : ofParts page.models page.views = .ok page))

end Schema
end PanelForms
