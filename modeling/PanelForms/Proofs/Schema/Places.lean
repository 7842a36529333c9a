import Mathlib.Data.List.Basic
import PanelForms.Schema.Layout

/-!
# Where the references of views stand

A reference stands in a view either to be edited or to be watched by a report, and its place is
the way down to it: the numbers of the parts taken, the outermost first.  Places are ordered
lexicographically, which is the order of the document.

The references of a view are collected by two separate walks through its layouts.  This module
relates both to one description of what refers to what and where, which mentions neither: each
walk finds every reference of its use, nothing else, and in order of places.

Main results:

- Definitions `Layout.RefersAt`, `View.RefersAt` and `RefersAt`: what refers to what and where.
- Theorem `Layout.enumerates_refs`: what each walk finds in a layout.
- Theorem `View.enumerates_refs`: what each walk finds in a view.
- Theorem `enumerates_viewRefs`: what is found in all views.
-/

namespace PanelForms

/-- A way down, by the number of the part taken at each level. -/
abbrev Place := List Nat

/-! ## Enumerations -/

section Enumerates

variable {α β : Type}

/-- The list has exactly the items that stand somewhere, in ascending order of places. -/
def Enumerates (At : Place → β → Prop) (items : List β) : Prop :=
  ∃ entries : List (Place × β), entries.map (·.2) = items ∧
    entries.Pairwise (fun e e' => e.1 < e'.1) ∧
    ∀ place item, (place, item) ∈ entries ↔ At place item

/-- An item that stands in one of several parts. -/
def Below (At : α → Place → β → Prop) (parts : List α) (place : Place) (item : β) : Prop :=
  ∃ i part rest, place = i :: rest ∧ parts[i]? = some part ∧ At part rest item

/-- What a list enumerates depends on which items are at which places. -/
theorem Enumerates.congr {At At' : Place → β → Prop} {items : List β}
    (h : Enumerates At items) (heq : ∀ place item, At place item ↔ At' place item) :
    Enumerates At' items := by
  obtain ⟨entries, hitems, hascending, hmem⟩ := h
  exact ⟨entries, hitems, hascending, fun place item => (hmem place item).trans (heq place item)⟩

theorem enumerates_none : Enumerates (fun _ _ => False) ([] : List β) :=
  ⟨[], rfl, List.Pairwise.nil, by simp⟩

/-- A list of one item enumerates what is at the root. -/
theorem enumerates_single (item : β) :
    Enumerates (fun place other => place = [] ∧ other = item) [item] :=
  ⟨[([], item)], rfl, List.pairwise_singleton _ _, by simp⟩

/-- Another name for the items. -/
theorem Enumerates.map {γ : Type} {At : Place → β → Prop} {items : List β}
    (h : Enumerates At items) (f : β → γ) :
    Enumerates (fun place c => ∃ item, At place item ∧ f item = c) (items.map f) := by
  obtain ⟨entries, rfl, hascending, hmem⟩ := h
  refine ⟨entries.map fun e => (e.1, f e.2), by simp, List.pairwise_map.2 hascending, ?_⟩
  intro place c
  simp only [← hmem, List.mem_map, Prod.mk.injEq, Prod.exists]
  constructor
  · rintro ⟨place, item, hitem, rfl, rfl⟩
    exact ⟨item, hitem, rfl⟩
  · rintro ⟨item, hitem, rfl⟩
    exact ⟨place, item, hitem, rfl, rfl⟩

/-- The entries of all parts, each below the number of its part. -/
def entriesBelow (entries : α → List (Place × β)) (parts : List α) : List (Place × β) :=
  parts.zipIdx.flatMap fun p => (entries p.1).map fun e => (p.2 :: e.1, e.2)

section entriesBelow

variable {entries : α → List (Place × β)} {parts : List α}

/-- A numbered part is one of the parts. -/
theorem mem_of_mem_zipIdx {p : α × Nat} (h : p ∈ parts.zipIdx) : p.1 ∈ parts :=
  List.mem_of_getElem? (List.mem_zipIdx_iff_getElem?.1 h)

/-- Without their places, the items below some parts are those of each part in order. -/
theorem map_snd_entriesBelow :
    (entriesBelow entries parts).map (·.2) =
      parts.flatMap fun part => (entries part).map (·.2) := by
  have hparts : parts.flatMap (fun part => (entries part).map (·.2)) =
      (parts.zipIdx.map Prod.fst).flatMap fun part => (entries part).map (·.2) := by
    rw [List.zipIdx_map_fst]
  rw [hparts, List.flatMap_map, entriesBelow, List.map_flatMap]
  simp only [List.map_map, Function.comp_def]

/-- The places below some parts ascend if those below each part do. -/
theorem pairwise_entriesBelow
    (h : ∀ part ∈ parts, (entries part).Pairwise fun e e' => e.1 < e'.1) :
    (entriesBelow entries parts).Pairwise fun e e' => e.1 < e'.1 := by
  have hnumbers : parts.zipIdx.Pairwise fun p q => p.2 < q.2 := by
    have hrange : (parts.zipIdx.map Prod.snd).Pairwise (· < ·) := by
      rw [List.zipIdx_map_snd]
      exact List.pairwise_lt_range'
    exact List.pairwise_map.1 hrange
  rw [entriesBelow, List.pairwise_flatMap]
  constructor
  · intro p hp
    refine List.pairwise_map.2 ((h p.1 (mem_of_mem_zipIdx hp)).imp fun hlt => ?_)
    exact List.cons_lt_cons_iff.2 (Or.inr ⟨rfl, hlt⟩)
  · refine hnumbers.imp fun hlt e he e' he' => ?_
    obtain ⟨below, -, rfl⟩ := List.mem_map.1 he
    obtain ⟨below', -, rfl⟩ := List.mem_map.1 he'
    exact List.cons_lt_cons_iff.2 (Or.inl hlt)

/-- An item below some parts is one of a part, under the number of that part. -/
theorem mem_entriesBelow_iff {place : Place} {item : β} :
    (place, item) ∈ entriesBelow entries parts ↔
      Below (fun part rest item => (rest, item) ∈ entries part) parts place item := by
  rw [entriesBelow, List.mem_flatMap]
  constructor
  · rintro ⟨⟨part, i⟩, hp, he⟩
    obtain ⟨⟨rest, found⟩, hfound, heq⟩ := List.mem_map.1 he
    cases heq
    exact ⟨i, part, rest, rfl, List.mem_zipIdx_iff_getElem?.1 hp, hfound⟩
  · rintro ⟨i, part, rest, rfl, hpart, hentry⟩
    exact ⟨(part, i), List.mem_zipIdx_iff_getElem?.2 hpart,
      List.mem_map.2 ⟨(rest, item), hentry, rfl⟩⟩

end entriesBelow

/-- The items of all parts, if those of each part are enumerated. -/
theorem enumerates_flatMap {At : α → Place → β → Prop} {items : α → List β} {parts : List α}
    (h : ∀ part ∈ parts, Enumerates (At part) (items part)) :
    Enumerates (Below At parts) (parts.flatMap items) := by
  -- The entries are chosen for every part of the type, since `entriesBelow` takes a function.
  have hpart : ∀ part, ∃ entries : List (Place × β), part ∈ parts →
      entries.map (·.2) = items part ∧ entries.Pairwise (fun e e' => e.1 < e'.1) ∧
        ∀ place item, (place, item) ∈ entries ↔ At part place item := fun part => by
    by_cases hmem : part ∈ parts
    · obtain ⟨entries, hentries⟩ := h part hmem
      exact ⟨entries, fun _ => hentries⟩
    · exact ⟨[], fun hin => (hmem hin).elim⟩
  choose entries hentries using hpart
  refine ⟨entriesBelow entries parts, ?_,
    pairwise_entriesBelow fun part hmem => (hentries part hmem).2.1, fun place item => ?_⟩
  · rw [map_snd_entriesBelow]
    exact List.flatMap_congr fun part hmem => (hentries part hmem).1
  · rw [mem_entriesBelow_iff]
    constructor
    · rintro ⟨i, part, rest, rfl, hpart, hentry⟩
      exact ⟨i, part, rest, rfl, hpart,
        ((hentries part (List.mem_of_getElem? hpart)).2.2 rest item).1 hentry⟩
    · rintro ⟨i, part, rest, rfl, hpart, hat⟩
      exact ⟨i, part, rest, rfl, hpart,
        ((hentries part (List.mem_of_getElem? hpart)).2.2 rest item).2 hat⟩

/-- The items of a list stand at their numbers. -/
def ListedAt (items : List β) (place : Place) (item : β) : Prop :=
  ∃ i, place = [i] ∧ items[i]? = some item

/-- A list enumerates its own items. -/
theorem enumerates_list (items : List β) : Enumerates (ListedAt items) items := by
  have henum : Enumerates _ (items.flatMap fun item => [item]) :=
    enumerates_flatMap fun item _ => enumerates_single item
  rw [List.flatMap_singleton'] at henum
  refine henum.congr fun place item => ?_
  constructor
  · rintro ⟨i, _, _, rfl, hitem, rfl, rfl⟩
    exact ⟨i, rfl, hitem⟩
  · rintro ⟨i, rfl, hitem⟩
    exact ⟨i, item, [], rfl, hitem, rfl, rfl⟩

/-- The items of a part that has a number of its own. -/
theorem Enumerates.under {At : Place → β → Prop} {items : List β} (h : Enumerates At items)
    (n : Nat) : Enumerates (fun place item => ∃ rest, place = n :: rest ∧ At rest item) items := by
  obtain ⟨entries, rfl, hascending, hmem⟩ := h
  refine ⟨entries.map fun e => (n :: e.1, e.2), by simp, ?_, ?_⟩
  · refine List.pairwise_map.2 (hascending.imp fun hlt => ?_)
    exact List.cons_lt_cons_iff.2 (Or.inr ⟨rfl, hlt⟩)
  · intro place item
    simp only [← hmem, List.mem_map, Prod.mk.injEq, Prod.exists]
    constructor
    · rintro ⟨rest, item, hentry, rfl, rfl⟩
      exact ⟨rest, rfl, hentry⟩
    · rintro ⟨rest, rfl, hentry⟩
      exact ⟨rest, item, hentry, rfl, rfl⟩

/-- The first item of a kind in the list is the one at the least place. -/
theorem Enumerates.exists_first_iff {At : Place → β → Prop} {items : List β}
    (h : Enumerates At items) {P Q : β → Prop} :
    (∃ before item after, items = before ++ item :: after ∧ P item ∧ ∀ other ∈ before, Q other) ↔
      ∃ place item, At place item ∧ P item ∧
        ∀ place' other, At place' other → place' < place → Q other := by
  obtain ⟨entries, rfl, hascending, hmem⟩ := h
  simp only [← hmem]
  constructor
  · rintro ⟨before, item, after, hsplit, hitem, hbefore⟩
    obtain ⟨first, rest, rfl, rfl, hrest⟩ := List.map_eq_append_iff.1 hsplit
    obtain ⟨⟨place, item⟩, last, rfl, rfl, rfl⟩ := List.map_eq_cons_iff.1 hrest
    refine ⟨place, item, by simp, hitem, fun place' other hin hlt => ?_⟩
    -- Places ascend, so an item at a smaller place stands before the one that was found.
    obtain ⟨-, hafter, -⟩ := List.pairwise_append.1 hascending
    rcases List.mem_append.1 hin with hin | hin
    · exact hbefore other (List.mem_map.2 ⟨_, hin, rfl⟩)
    · rcases List.mem_cons.1 hin with heq | hin
      · cases heq
        exact (List.lt_irrefl place hlt).elim
      · exact (List.lt_asymm hlt ((List.pairwise_cons.1 hafter).1 _ hin)).elim
  · rintro ⟨place, item, hin, hitem, hbefore⟩
    obtain ⟨first, last, rfl⟩ := List.append_of_mem hin
    refine ⟨first.map (·.2), item, last.map (·.2), by simp, hitem, fun other hother => ?_⟩
    obtain ⟨⟨place', found⟩, hfound, rfl⟩ := List.mem_map.1 hother
    refine hbefore place' found (by simp [hfound]) ?_
    exact (List.pairwise_append.1 hascending).2.2 _ hfound _ List.mem_cons_self

end Enumerates

/-! ## Layouts -/

/-- What a view refers to a field for. -/
inductive Use where
  | edited
  | watched

/-- Edited references come before watched ones. -/
def Use.rank : Use → Nat
  | .edited => 0
  | .watched => 1

namespace Layout

/-- A layout refers to a field at a place, for a use. -/
inductive RefersAt : Layout → Use → Place → String → Prop where
  | field {fields : List String} {i : Nat} {ref : String} (hfield : fields[i]? = some ref) :
      RefersAt (.fieldList fields) .edited [i] ref
  | cell {columns : List String} {rows : List TableRow} {i j : Nat} {row : TableRow}
      {ref : String} (hrow : rows[i]? = some row) (hcell : row.fields[j]? = some ref) :
      RefersAt (.fieldTable columns rows) .edited [i, j] ref
  | dependency {name : String} {dependencies : List String} {i : Nat} {ref : String}
      (hdependency : dependencies[i]? = some ref) :
      RefersAt (.report name dependencies) .watched [i] ref
  | tab {tabs : List (String × List Layout)} {i j : Nat} {title : String} {items : List Layout}
      {layout : Layout} {use : Use} {place : Place} {ref : String}
      (htab : tabs[i]? = some (title, items)) (hitem : items[j]? = some layout)
      (hbelow : RefersAt layout use place ref) :
      RefersAt (.tabs tabs) use (i :: j :: place) ref

/-- A layout under a tab is smaller than the tabs. -/
theorem sizeOf_lt_of_mem_tabs {groups : List (String × List Layout)}
    {group : String × List Layout} (hgroup : group ∈ groups) {layout : Layout}
    (hlayout : layout ∈ group.2) : sizeOf layout < sizeOf (Layout.tabs groups) := by
  have houter := List.sizeOf_lt_of_mem hgroup
  have hinner := List.sizeOf_lt_of_mem hlayout
  obtain ⟨title, items⟩ := group
  simp only [Prod.mk.sizeOf_spec, Layout.tabs.sizeOf_spec] at *
  omega

/-- What holds for layouts of the three flat kinds, and for tabs if it holds for all layouts in
them, holds for all layouts. -/
theorem induction {motive : Layout → Prop} (fieldList : ∀ fields, motive (.fieldList fields))
    (fieldTable : ∀ columns rows, motive (.fieldTable columns rows))
    (report : ∀ name dependencies, motive (.report name dependencies))
    (tabs : ∀ groups : List (String × List Layout),
      (∀ group ∈ groups, ∀ layout ∈ group.2, motive layout) → motive (.tabs groups)) :
    ∀ layout, motive layout
  | .fieldList fields => fieldList fields
  | .fieldTable columns rows => fieldTable columns rows
  | .report name dependencies => report name dependencies
  | .tabs groups => tabs groups fun group _ layout _ =>
    induction fieldList fieldTable report tabs layout
termination_by layout => sizeOf layout
decreasing_by exact sizeOf_lt_of_mem_tabs ‹group ∈ groups› ‹layout ∈ group.2›

/-- The references that the walk for a use finds. -/
def refs : Use → Layout → List String
  | .edited, layout => layout.fieldRefs
  | .watched, layout => layout.reports.flatMap (·.dependencies)

/-- The fields of some layouts are the references that are edited. -/
theorem allFieldRefs_eq (layouts : List Layout) :
    allFieldRefs layouts = layouts.flatMap (refs .edited) := by
  induction layouts with
  | nil => rfl
  | cons layout rest ih => rw [allFieldRefs, ih, List.flatMap_cons, refs]

/-- The dependencies of all reports are the references that are watched. -/
theorem flatMap_allReports (layouts : List Layout) :
    (allReports layouts).flatMap (·.dependencies) = layouts.flatMap (refs .watched) := by
  induction layouts with
  | nil => rfl
  | cons layout rest ih => rw [allReports, List.flatMap_append, ih, List.flatMap_cons, refs]

/-- The fields under some tabs are those of each tab. -/
theorem tabRefs_eq (groups : List (String × List Layout)) :
    tabRefs groups = groups.flatMap fun group => allFieldRefs group.2 := by
  induction groups with
  | nil => rfl
  | cons group rest ih => rw [tabRefs, ih, List.flatMap_cons]

/-- The reports under some tabs are those of each tab. -/
theorem tabReports_eq (groups : List (String × List Layout)) :
    tabReports groups = groups.flatMap fun group => allReports group.2 := by
  induction groups with
  | nil => rfl
  | cons group rest ih => rw [tabReports, ih, List.flatMap_cons]

/-- In tabs both walks visit tab after tab, and in each tab layout after layout. -/
theorem refs_tabs (use : Use) (groups : List (String × List Layout)) :
    refs use (.tabs groups) = groups.flatMap fun group => group.2.flatMap (refs use) := by
  cases use with
  | edited => simp only [refs, fieldRefs, tabRefs_eq, allFieldRefs_eq]
  | watched =>
    simp only [refs, reports, tabReports_eq, List.flatMap_assoc, flatMap_allReports]

/-- The walk for a use finds the references of that use, in order of places. -/
theorem enumerates_refs (use : Use) (layout : Layout) :
    Enumerates (layout.RefersAt use) (refs use layout) := by
  induction layout using Layout.induction with
  | fieldList fields =>
    cases use with
    | edited =>
      refine (enumerates_list fields).congr fun place ref => ⟨?_, ?_⟩
      · rintro ⟨i, rfl, hfield⟩
        exact .field hfield
      · intro h
        cases h with
        | field hfield => exact ⟨_, rfl, hfield⟩
    | watched => exact enumerates_none.congr fun place ref => ⟨False.elim, nofun⟩
  | fieldTable columns rows =>
    cases use with
    | edited =>
      have hrows : Enumerates _ (rows.flatMap (·.fields)) :=
        enumerates_flatMap fun row _ => enumerates_list row.fields
      refine hrows.congr fun place ref => ⟨?_, ?_⟩
      · rintro ⟨i, row, _, rfl, hrow, j, rfl, hcell⟩
        exact .cell hrow hcell
      · intro h
        cases h with
        | cell hrow hcell => exact ⟨_, _, _, rfl, hrow, _, rfl, hcell⟩
    | watched => exact enumerates_none.congr fun place ref => ⟨False.elim, nofun⟩
  | report name dependencies =>
    cases use with
    | edited => exact enumerates_none.congr fun place ref => ⟨False.elim, nofun⟩
    | watched =>
      have hrefs : refs .watched (.report name dependencies) = dependencies := by
        simp [refs, reports]
      rw [hrefs]
      refine (enumerates_list dependencies).congr fun place ref => ⟨?_, ?_⟩
      · rintro ⟨i, rfl, hdependency⟩
        exact .dependency hdependency
      · intro h
        cases h with
        | dependency hdependency => exact ⟨_, rfl, hdependency⟩
  | tabs groups ih =>
    rw [refs_tabs]
    refine (enumerates_flatMap fun group hgroup =>
      enumerates_flatMap fun layout hlayout => ih group hgroup layout hlayout).congr
        fun place ref => ⟨?_, ?_⟩
    · rintro ⟨i, ⟨title, items⟩, _, rfl, htab, j, layout, rest, rfl, hitem, hbelow⟩
      exact .tab htab hitem hbelow
    · intro h
      cases h with
      | tab htab hitem hbelow =>
        exact ⟨_, _, _, rfl, htab, _, _, _, rfl, hitem, hbelow⟩

end Layout

/-! ## Views -/

/-- A view refers to a field at a place: by the use, the basic or the advanced layouts, the number
of the layout, and the place in it. -/
inductive View.RefersAt (view : View) : Use → Place → String → Prop where
  | basic {use : Use} {i : Nat} {layout : Layout} {place : Place} {ref : String}
      (hlayout : view.basic[i]? = some layout) (href : layout.RefersAt use place ref) :
      RefersAt view use (use.rank :: 0 :: i :: place) ref
  | advanced {use : Use} {i : Nat} {layout : Layout} {place : Place} {ref : String}
      (hlayout : view.advanced[i]? = some layout) (href : layout.RefersAt use place ref) :
      RefersAt view use (use.rank :: 1 :: i :: place) ref

/-- One of the views, of a name, refers to a field at a place: by the number of the view and the
place in it. -/
inductive RefersAt (views : List View) : Place → String × String → Prop where
  | view {i : Nat} {view : View} {use : Use} {place : Place} {ref : String}
      (hview : views[i]? = some view) (href : view.RefersAt use place ref) :
      RefersAt views (i :: place) (view.name, ref)

namespace View

/-- The references that the walks for a use find in a view. -/
def refs (view : View) (use : Use) : List String :=
  [view.basic, view.advanced].flatMap fun layouts => layouts.flatMap (Layout.refs use)

/-- The fields of a view are the references that it edits. -/
theorem fieldRefs_eq (view : View) : view.fieldRefs = view.refs .edited := by
  simp [fieldRefs, refs, Layout.allFieldRefs_eq]

/-- The dependencies of the reports of a view are the references that it watches. -/
theorem flatMap_reports (view : View) :
    view.reports.flatMap (·.dependencies) = view.refs .watched := by
  simp [reports, refs, List.flatMap_append, Layout.flatMap_allReports]

/-- All references of a view are those that it edits and then those that it watches. -/
theorem allRefs_eq (view : View) : view.allRefs = [Use.edited, .watched].flatMap view.refs := by
  simp [allRefs, fieldRefs_eq, flatMap_reports]

/-- The references of one use are found in order of places, all of which begin with its rank. -/
theorem enumerates_refs_below (view : View) (use : Use) :
    Enumerates (fun rest ref => view.RefersAt use (use.rank :: rest) ref) (view.refs use) := by
  refine (enumerates_flatMap fun layouts _ => enumerates_flatMap fun layout _ =>
    Layout.enumerates_refs use layout).congr fun rest ref => ⟨?_, ?_⟩
  · rintro ⟨m, layouts, _, rfl, hlayouts, i, layout, rest, rfl, hlayout, href⟩
    match m, hlayouts with
    | 0, hlayouts => cases hlayouts; exact .basic hlayout href
    | 1, hlayouts => cases hlayouts; exact .advanced hlayout href
  · intro h
    cases h with
    | basic hlayout href => exact ⟨0, _, _, rfl, rfl, _, _, _, rfl, hlayout, href⟩
    | advanced hlayout href => exact ⟨1, _, _, rfl, rfl, _, _, _, rfl, hlayout, href⟩

/-- The place of a reference tells first what the reference is for. -/
theorem RefersAt.exists_below {view : View} {use : Use} {place : Place} {ref : String}
    (h : view.RefersAt use place ref) : ∃ rest, place = use.rank :: rest := by
  cases h with
  | basic => exact ⟨_, rfl⟩
  | advanced => exact ⟨_, rfl⟩

/-- The references of one use are found in order of places. -/
theorem enumerates_refs (view : View) (use : Use) :
    Enumerates (view.RefersAt use) (view.refs use) := by
  refine ((view.enumerates_refs_below use).under use.rank).congr fun place ref => ⟨?_, ?_⟩
  · rintro ⟨rest, rfl, h⟩
    exact h
  · intro h
    obtain ⟨rest, rfl⟩ := h.exists_below
    exact ⟨rest, rfl, h⟩

/-- All references of a view are found in order of places. -/
theorem enumerates_allRefs (view : View) :
    Enumerates (fun place ref => ∃ use, view.RefersAt use place ref) view.allRefs := by
  rw [allRefs_eq]
  refine (enumerates_flatMap fun use _ => view.enumerates_refs_below use).congr
    fun place ref => ⟨?_, ?_⟩
  · rintro ⟨k, use, rest, rfl, huse, h⟩
    -- The number of a use in the list of both is its rank.
    have hk : k = use.rank := by
      match k, huse with
      | 0, huse => cases huse; rfl
      | 1, huse => cases huse; rfl
    subst hk
    exact ⟨use, h⟩
  · rintro ⟨use, h⟩
    have huse : [Use.edited, .watched][use.rank]? = some use := by cases use <;> rfl
    obtain ⟨rest, rfl⟩ := h.exists_below
    exact ⟨use.rank, use, rest, rfl, huse, h⟩

end View

/-- The references of all views, with the names of their views, are found in order of places. -/
theorem enumerates_viewRefs (views : List View) :
    Enumerates (RefersAt views)
      (views.flatMap fun view => view.allRefs.map fun ref => (view.name, ref)) := by
  refine (enumerates_flatMap fun view _ => view.enumerates_allRefs.map _).congr
    fun place item => ⟨?_, ?_⟩
  · rintro ⟨i, view, rest, rfl, hview, ref, ⟨use, href⟩, rfl⟩
    exact .view hview href
  · rintro ⟨hview, href⟩
    exact ⟨_, _, _, rfl, hview, _, ⟨_, href⟩, rfl⟩

end PanelForms
