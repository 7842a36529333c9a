import PanelForms.Proofs.Except
import PanelForms.Proofs.Template.Cutting

/-!
# Filling in a template

The references of a template and its text are found by two separate passes.  Both go through the
same placeholders from left to right, so they agree: the text exists exactly if every listed
reference has a value, the listed values stand in the places of the placeholders, and otherwise the
first placeholder that cannot be filled in is reported.

Main results:

- Definition `Template.assemble`: the pieces of a template with texts in place of its placeholders.
- Theorem `Template.interpolate_eq_map`: filling in is one traversal of the placeholders.
- Definition `Template.FilledIn`: what the two passes owe a template, a store and each other.
- Theorem `Template.interpolate_congr`: only the values of well-formed placeholders are read.
- Theorem `Template.interpolate_exact`: the text, the list and the errors are as they have to be.
-/

namespace PanelForms
namespace Template

/-! ## The text of a value -/

/-- How a value is shown: null as no text, a list or a record as JSON, and a scalar as it reads. -/
inductive ShownAs : Json → String → Prop where
  | null : ShownAs .null ""
  | bool (b : Bool) : ShownAs (.bool b) (if b then "true" else "false")
  | number (n : JsonNumber) : ShownAs (.number n) n.text
  | string (s : String) : ShownAs (.string s) s
  | array (items : List Json) : ShownAs (.array items) (Json.array items).text
  | object (members : List (String × Json)) : ShownAs (.object members) (Json.object members).text

/-- A value is put in as the text that it is shown as. -/
theorem valueText_eq_iff {v : Json} {text : String} : valueText v = text ↔ ShownAs v text := by
  constructor
  · rintro rfl
    cases v with
    | null => exact .null
    | bool b => exact .bool b
    | number n => exact .number n
    | string s => exact .string s
    | array items => exact .array items
    | object members => exact .object members
  · rintro ⟨⟩ <;> rfl

/-! ## One placeholder -/

variable {store : ModelStore} {inside text : String}

/-- A reference has a value in the store, shown as a text. -/
def Reads (store : ModelStore) (r : FieldRef) (text : String) : Prop :=
  ∃ v, store.fieldValue? r = some v ∧ ShownAs v text

/-- Why a placeholder cannot be filled in: it is malformed, or its reference has no value. -/
inductive Faulty (store : ModelStore) (inside : String) : TemplateError → Prop where
  | malformed {e : FieldRefError} (h : FieldRef.parse inside = .error e) :
      Faulty store inside (.reference e)
  | missing {r : FieldRef} (h : FieldRef.parse inside = .ok r)
      (hnone : store.fieldValue? r = none) : Faulty store inside (.missing r)

/-- A placeholder is filled exactly if it names a field with a value. -/
theorem fill_eq_ok_iff :
    fill store inside = .ok text ↔ ∃ r, FieldRef.parse inside = .ok r ∧ Reads store r text := by
  unfold fill Reads
  simp only [← valueText_eq_iff]
  cases FieldRef.parse inside with
  | error e => simp
  | ok r =>
    simp only [Except.ok.injEq, exists_eq_left']
    cases store.fieldValue? r <;> simp

/-- A placeholder is refused for what is wrong with it. -/
theorem fill_eq_error_iff {e : TemplateError} :
    fill store inside = .error e ↔ Faulty store inside e := by
  constructor
  · intro h
    unfold fill at h
    split at h
    next fault hparse =>
      cases h
      exact .malformed hparse
    next r hparse =>
      split at h
      next hnone =>
        cases h
        exact .missing hparse hnone
      next => cases h
  · rintro (hparse | ⟨hparse, hnone⟩)
    · simp [fill, hparse]
    · simp [fill, hparse, hnone]

/-! ## All placeholders -/

/-- The inside of a piece that is a placeholder. -/
def Piece.inside? : Piece → Option String
  | .char _ => none
  | .placeholder inside => some (String.ofList inside)

/-- The insides of the placeholders among some pieces, in order. -/
def insidesOf (pieces : List Piece) : List String :=
  pieces.filterMap Piece.inside?

/-- The pieces of a template, with texts in place of its placeholders, one after another. -/
def assemble : List Piece → List String → List Char
  | [], _ => []
  | .char c :: rest, texts => c :: assemble rest texts
  | .placeholder _ :: rest, texts => (texts.headD "").toList ++ assemble rest texts.tail

/-- What the scan for dependencies sees is the insides of the pieces. -/
theorem insides_eq (text : String) : insides text = insidesOf (pieces text) := by
  unfold insides insidesOf
  congr 1
  funext piece
  cases piece <;> rfl

/-- The dependencies are the insides of the pieces, each read as a reference. -/
theorem placeholders_eq_mapM (text : String) :
    placeholders text = (insidesOf (pieces text)).mapM FieldRef.parse := by
  rw [placeholders, FieldRef.parseAll_eq_mapM, insides_eq]

/-- Filling pieces in is one traversal of their placeholders. -/
theorem fillPieces_eq_map (store : ModelStore) (pieces : List Piece) :
    fillPieces store pieces = ((insidesOf pieces).mapM (fill store)).map (assemble pieces) := by
  induction pieces with
  | nil => rfl
  | cons piece rest ih =>
    cases piece with
    | char c =>
      have hinsides : insidesOf (.char c :: rest) = insidesOf rest := rfl
      rw [fillPieces, ih, hinsides]
      cases (insidesOf rest).mapM (fill store) <;> rfl
    | placeholder inside =>
      have hinsides : insidesOf (.placeholder inside :: rest) =
          String.ofList inside :: insidesOf rest := rfl
      rw [fillPieces, ih, hinsides, List.mapM_cons]
      cases fill store (String.ofList inside) with
      | error e => rfl
      | ok text => cases (insidesOf rest).mapM (fill store) <;> rfl

/-- A template is filled piece by piece, and stops at the first inside that cannot be. -/
theorem interpolate_eq_map (store : ModelStore) (text : String) :
    interpolate store text = ((insidesOf (pieces text)).mapM (fill store)).map fun texts =>
      String.ofList (assemble (pieces text) texts) := by
  rw [interpolate, fillPieces_eq_map]
  cases (insidesOf (pieces text)).mapM (fill store) <;> rfl

/-- All placeholders are filled in exactly if they are well formed and their references have
values; the texts are those of the values. -/
theorem mapM_fill_eq_ok_iff {insides texts : List String} :
    insides.mapM (fill store) = .ok texts ↔
      ∃ refs, insides.mapM FieldRef.parse = .ok refs ∧ List.Forall₂ (Reads store) refs texts := by
  simp only [Except.mapM_eq_ok_iff, fill_eq_ok_iff]
  constructor
  · intro h
    induction h with
    | nil => exact ⟨[], .nil, .nil⟩
    | cons hhead _ ih =>
      obtain ⟨r, hparse, hreads⟩ := hhead
      obtain ⟨refs, hrefs, hrest⟩ := ih
      exact ⟨r :: refs, .cons hparse hrefs, .cons hreads hrest⟩
  · rintro ⟨refs, hrefs, htexts⟩
    induction hrefs generalizing texts with
    | nil =>
      cases htexts
      exact .nil
    | cons hparse _ ih =>
      cases htexts with
      | cons hreads hrest => exact .cons ⟨_, hparse, hreads⟩ (ih hrest)

/-- A template is filled exactly if all of its references are read and have values. -/
theorem interpolate_eq_ok_iff {result : String} :
    interpolate store text = .ok result ↔ ∃ refs texts, placeholders text = .ok refs ∧
      List.Forall₂ (Reads store) refs texts ∧
        result = String.ofList (assemble (pieces text) texts) := by
  rw [interpolate_eq_map, placeholders_eq_mapM, Except.map_eq_ok_iff]
  simp only [mapM_fill_eq_ok_iff]
  constructor
  · rintro ⟨texts, ⟨refs, hrefs, htexts⟩, rfl⟩
    exact ⟨refs, texts, hrefs, htexts, rfl⟩
  · rintro ⟨refs, texts, hrefs, htexts, rfl⟩
    exact ⟨texts, ⟨refs, hrefs, htexts⟩, rfl⟩

/-- Several references have values exactly if they have texts. -/
theorem exists_forall₂_reads_iff {refs : List FieldRef} :
    (∃ texts, List.Forall₂ (Reads store) refs texts) ↔
      ∀ r ∈ refs, ∃ v, store.fieldValue? r = some v := by
  induction refs with
  | nil => exact iff_of_true ⟨[], .nil⟩ nofun
  | cons r rest ih =>
    rw [List.forall_mem_cons, ← ih]
    constructor
    · rintro ⟨_, hreads⟩
      cases hreads with
      | cons hhead hrest =>
        obtain ⟨v, hv, -⟩ := hhead
        exact ⟨⟨v, hv⟩, _, hrest⟩
    · rintro ⟨⟨v, hv⟩, texts, hrest⟩
      exact ⟨valueText v :: texts, .cons ⟨v, hv, valueText_eq_iff.1 rfl⟩ hrest⟩

/-- A template is refused for its first inside that cannot be filled. -/
theorem interpolate_eq_error_iff {e : TemplateError} :
    interpolate store text = .error e ↔ ∃ before inside after,
      insidesOf (pieces text) = before ++ inside :: after ∧
        (∀ other ∈ before, ∀ fault, ¬ Faulty store other fault) ∧ Faulty store inside e := by
  have hfilled : ∀ other, (∃ t, fill store other = .ok t) ↔ ∀ fault, ¬ Faulty store other fault := by
    intro other
    simp only [← fill_eq_error_iff]
    cases fill store other <;> simp
  have hmap : interpolate store text = .error e ↔
      (insidesOf (pieces text)).mapM (fill store) = .error e := by
    rw [interpolate_eq_map]
    cases (insidesOf (pieces text)).mapM (fill store) <;> simp [Except.map]
  rw [hmap, Except.mapM_eq_error_iff]
  simp only [hfilled, fill_eq_error_iff]

/-- Only the values of well-formed placeholders are read, also where another one is malformed. -/
theorem interpolate_congr {other : ModelStore}
    (h : ∀ inside ∈ insidesOf (pieces text), ∀ r, FieldRef.parse inside = .ok r →
      other.fieldValue? r = store.fieldValue? r) :
    interpolate other text = interpolate store text := by
  have hfill : ∀ inside ∈ insidesOf (pieces text), fill other inside = fill store inside := by
    intro inside hinside
    unfold fill
    split
    next => rfl
    next r hparse => rw [h inside hinside r hparse]
  rw [interpolate_eq_map, interpolate_eq_map, Except.mapM_congr hfill]

/-! ## The two passes -/

/-- What the text and the references of a template owe the store, the pieces of the template, and
each other. -/
structure FilledIn (store : ModelStore) (text : String) (pieces : List Piece) : Prop where
  /-- The list of references, if there is one, holds the reference of every placeholder in order. -/
  listed : ∀ refs, placeholders text = .ok refs ↔
    List.Forall₂ (fun inside r => FieldRef.parse inside = .ok r) (insidesOf pieces) refs
  /-- There is a text exactly if there is a list, and all references in it have values. -/
  succeeds : (∃ result, interpolate store text = .ok result) ↔
    ∃ refs, placeholders text = .ok refs ∧ ∀ r ∈ refs, ∃ v, store.fieldValue? r = some v
  /-- The text of each listed reference stands in the place of its placeholder, and all other
  characters are kept. -/
  result : ∀ refs texts, placeholders text = .ok refs → List.Forall₂ (Reads store) refs texts →
    interpolate store text = .ok (String.ofList (assemble pieces texts))
  /-- Otherwise the first placeholder that cannot be filled in is reported. -/
  fails : ∀ e, interpolate store text = .error e ↔ ∃ before inside after,
    insidesOf pieces = before ++ inside :: after ∧
      (∀ other ∈ before, ∀ fault, ¬ Faulty store other fault) ∧ Faulty store inside e
  /-- No other values are read than those of the listed references. -/
  reads_listed : ∀ other : ModelStore, ∀ refs, placeholders text = .ok refs →
    (∀ r ∈ refs, other.fieldValue? r = store.fieldValue? r) →
      interpolate other text = interpolate store text

/-- Every template is filled in by its pieces. -/
theorem filledIn_pieces (store : ModelStore) (text : String) :
    FilledIn store text (pieces text) where
  listed refs := by rw [placeholders_eq_mapM, Except.mapM_eq_ok_iff]
  succeeds := by
    simp only [interpolate_eq_ok_iff, ← exists_forall₂_reads_iff]
    constructor
    · rintro ⟨_, refs, texts, hrefs, htexts, -⟩
      exact ⟨refs, hrefs, texts, htexts⟩
    · rintro ⟨refs, hrefs, texts, htexts⟩
      exact ⟨_, refs, texts, hrefs, htexts, rfl⟩
  result refs texts hrefs htexts := interpolate_eq_ok_iff.2 ⟨refs, texts, hrefs, htexts, rfl⟩
  fails _ := interpolate_eq_error_iff
  reads_listed other refs hrefs hsame := by
    refine interpolate_congr fun inside hinside r hparse => ?_
    rw [placeholders_eq_mapM] at hrefs
    obtain ⟨found, hfound, hresult⟩ := Except.exists_of_mem_of_mapM_eq_ok hrefs hinside
    rw [hparse] at hresult
    cases hresult
    exact hsame r hfound

/-- Every template has one way of being cut, and the two passes agree on the pieces. -/
theorem interpolate_exact (store : ModelStore) (text : String) :
    ∃ pieces, (∀ other, Cut text.toList other ↔ other = pieces) ∧ FilledIn store text pieces := by
  refine ⟨pieces text, fun other => ?_, filledIn_pieces store text⟩
  rw [← piecesFrom_eq_iff, eq_comm]
  rfl

end Template
end PanelForms
