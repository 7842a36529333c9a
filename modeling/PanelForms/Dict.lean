/-!
# Name-ordered dictionaries

Models, fields, records and revisions are all looked up by name and listed in ascending order
of names.  A `Dict` keeps its entries strictly ascending, so two dictionaries with the same
look-ups are equal and every listing has one order.

Main definitions:

- `Entries.insert`, `Entries.erase`: the operations on plain entry lists, shared with JSON
  objects.
- `Dict`: an entry list together with the proof that its names ascend.
- `Dict.get?_insert`, `Dict.ext_get?`: look-up after a write, and extensionality.
- `Dict.mem_names_iff`, `Dict.pairwise_names`: the names are those with a value, in order.
-/

namespace PanelForms

/-- A list of named values. -/
abbrev Entries (α : Type) := List (String × α)

namespace Entries

variable {α β : Type}

/-- The names ascend strictly. -/
def Ascending (es : Entries α) : Prop :=
  es.Pairwise (fun a b => a.1 < b.1)

/-- The value of the first entry with this name. -/
def get? (name : String) : Entries α → Option α
  | [] => none
  | (n, v) :: rest => if n = name then some v else get? name rest

/-- Write a value under a name: in place if the name is there, before the first greater name
otherwise. -/
def insert (name : String) (value : α) : Entries α → Entries α
  | [] => [(name, value)]
  | (n, v) :: rest =>
    if name < n then (name, value) :: (n, v) :: rest
    else if n = name then (name, value) :: rest
    else (n, v) :: insert name value rest

/-- Remove every entry with this name. -/
def erase (name : String) (es : Entries α) : Entries α :=
  es.filter (fun e => e.1 ≠ name)

/-- Write the entries one after another, so the last value of a repeated name stays. -/
def ofList (es : List (String × α)) : Entries α :=
  es.foldl (fun acc e => insert e.1 e.2 acc) []

/-- Change every value and keep the names. -/
def mapValues (f : String → α → β) (es : Entries α) : Entries β :=
  es.map (fun e => (e.1, f e.1 e.2))

/-- A write adds no entry but the new one. -/
theorem mem_insert {name : String} {value : α} {es : Entries α} {e : String × α}
    (h : e ∈ insert name value es) : e = (name, value) ∨ e ∈ es := by
  induction es with
  | nil => simpa [insert] using h
  | cons hd tl ih =>
    simp only [insert] at h
    split at h
    · rcases List.mem_cons.1 h with h | h
      · exact Or.inl h
      · exact Or.inr h
    · split at h
      · rcases List.mem_cons.1 h with h | h
        · exact Or.inl h
        · exact Or.inr (List.mem_cons_of_mem _ h)
      · rcases List.mem_cons.1 h with h | h
        · exact Or.inr (h ▸ List.mem_cons_self)
        · rcases ih h with h | h
          · exact Or.inl h
          · exact Or.inr (List.mem_cons_of_mem _ h)

/-- A write keeps the names ascending. -/
theorem Ascending.insert {name : String} {value : α} {es : Entries α} (h : Ascending es) :
    Ascending (insert name value es) := by
  induction es with
  | nil => simp [Entries.insert, Ascending]
  | cons hd tl ih =>
    unfold Ascending at h
    rw [List.pairwise_cons] at h
    simp only [Entries.insert]
    split
    · next hlt =>
      refine List.pairwise_cons.2 ⟨?_, List.pairwise_cons.2 h⟩
      intro b hb
      rcases List.mem_cons.1 hb with hb | hb
      · exact hb ▸ hlt
      · exact String.lt_trans hlt (h.1 b hb)
    · next hnlt =>
      split
      · next heq =>
        refine List.pairwise_cons.2 ⟨?_, h.2⟩
        intro b hb
        exact heq ▸ h.1 b hb
      · next hne =>
        refine List.pairwise_cons.2 ⟨?_, ih h.2⟩
        intro b hb
        rcases mem_insert hb with hb | hb
        · subst hb
          rcases Decidable.em (hd.1 < name) with hlt | hge
          · exact hlt
          · exact absurd (String.le_antisymm (String.not_lt.1 hnlt) (String.not_lt.1 hge)) hne
        · exact h.1 b hb

theorem Ascending.erase {name : String} {es : Entries α} (h : Ascending es) :
    Ascending (erase name es) :=
  List.Pairwise.filter _ h

/-- Mapping the values keeps the names ascending. -/
theorem Ascending.mapValues {f : String → α → β} {es : Entries α} (h : Ascending es) :
    Ascending (mapValues f es) :=
  List.Pairwise.map _ (fun _ _ hab => hab) h

/-- Writing some entries one after the other keeps the names ascending. -/
theorem ascending_foldl (es : List (String × α)) (acc : Entries α) (h : Ascending acc) :
    Ascending (es.foldl (fun acc e => insert e.1 e.2 acc) acc) := by
  induction es generalizing acc with
  | nil => exact h
  | cons e es ih => exact ih _ h.insert

theorem ascending_ofList (es : List (String × α)) : Ascending (ofList es) :=
  ascending_foldl es [] List.Pairwise.nil

@[simp]
theorem get?_nil (name : String) : get? name ([] : Entries α) = none :=
  rfl

/-- Look-up after a write, with no assumption on the order of the entries. -/
theorem get?_insert (name other : String) (value : α) (es : Entries α) :
    get? other (insert name value es) = if name = other then some value else get? other es := by
  induction es with
  | nil => simp [insert, get?]
  | cons hd tl ih =>
    obtain ⟨n, v⟩ := hd
    simp only [insert]
    split
    · simp [get?]
    · split
      · next heq => subst heq; by_cases h : n = other <;> simp [get?, h]
      · next hne =>
        by_cases h : n = other
        · have hno : ¬ name = other := fun hn => hne (h.trans hn.symm)
          simp [get?, h, hno]
        · simp [get?, h, ih]

/-- Look-up after a name was forgotten, with no assumption on the order of the entries. -/
theorem get?_erase (name other : String) (es : Entries α) :
    get? other (erase name es) = if name = other then none else get? other es := by
  induction es with
  | nil => simp [erase, get?]
  | cons hd tl ih =>
    obtain ⟨n, v⟩ := hd
    by_cases hn : n = name
    · have hstep : erase name ((n, v) :: tl) = erase name tl := by simp [erase, hn]
      subst hn
      rw [hstep, ih]
      by_cases h : n = other <;> simp [get?, h]
    · have hstep : erase name ((n, v) :: tl) = (n, v) :: erase name tl := by simp [erase, hn]
      rw [hstep]
      by_cases h : n = other
      · have hno : ¬ name = other := fun hh => hn (h.trans hh.symm)
        simp [get?, h, hno]
      · simp only [get?, h, if_false, ih]

/-- Look-up finds the mapped value. -/
theorem get?_mapValues (f : String → α → β) (name : String) (es : Entries α) :
    get? name (mapValues f es) = (get? name es).map (f name) := by
  induction es with
  | nil => rfl
  | cons hd tl ih =>
    obtain ⟨n, v⟩ := hd
    by_cases h : n = name
    · simp [mapValues, get?, h]
    · simpa [mapValues, get?, h] using ih

/-- Every entry is found under its name, since no other one has that name. -/
theorem get?_eq_some_of_mem {es : Entries α} (h : Ascending es) {name : String} {value : α}
    (hm : (name, value) ∈ es) : get? name es = some value := by
  induction es with
  | nil => simp at hm
  | cons hd tl ih =>
    obtain ⟨n, v⟩ := hd
    rw [Ascending, List.pairwise_cons] at h
    rcases List.mem_cons.1 hm with hm | hm
    · cases hm
      simp [get?]
    · have hlt := h.1 _ hm
      have hne : n ≠ name := fun he => String.lt_irrefl name (he ▸ hlt)
      simp [get?, hne, ih h.2 hm]

/-- What is found is an entry. -/
theorem mem_of_get?_eq_some {es : Entries α} {name : String} {value : α}
    (h : get? name es = some value) : (name, value) ∈ es := by
  induction es with
  | nil => simp [get?] at h
  | cons hd tl ih =>
    obtain ⟨n, v⟩ := hd
    simp only [get?] at h
    split at h
    · next heq => subst heq; cases h; exact List.mem_cons_self
    · exact List.mem_cons_of_mem _ (ih h)

/-- Nothing is found under a name exactly if no entry has it. -/
theorem get?_eq_none_iff {name : String} {es : Entries α} :
    get? name es = none ↔ ∀ e ∈ es, e.1 ≠ name := by
  induction es with
  | nil => simp
  | cons hd tl ih =>
    obtain ⟨n, v⟩ := hd
    by_cases h : n = name
    · simp [get?, h]
    · simp [get?, h, ih]

/-- Dropping entries and mapping the others keeps the names ascending. -/
theorem Ascending.filterMap (f : String → α → Option β) {es : Entries α} (h : Ascending es) :
    Ascending (es.filterMap fun e => (f e.1 e.2).map fun v => (e.1, v)) := by
  refine List.Pairwise.filterMap _ (fun a a' hlt b hb b' hb' => ?_) h
  obtain ⟨v, -, rfl⟩ := Option.map_eq_some_iff.1 hb
  obtain ⟨v', -, rfl⟩ := Option.map_eq_some_iff.1 hb'
  exact hlt

/-- Look-up among the entries that a function keeps. -/
theorem get?_filterMap (f : String → α → Option β) {es : Entries α} (h : Ascending es)
    (name : String) :
    get? name (es.filterMap fun e => (f e.1 e.2).map fun v => (e.1, v)) =
      (get? name es).bind (f name) := by
  induction es with
  | nil => rfl
  | cons hd tl ih =>
    obtain ⟨n, v⟩ := hd
    obtain ⟨hlt, htl⟩ := List.pairwise_cons.1 h
    have hrest := ih htl
    by_cases hn : n = name
    · subst hn
      cases hv : f n v with
      | some w => simp [get?, hv]
      | none =>
        -- The name is not repeated, so no later entry stands in for the one left out.
        have hnone : get? n tl = none :=
          get?_eq_none_iff.2 fun e he heq => String.lt_irrefl n (heq ▸ hlt e he)
        rw [hnone] at hrest
        simpa [get?, hv] using hrest
    · cases hv : f n v <;> simpa [get?, hn, hv] using hrest

/-- Ascending entry lists with the same look-ups are equal. -/
theorem Ascending.ext {es fs : Entries α} (he : Ascending es) (hf : Ascending fs)
    (h : ∀ name, get? name es = get? name fs) : es = fs := by
  induction es generalizing fs with
  | nil =>
    cases fs with
    | nil => rfl
    | cons hd tl => have := h hd.1; simp [get?] at this
  | cons hd tl ih =>
    obtain ⟨n, v⟩ := hd
    cases fs with
    | nil => have := h n; simp [get?] at this
    | cons hd' tl' =>
      obtain ⟨n', v'⟩ := hd'
      have he' := List.pairwise_cons.1 he
      have hf' := List.pairwise_cons.1 hf
      have hn : n = n' := by
        have h1 : (n, v) ∈ (n', v') :: tl' :=
          mem_of_get?_eq_some ((h n).symm.trans (by simp [get?]))
        have h2 : (n', v') ∈ (n, v) :: tl :=
          mem_of_get?_eq_some ((h n').trans (by simp [get?]))
        rcases List.mem_cons.1 h1 with h1 | h1
        · cases h1; rfl
        · rcases List.mem_cons.1 h2 with h2 | h2
          · cases h2; rfl
          · exact absurd (hf'.1 _ h1) (String.lt_asymm (he'.1 _ h2))
      subst hn
      have hv : v = v' := by simpa [get?] using h n
      subst hv
      congr 1
      refine ih he'.2 hf'.2 fun name => ?_
      by_cases hne : n = name
      · subst hne
        have notMem : ∀ l : Entries α, (∀ a ∈ l, n < a.1) → get? n l = none := by
          intro l hl
          cases hg : get? n l with
          | none => rfl
          | some w => exact absurd (hl _ (mem_of_get?_eq_some hg)) (String.lt_irrefl n)
        rw [notMem tl he'.1, notMem tl' hf'.1]
      · simpa [get?, hne] using h name

/-- A name greater than all others is written at the end. -/
theorem insert_eq_append {name : String} {value : α} {es : Entries α}
    (h : ∀ e ∈ es, e.1 < name) : insert name value es = es ++ [(name, value)] := by
  induction es with
  | nil => rfl
  | cons hd tl ih =>
    have hlt : hd.1 < name := h hd List.mem_cons_self
    have hnlt : ¬ name < hd.1 := String.lt_asymm hlt
    have hne : hd.1 ≠ name := fun he => String.lt_irrefl name (he ▸ hlt)
    have htl : ∀ e ∈ tl, e.1 < name := fun e he => h e (List.mem_cons_of_mem _ he)
    simp [insert, hnlt, hne, ih htl]

/-- Writing ascending entries after smaller ones appends them. -/
theorem foldl_insert_eq_append {acc es : Entries α} (h : Ascending (acc ++ es)) :
    es.foldl (fun acc e => insert e.1 e.2 acc) acc = acc ++ es := by
  induction es generalizing acc with
  | nil => simp
  | cons e es ih =>
    have hlast : ∀ a ∈ acc, a.1 < e.1 := by
      intro a ha
      exact (List.pairwise_append.1 h).2.2 a ha e List.mem_cons_self
    rw [List.foldl_cons, insert_eq_append hlast]
    rw [ih (by simpa using h)]
    simp

/-- Entries in ascending order are kept as they are. -/
theorem Ascending.ofList_eq {es : Entries α} (h : Ascending es) : ofList es = es := by
  have hnil : Ascending ([] ++ es) := by simpa using h
  simpa [ofList] using foldl_insert_eq_append hnil

end Entries

/-- Named values in strictly ascending order of names. -/
structure Dict (α : Type) where
  entries : Entries α
  ascending : Entries.Ascending entries := by exact List.Pairwise.nil

namespace Dict

variable {α β : Type}

instance [DecidableEq α] : DecidableEq (Dict α) := fun a b =>
  if h : a.entries = b.entries then
    isTrue (by cases a; cases b; cases h; rfl)
  else
    isFalse (fun he => h (congrArg Dict.entries he))

instance : Inhabited (Dict α) :=
  ⟨⟨[], List.Pairwise.nil⟩⟩

/-- The dictionary with no entry. -/
def empty : Dict α :=
  ⟨[], List.Pairwise.nil⟩

/-- The value under a name. -/
def get? (d : Dict α) (name : String) : Option α :=
  Entries.get? name d.entries

/-- Whether the name has a value. -/
def contains (d : Dict α) (name : String) : Bool :=
  (d.get? name).isSome

/-- Write a value under a name. -/
def insert (d : Dict α) (name : String) (value : α) : Dict α :=
  ⟨Entries.insert name value d.entries, d.ascending.insert⟩

/-- Forget a name. -/
def erase (d : Dict α) (name : String) : Dict α :=
  ⟨Entries.erase name d.entries, d.ascending.erase⟩

/-- The dictionary of a list of entries; the last value of a repeated name stays. -/
def ofList (es : List (String × α)) : Dict α :=
  ⟨Entries.ofList es, Entries.ascending_ofList es⟩

/-- Change every value and keep the names. -/
def map (f : String → α → β) (d : Dict α) : Dict β :=
  ⟨Entries.mapValues f d.entries, d.ascending.mapValues⟩

/-- The names in ascending order. -/
def names (d : Dict α) : List String :=
  d.entries.map (·.1)

/-- The number of entries. -/
def size (d : Dict α) : Nat :=
  d.entries.length

/-- Whether there is no entry. -/
def isEmpty (d : Dict α) : Bool :=
  d.entries.isEmpty

/-- Keep the entries whose value the function keeps. -/
def filterMap (f : String → α → Option β) (d : Dict α) : Dict β :=
  ofList (d.entries.filterMap (fun e => (f e.1 e.2).map (fun v => (e.1, v))))

/-- Two dictionaries with the same look-ups are equal. -/
theorem ext_get? {d e : Dict α} (h : ∀ name, d.get? name = e.get? name) : d = e := by
  have he : d.entries = e.entries := d.ascending.ext e.ascending h
  cases d
  cases e
  cases he
  rfl

@[simp]
theorem get?_empty (name : String) : (empty : Dict α).get? name = none :=
  rfl

/-- Look-up after a write. -/
theorem get?_insert (d : Dict α) (name other : String) (value : α) :
    (d.insert name value).get? other = if name = other then some value else d.get? other :=
  Entries.get?_insert name other value d.entries

@[simp]
theorem get?_insert_self (d : Dict α) (name : String) (value : α) :
    (d.insert name value).get? name = some value := by
  simp [get?_insert]

/-- Writing the value that is there already changes nothing. -/
theorem insert_of_get? {d : Dict α} {name : String} {value : α} (h : d.get? name = some value) :
    d.insert name value = d := by
  refine ext_get? fun other => ?_
  rw [get?_insert]
  split
  next hname => rw [← hname, h]
  next => rfl

/-- A later write replaces an earlier one under the same name. -/
theorem insert_insert (d : Dict α) (name : String) (value value' : α) :
    (d.insert name value).insert name value' = d.insert name value' := by
  refine ext_get? fun other => ?_
  by_cases hname : name = other <;> simp [get?_insert, hname]

/-- Writes under two names may be made in either order. -/
theorem insert_comm {name name' : String} (h : name ≠ name') (d : Dict α) (value value' : α) :
    (d.insert name value).insert name' value' = (d.insert name' value').insert name value := by
  refine ext_get? fun other => ?_
  simp only [get?_insert]
  by_cases hname : name = other
  · have hne : name' ≠ other := fun he => h (hname.trans he.symm)
    simp [hname, hne]
  · simp [hname]

theorem get?_erase (d : Dict α) (name other : String) :
    (d.erase name).get? other = if name = other then none else d.get? other :=
  Entries.get?_erase name other d.entries

theorem get?_map (f : String → α → β) (d : Dict α) (name : String) :
    (d.map f).get? name = (d.get? name).map (f name) :=
  Entries.get?_mapValues f name d.entries

/-- Look-up finds exactly the entries. -/
theorem get?_eq_some_iff (d : Dict α) (name : String) (value : α) :
    d.get? name = some value ↔ (name, value) ∈ d.entries :=
  ⟨Entries.mem_of_get?_eq_some, Entries.get?_eq_some_of_mem d.ascending⟩

/-- A name is there exactly if it has a value. -/
theorem contains_eq_true_iff {d : Dict α} {name : String} :
    d.contains name = true ↔ ∃ value, d.get? name = some value :=
  Option.isSome_iff_exists

theorem contains_insert (d : Dict α) (name other : String) (value : α) :
    (d.insert name value).contains other = true ↔ name = other ∨ d.contains other = true := by
  by_cases h : name = other <;> simp [contains, get?_insert, h]

theorem contains_map (f : String → α → β) (d : Dict α) (name : String) :
    (d.map f).contains name = d.contains name := by
  simp [contains, get?_map]

/-- The names are those that have a value. -/
theorem mem_names_iff {d : Dict α} {name : String} :
    name ∈ d.names ↔ d.contains name = true := by
  rw [contains_eq_true_iff, names, List.mem_map]
  constructor
  · rintro ⟨⟨n, value⟩, hm, rfl⟩
    exact ⟨value, (d.get?_eq_some_iff n value).2 hm⟩
  · rintro ⟨value, h⟩
    exact ⟨(name, value), (d.get?_eq_some_iff name value).1 h, rfl⟩

/-- The names ascend strictly. -/
theorem pairwise_names (d : Dict α) : d.names.Pairwise (· < ·) :=
  List.pairwise_map.2 d.ascending

/-- No name is listed twice. -/
theorem nodup_names (d : Dict α) : d.names.Nodup := by
  refine d.pairwise_names.imp ?_
  rintro a b hlt rfl
  exact String.lt_irrefl a hlt

theorem names_map (f : String → α → β) (d : Dict α) : (d.map f).names = d.names := by
  simp [names, map, Entries.mapValues]

/-- Entries that ascend make up a dictionary as they are. -/
theorem entries_ofList {es : List (String × α)} (h : Entries.Ascending es) :
    (ofList es).entries = es :=
  h.ofList_eq

end Dict

end PanelForms
