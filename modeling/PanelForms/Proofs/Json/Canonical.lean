import PanelForms.Json.Parser
import PanelForms.Proofs.Except

/-!
# Values that a text denotes

A value could list the members of an object in any order and more than once.  A reader writes
every member into its place, so what a text denotes lists each member once, in ascending order of
names, however the text does.

Main results:

- Definition `Json.Canonical`: the members of every object ascend by name.
- Theorem `Json.canonical_of_readValue`: what is read at the front of a text is canonical.
- Theorem `Json.canonical_of_parse`: what a whole text denotes is canonical.
-/

namespace PanelForms
namespace Json

mutual

/-- The members of every object in the value ascend by name. -/
def Canonical : Json → Prop
  | .array items => CanonicalItems items
  | .object members => Entries.Ascending members ∧ CanonicalMembers members
  | _ => True

/-- Every item of an array is canonical. -/
def CanonicalItems : List Json → Prop
  | [] => True
  | item :: rest => Canonical item ∧ CanonicalItems rest

/-- Every value of a member is canonical. -/
def CanonicalMembers : List (String × Json) → Prop
  | [] => True
  | (_, value) :: rest => Canonical value ∧ CanonicalMembers rest

end

/-- Items are canonical if each of them is. -/
theorem canonicalItems_iff {items : List Json} :
    CanonicalItems items ↔ ∀ item ∈ items, item.Canonical := by
  induction items with
  | nil => simp [CanonicalItems]
  | cons item rest ih => simp [CanonicalItems, ih]

/-- Members are canonical if the value of each of them is. -/
theorem canonicalMembers_iff {members : Entries Json} :
    CanonicalMembers members ↔ ∀ m ∈ members, m.2.Canonical := by
  induction members with
  | nil => simp [CanonicalMembers]
  | cons m rest ih =>
    obtain ⟨name, value⟩ := m
    simp [CanonicalMembers, ih]

/-- An array is canonical if its items are. -/
theorem canonical_array_iff {items : List Json} :
    (Json.array items).Canonical ↔ ∀ item ∈ items, item.Canonical := by
  rw [Canonical, canonicalItems_iff]

/-- An object is canonical if its members ascend and their values are canonical. -/
theorem canonical_object_iff {members : Entries Json} :
    (Json.object members).Canonical ↔
      Entries.Ascending members ∧ ∀ m ∈ members, m.2.Canonical := by
  rw [Canonical, canonicalMembers_iff]

/-- The members of a canonical object are canonical. -/
theorem Canonical.of_get? {members : Entries Json} {name : String} {v : Json}
    (h : (Json.object members).Canonical) (hv : Entries.get? name members = some v) :
    v.Canonical :=
  (canonical_object_iff.1 h).2 _ (Entries.mem_of_get?_eq_some hv)

/-- A member written into a canonical object leaves it canonical. -/
theorem Canonical.insert {members : Entries Json} {name : String} {v : Json}
    (h : (Json.object members).Canonical) (hv : v.Canonical) :
    (Json.object (Entries.insert name v members)).Canonical := by
  obtain ⟨hascending, hmembers⟩ := canonical_object_iff.1 h
  refine canonical_object_iff.2 ⟨hascending.insert, fun m hm => ?_⟩
  rcases Entries.mem_insert hm with rfl | hm
  · exact hv
  · exact hmembers m hm

/-! ## Reading -/

/-- A word is read as the value that it stands for. -/
theorem canonical_of_readWord {value v : Json} {word cs rest : List Char}
    (hvalue : value.Canonical) (h : readWord value word cs = .ok (v, rest)) : v.Canonical := by
  induction word generalizing cs with
  | nil =>
    cases h
    exact hvalue
  | cons w word ih =>
    cases cs with
    | nil => cases h
    | cons c cs =>
      simp only [readWord] at h
      split at h
      · exact ih h
      · cases h

/-- What the three readers owe for a number of steps: values are canonical, and so are arrays and
objects that continue canonical parts. -/
structure ReadsCanonical (fuel : Nat) : Prop where
  value : ∀ {depth cs v rest}, readValue fuel depth cs = .ok (v, rest) → v.Canonical
  items : ∀ {depth first items cs v rest}, (Json.array items).Canonical →
    readItems fuel depth first items cs = .ok (v, rest) → v.Canonical
  members : ∀ {depth first members cs v rest}, (Json.object members).Canonical →
    readMembers fuel depth first members cs = .ok (v, rest) → v.Canonical

namespace ReadsCanonical

variable {fuel : Nat}

/-- A value that is read with one more step is canonical, since its parts are. -/
theorem value_succ (ih : ReadsCanonical fuel) {depth : Nat} {cs rest : List Char} {v : Json}
    (h : readValue (fuel + 1) depth cs = .ok (v, rest)) : v.Canonical := by
  have hempty : (Json.array []).Canonical := canonical_array_iff.2 (by simp)
  have hnone : (Json.object []).Canonical :=
    canonical_object_iff.2 ⟨List.Pairwise.nil, by simp⟩
  rw [readValue] at h
  split at h
  · cases h
  · exact canonical_of_readWord (by simp [Canonical]) h
  · exact canonical_of_readWord (by simp [Canonical]) h
  · exact canonical_of_readWord (by simp [Canonical]) h
  · obtain ⟨⟨s, tail⟩, -, heq⟩ := Except.map_eq_ok_iff.1 h
    cases heq
    simp [Canonical]
  · split at h
    · cases h
    · exact ih.items hempty h
  · split at h
    · cases h
    · exact ih.members hnone h
  · split at h
    · obtain ⟨⟨n, tail⟩, -, heq⟩ := Except.map_eq_ok_iff.1 h
      cases heq
      simp [Canonical]
    · cases h

/-- Items that are read with one more step join canonical ones. -/
theorem items_succ (ih : ReadsCanonical fuel) {depth : Nat} {first : Bool} {items : List Json}
    {cs rest : List Char} {v : Json} (hitems : (Json.array items).Canonical)
    (h : readItems (fuel + 1) depth first items cs = .ok (v, rest)) : v.Canonical := by
  rw [canonical_array_iff] at hitems
  rw [readItems] at h
  split at h
  · cases h
  · cases h
    exact canonical_array_iff.2 fun item hitem => hitems item (List.mem_reverse.1 hitem)
  · dsimp only at h
    split at h
    · cases h
    · split at h
      · cases h
      · next item tail hitem =>
        refine ih.items (canonical_array_iff.2 fun other hother => ?_) h
        rcases List.mem_cons.1 hother with rfl | hother
        · exact ih.value hitem
        · exact hitems other hother

/-- Members that are read with one more step are written in their place, so that the names still
ascend. -/
theorem members_succ (ih : ReadsCanonical fuel) {depth : Nat} {first : Bool}
    {members : Entries Json} {cs rest : List Char} {v : Json}
    (hmembers : (Json.object members).Canonical)
    (h : readMembers (fuel + 1) depth first members cs = .ok (v, rest)) : v.Canonical := by
  rw [readMembers] at h
  split at h
  · cases h
  · cases h
    exact hmembers
  · dsimp only at h
    split at h
    · cases h
    · split at h
      · cases h
      · split at h
        · cases h
        · split at h
          · cases h
          · next value tail hvalue => exact ih.members (hmembers.insert (ih.value hvalue)) h
        · cases h
    · cases h

end ReadsCanonical

/-- The reader makes canonical values only, by induction on its steps. -/
theorem readsCanonical (fuel : Nat) : ReadsCanonical fuel := by
  -- The readers call each other, always with a step less.
  induction fuel with
  | zero => exact ⟨fun h => by simp [readValue] at h, fun _ h => by simp [readItems] at h,
      fun _ h => by simp [readMembers] at h⟩
  | succ fuel ih => exact ⟨ih.value_succ, ih.items_succ, ih.members_succ⟩

/-- What is read at the front of a text is canonical. -/
theorem canonical_of_readValue {fuel depth : Nat} {cs rest : List Char} {v : Json}
    (h : readValue fuel depth cs = .ok (v, rest)) : v.Canonical :=
  (readsCanonical fuel).value h

/-- What a whole text denotes is canonical. -/
theorem canonical_of_parse {text : String} {v : Json} (h : parse text = .ok v) :
    v.Canonical := by
  rw [parse] at h
  split at h
  · cases h
  · next value rest hvalue =>
    split at h
    · cases h
      exact canonical_of_readValue hvalue
    · cases h

end Json
end PanelForms
