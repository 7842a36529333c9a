import PanelForms.Json.Basic

/-!
# Agreement of values

Two values agree if they differ in the signs of zeros at most.  Writing every zero without its sign
leaves one value of all that agree with each other, so agreement is an equality of such values.

Main definitions:

- `Json.unsigned`: a value with every zero taken as the positive one.

Main results:

- Theorem `Json.agrees_iff`: values agree exactly if they are equal but for the signs of zeros.
- Theorem `Json.agreesItems_iff`: so do lists of values, item by item.
-/

namespace PanelForms

/-- The number itself, or the positive one of the two zeros. -/
def Binary64.unsigned (x : Binary64) : Binary64 :=
  if x.rank = 0 then .zero false else x

/-- Numerically equal numbers are those that are equal without the sign of zero. -/
theorem Binary64.same_iff {x y : Binary64} : x.same y = true ↔ x.unsigned = y.unsigned := by
  obtain ⟨negative, rank, hrank⟩ := x
  obtain ⟨negative', rank', hrank'⟩ := y
  simp only [same, unsigned, zero, Bool.and_eq_true, Bool.or_eq_true, beq_iff_eq]
  by_cases hzero : rank = 0
  · subst hzero
    by_cases hzero' : rank' = 0
    · simp [hzero']
    · simp [hzero', Ne.symm hzero']
  · by_cases hzero' : rank' = 0
    · simp [hzero, hzero']
    · simp [hzero, hzero', and_comm]

/-- The number, with both zeros taken as the positive one. -/
def JsonNumber.unsigned : JsonNumber → JsonNumber
  | .integer n => .integer n
  | .float x => .float x.unsigned

/-- Numbers agree exactly if they are equal without the sign of zero. -/
theorem JsonNumber.agrees_iff {m n : JsonNumber} :
    m.agrees n = true ↔ m.unsigned = n.unsigned := by
  cases m <;> cases n <;> simp [agrees, unsigned, Binary64.same_iff]

namespace Json

mutual

/-- The value, with every zero in it taken as the positive one. -/
def unsigned : Json → Json
  | .number n => .number n.unsigned
  | .array items => .array (unsignedItems items)
  | .object members => .object (unsignedMembers members)
  | .null => .null
  | .bool b => .bool b
  | .string s => .string s

/-- The items, with every zero in them taken as the positive one. -/
def unsignedItems : List Json → List Json
  | [] => []
  | a :: as => unsigned a :: unsignedItems as

/-- The members, with every zero in their values taken as the positive one. -/
def unsignedMembers : List (String × Json) → List (String × Json)
  | [] => []
  | (name, a) :: as => (name, unsigned a) :: unsignedMembers as

end

mutual

/-- Values agree exactly if they are equal but for the signs of zeros. -/
theorem agrees_iff : (a b : Json) → (a.agrees b = true ↔ a.unsigned = b.unsigned)
  | .null, b => by cases b <;> simp [agrees, unsigned]
  | .bool _, b => by cases b <;> simp [agrees, unsigned]
  | .number m, b => by cases b <;> simp [agrees, unsigned, JsonNumber.agrees_iff]
  | .string _, b => by cases b <;> simp [agrees, unsigned]
  | .array as, b => by
    cases b with
    | array bs => simpa [agrees, unsigned] using agreesItems_iff as bs
    | null | bool | number | string | object => simp [agrees, unsigned]
  | .object as, b => by
    cases b with
    | object bs => simpa [agrees, unsigned] using agreesMembers_iff as bs
    | null | bool | number | string | array => simp [agrees, unsigned]

/-- Items agree one by one. -/
theorem agreesItems_iff :
    (as bs : List Json) → (agreesItems as bs = true ↔ unsignedItems as = unsignedItems bs)
  | [], [] => by simp [agreesItems]
  | [], _ :: _ | _ :: _, [] => by simp [agreesItems, unsignedItems]
  | a :: as, b :: bs => by
    simp only [agreesItems, unsignedItems, Bool.and_eq_true, List.cons.injEq]
    exact and_congr (agrees_iff a b) (agreesItems_iff as bs)

/-- Members agree one by one, under equal names. -/
theorem agreesMembers_iff : (as bs : List (String × Json)) →
    (agreesMembers as bs = true ↔ unsignedMembers as = unsignedMembers bs)
  | [], [] => by simp [agreesMembers]
  | [], _ :: _ | _ :: _, [] => by simp [agreesMembers, unsignedMembers]
  | (m, a) :: as, (n, b) :: bs => by
    simp only [agreesMembers, unsignedMembers, Bool.and_eq_true, beq_iff_eq, List.cons.injEq,
      Prod.mk.injEq]
    exact and_congr (and_congr_right fun _ => agrees_iff a b) (agreesMembers_iff as bs)

end

end Json
end PanelForms
