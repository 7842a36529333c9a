import PanelForms.Dict
import PanelForms.Number.Binary64

/-!
# JSON values

Field values, records, schema documents and replies are JSON values.  Integers between `-2 ^ 63`
and `2 ^ 64 - 1` are kept apart from the finite binary64 numbers, and the members of an object
are listed by ascending name.

Main definitions:

- `Json`, `JsonNumber`: the value type, with decidable equality.
- `Json.agrees`: equality up to the sign of zero.
- `ModelRecord`: the named field values of one model.
-/

namespace PanelForms

/-- An integer, or a number that is not written as one. -/
inductive JsonNumber where
  | integer (n : Int)
  | float (x : Binary64)
  deriving DecidableEq

/-- A JSON value. -/
inductive Json where
  | null
  | bool (b : Bool)
  | number (n : JsonNumber)
  | string (s : String)
  | array (items : List Json)
  | object (members : List (String × Json))
  deriving Inhabited

namespace JsonNumber

/-- Integers agree with equal integers, floats with numerically equal floats, and an integer
agrees with no float. -/
def agrees : JsonNumber → JsonNumber → Bool
  | .integer m, .integer n => m == n
  | .float x, .float y => x.same y
  | _, _ => false

end JsonNumber

namespace Json

mutual

/-- Decide equality of two values. -/
def decEq : (a b : Json) → Decidable (a = b)
  | .null, .null => isTrue rfl
  | .bool a, .bool b => decidable_of_iff (a = b) (by simp)
  | .number a, .number b => decidable_of_iff (a = b) (by simp)
  | .string a, .string b => decidable_of_iff (a = b) (by simp)
  | .array as, .array bs =>
    have := decEqItems as bs
    decidable_of_iff (as = bs) (by simp)
  | .object as, .object bs =>
    have := decEqMembers as bs
    decidable_of_iff (as = bs) (by simp)
  | .null, .bool _ | .null, .number _ | .null, .string _ | .null, .array _ | .null, .object _
  | .bool _, .null | .bool _, .number _ | .bool _, .string _ | .bool _, .array _
  | .bool _, .object _ | .number _, .null | .number _, .bool _ | .number _, .string _
  | .number _, .array _ | .number _, .object _ | .string _, .null | .string _, .bool _
  | .string _, .number _ | .string _, .array _ | .string _, .object _ | .array _, .null
  | .array _, .bool _ | .array _, .number _ | .array _, .string _ | .array _, .object _
  | .object _, .null | .object _, .bool _ | .object _, .number _ | .object _, .string _
  | .object _, .array _ => isFalse (by simp)

/-- Decide equality of two item lists. -/
def decEqItems : (as bs : List Json) → Decidable (as = bs)
  | [], [] => isTrue rfl
  | [], _ :: _ => isFalse (by simp)
  | _ :: _, [] => isFalse (by simp)
  | a :: as, b :: bs =>
    have := decEq a b
    have := decEqItems as bs
    decidable_of_iff (a = b ∧ as = bs) (by simp)

/-- Decide equality of two member lists. -/
def decEqMembers : (as bs : List (String × Json)) → Decidable (as = bs)
  | [], [] => isTrue rfl
  | [], _ :: _ => isFalse (by simp)
  | _ :: _, [] => isFalse (by simp)
  | (m, a) :: as, (n, b) :: bs =>
    have := decEq a b
    have := decEqMembers as bs
    decidable_of_iff ((m = n ∧ a = b) ∧ as = bs) (by simp)

end

instance : DecidableEq Json :=
  decEq

mutual

/-- Equality of values in which the two zeros are one number. -/
def agrees : Json → Json → Bool
  | .null, .null => true
  | .bool a, .bool b => a == b
  | .number a, .number b => a.agrees b
  | .string a, .string b => a == b
  | .array as, .array bs => agreesItems as bs
  | .object as, .object bs => agreesMembers as bs
  | _, _ => false

/-- Item by item agreement. -/
def agreesItems : List Json → List Json → Bool
  | [], [] => true
  | a :: as, b :: bs => agrees a b && agreesItems as bs
  | _, _ => false

/-- Agreement of members under equal names. -/
def agreesMembers : List (String × Json) → List (String × Json) → Bool
  | [], [] => true
  | (m, a) :: as, (n, b) :: bs => m == n && agrees a b && agreesMembers as bs
  | _, _ => false

end

/-- An integer value. -/
def ofInt (n : Int) : Json :=
  .number (.integer n)

/-- The member of an object under a name. -/
def member? (name : String) : Json → Option Json
  | .object members => Entries.get? name members
  | _ => none

/-- The text of a string value. -/
def string? : Json → Option String
  | .string s => some s
  | _ => none

/-- The flag of a boolean value. -/
def bool? : Json → Option Bool
  | .bool b => some b
  | _ => none

/-- The items of an array. -/
def items? : Json → Option (List Json)
  | .array items => some items
  | _ => none

/-- Whether the value is null. -/
def isNull : Json → Bool
  | .null => true
  | _ => false

end Json

/-- The named field values of one model. -/
abbrev ModelRecord := Dict Json

/-- The dictionary of an object's members. -/
def Json.record? : Json → Option ModelRecord
  | .object members => some (Dict.ofList members)
  | _ => none

/-- A record as a JSON object. -/
def ModelRecord.toJson (record : ModelRecord) : Json :=
  .object record.entries

end PanelForms
