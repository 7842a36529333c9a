import PanelForms.Json.Basic

/-!
# Shapes of schema documents

A document is read by shape: each place demands a string, a list, a table or a record.  A record
may also be written as the list of its members in the order of their declaration, and then members
at the end may be left out.  Members that are not declared are ignored in an object.

Main definitions:

- `Shape.members?`: the declared members of a record.
- `Shape.required?`, `Shape.orElse?`, `Shape.optional?`: the three kinds of members.
- `Json.depth`: the nesting of a value.
-/

namespace PanelForms

namespace Json

mutual

/-- The number of containers that are open at the deepest place of a value. -/
def depth : Json → Nat
  | .array items => depthOfItems items + 1
  | .object members => depthOfMembers members + 1
  | _ => 0

/-- The greatest depth of the items of an array. -/
def depthOfItems : List Json → Nat
  | [] => 0
  | item :: rest => max (depth item) (depthOfItems rest)

/-- The greatest depth of the members of an object. -/
def depthOfMembers : List (String × Json) → Nat
  | [] => 0
  | (_, value) :: rest => max (depth value) (depthOfMembers rest)

end

end Json

namespace Shape

/-- The declared members of a record: looked up by name in an object, taken by place from an
array that has no more items than there are members. -/
def members? (declared : List String) : Json → Option (List (Option Json))
  | .object members => some (declared.map fun name => Entries.get? name members)
  | .array items =>
    if items.length ≤ declared.length then
      some (items.map some ++ List.replicate (declared.length - items.length) none)
    else none
  | _ => none

/-- A string. -/
def string? : Json → Option String :=
  Json.string?

/-- A list of one shape. -/
def list? {α : Type} (read : Json → Option α) : Json → Option (List α)
  | .array items => items.mapM read
  | _ => none

/-- Named values of one shape. -/
def table? {α : Type} (read : Json → Option α) : Json → Option (Dict α)
  | .object members =>
    (members.mapM fun m => (read m.2).map fun value => (m.1, value)).map Dict.ofList
  | _ => none

/-- A member that must be there. -/
def required? {α : Type} (read : Json → Option α) (member : Option Json) : Option α :=
  member.bind read

/-- A member with a value of its own when it is absent. -/
def orElse? {α : Type} (absent : α) (read : Json → Option α) : Option Json → Option α
  | none => some absent
  | some v => read v

/-- A member that may be absent or null. -/
def optional? {α : Type} (read : Json → Option α) : Option Json → Option (Option α)
  | none | some .null => some none
  | some v => (read v).map some

end Shape
end PanelForms
