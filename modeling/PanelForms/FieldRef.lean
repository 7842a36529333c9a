import PanelForms.Text.Quoted

/-!
# Field references

A reference names one field of one model as `model.field`.  The first point separates the two, so
a field name may hold further points and a model name none.

Main definitions:

- `FieldRef`: a model name and a field name.
- `FieldRef.parse`: the reference that a text denotes.
- `FieldRef.text`: the text of a reference.
- `FieldRef.parseAll`, `FieldRef.firstOccurrences`: several references, and each of them once.
-/

namespace PanelForms

/-- A pointer to one field of one model. -/
structure FieldRef where
  model : String
  field : String
  deriving DecidableEq

/-- Why a text is not a reference. -/
inductive FieldRefError where
  | missingSeparator (text : String)
  | emptyModel (text : String)
  | emptyField (text : String)
  deriving DecidableEq

namespace FieldRefError

/-- What is reported. -/
def message : FieldRefError → String
  | .missingSeparator text =>
    "dependency " ++ Text.quoted text ++ " is not of the form \"model.field\""
  | .emptyModel text => "dependency " ++ Text.quoted text ++ " has an empty model name"
  | .emptyField text => "dependency " ++ Text.quoted text ++ " has an empty field name"

end FieldRefError

namespace FieldRef

/-- The characters before the first point and those after it, if there is a point. -/
def splitAtPoint : List Char → Option (List Char × List Char)
  | [] => none
  | c :: rest =>
    if c = '.' then some ([], rest)
    else (splitAtPoint rest).map fun (before, after) => (c :: before, after)

/-- The reference that a text denotes. -/
def parse (text : String) : Except FieldRefError FieldRef :=
  match splitAtPoint text.toList with
  | none => .error (.missingSeparator text)
  | some (model, field) =>
    if model.isEmpty then .error (.emptyModel text)
    else if field.isEmpty then .error (.emptyField text)
    else .ok ⟨String.ofList model, String.ofList field⟩

/-- The reference that a text denotes, if it denotes one. -/
def parse? (text : String) : Option FieldRef :=
  (parse text).toOption

/-- The text of a reference. -/
def text (r : FieldRef) : String :=
  r.model ++ "." ++ r.field

/-- Order by model name, then by field name. -/
def before (r s : FieldRef) : Bool :=
  r.model < s.model || (r.model == s.model && r.field < s.field)

/-- Put a reference into an ascending list, unless it is there. -/
def insertInto (r : FieldRef) : List FieldRef → List FieldRef
  | [] => [r]
  | s :: rest =>
    if r = s then s :: rest
    else if r.before s then r :: s :: rest
    else s :: insertInto r rest

/-- The distinct references among some, in ascending order. -/
def ascending (refs : List FieldRef) : List FieldRef :=
  refs.foldl (fun sorted r => r.insertInto sorted) []

/-- Parse several references; the first one that is malformed decides. -/
def parseAll : List String → Except FieldRefError (List FieldRef)
  | [] => .ok []
  | text :: rest => do
    let r ← parse text
    let others ← parseAll rest
    return r :: others

/-- Keep the first occurrence of every reference. -/
def firstOccurrences : List FieldRef → List FieldRef :=
  go []
where
  /-- Keep the references that are not among those seen. -/
  go (seen : List FieldRef) : List FieldRef → List FieldRef
  | [] => []
  | r :: rest => if seen.contains r then go seen rest else r :: go (r :: seen) rest

/-- A text is split at a point that no other one is before. -/
theorem splitAtPoint_append (before after : List Char) (h : '.' ∉ before) :
    splitAtPoint (before ++ '.' :: after) = some (before, after) := by
  induction before with
  | nil => simp [splitAtPoint]
  | cons c cs ih =>
    have hc : c ≠ '.' := fun he => h (he ▸ List.mem_cons_self)
    have hcs : '.' ∉ cs := fun he => h (List.mem_cons_of_mem _ he)
    simp [splitAtPoint, hc, ih hcs]

/-- What a text is split into makes up the text, and the first part has no point. -/
theorem splitAtPoint_eq_some {cs before after : List Char}
    (h : splitAtPoint cs = some (before, after)) : cs = before ++ '.' :: after ∧ '.' ∉ before := by
  induction cs generalizing before with
  | nil => simp [splitAtPoint] at h
  | cons c cs ih =>
    simp only [splitAtPoint] at h
    split at h
    · next hc => cases h; simp [hc]
    · next hc =>
      obtain ⟨⟨b, a⟩, hb, he⟩ := Option.map_eq_some_iff.1 h
      cases he
      obtain ⟨h1, h2⟩ := ih hb
      refine ⟨by rw [h1]; rfl, ?_⟩
      intro hm
      rcases List.mem_cons.1 hm with hm | hm
      · exact hc hm.symm
      · exact h2 hm

/-- Several references are parsed as one traversal. -/
theorem parseAll_eq_mapM (texts : List String) : parseAll texts = texts.mapM parse := by
  induction texts with
  | nil => rfl
  | cons text rest ih => rw [parseAll, ih, List.mapM_cons]

end FieldRef
end PanelForms
