import PanelForms.Field.Basic
import PanelForms.Store

/-!
# Text templates over the store

A template is text with placeholders `$(model.field)`, each of which stands for the value of a
field.  A placeholder opens at `$(`, holds at least one character and closes at the next `)`; what
is put in its place is not looked at again.

Main definitions:

- `Template.Piece`, `Template.pieces`: a text cut into characters and placeholders.
- `Template.placeholders`: the references a template reads, in order of appearance.
- `Template.interpolate`: the text with its placeholders filled in.
-/

namespace PanelForms

/-- Why a template has no text. -/
inductive TemplateError where
  | reference (error : FieldRefError)
  | missing (ref : FieldRef)
  deriving DecidableEq

namespace TemplateError

/-- What is reported. -/
def message : TemplateError → String
  | .reference e => e.message
  | .missing ref => "no value for $(" ++ ref.text ++ ")"

/-- The messages of the errors below this one. -/
def causes : TemplateError → List String
  | .reference e => [e.message]
  | .missing _ => []

end TemplateError

namespace Template

/-- A character that stands for itself, or the inside of a placeholder. -/
inductive Piece where
  | char (c : Char)
  | placeholder (inside : List Char)
  deriving DecidableEq

/-- The inside of the placeholder whose opening has just been read, if it has one. -/
def inside? (cs : List Char) : Option (List Char) :=
  let body := cs.takeWhile (· ≠ ')')
  if body.isEmpty || body.length = cs.length then none else some body

/-- Cut a text into pieces from left to right.  The number of characters still to skip belongs to
a placeholder that has been cut off. -/
def piecesFrom : (skip : Nat) → List Char → List Piece
  | _, [] => []
  | skip + 1, _ :: rest => piecesFrom skip rest
  | 0, c :: rest =>
    match c, rest with
    | '$', '(' :: tail =>
      match inside? tail with
      | some body => .placeholder body :: piecesFrom (body.length + 2) rest
      | none => .char c :: piecesFrom 0 rest
    | _, _ => .char c :: piecesFrom 0 rest

/-- The pieces of a text. -/
def pieces (text : String) : List Piece :=
  piecesFrom 0 text.toList

/-- The insides of the placeholders of a text, in order of appearance. -/
def insides (text : String) : List String :=
  (pieces text).filterMap fun
    | .placeholder body => some (String.ofList body)
    | .char _ => none

/-- The references that a template reads, in order of appearance; the first malformed placeholder
decides. -/
def placeholders (text : String) : Except FieldRefError (List FieldRef) :=
  FieldRef.parseAll (insides text)

/-- The text that stands for a value: nothing for null, a scalar's own text, JSON for the rest. -/
def valueText (v : Json) : String :=
  if v.isNull then "" else (v.scalarText?).getD v.text

/-- The text of a placeholder. -/
def fill (store : ModelStore) (inside : String) : Except TemplateError String :=
  match FieldRef.parse inside with
  | .error e => .error (.reference e)
  | .ok r =>
    match store.fieldValue? r with
    | none => .error (.missing r)
    | some v => .ok (valueText v)

/-- The text of some pieces; the first placeholder that cannot be filled decides. -/
def fillPieces (store : ModelStore) : List Piece → Except TemplateError (List Char)
  | [] => .ok []
  | .char c :: rest => (fillPieces store rest).map (c :: ·)
  | .placeholder body :: rest => do
    let text ← fill store (String.ofList body)
    let others ← fillPieces store rest
    return text.toList ++ others

/-- The text of a template with its placeholders filled in. -/
def interpolate (store : ModelStore) (text : String) : Except TemplateError String :=
  (fillPieces store (pieces text)).map String.ofList

end Template
end PanelForms
