import PanelForms.Json.Parser
import PanelForms.Schema.Basic
import PanelForms.Schema.Shape

/-!
# Schema documents

A document holds type definitions, models and views.  It is read by shape as a whole, then its
types are defined in order of names, its fields are given their types, its views are read one by
one, and at last the references of the views are checked.

Main definitions:

- `Layout.read?`, `Document.read?`: the shapes of layouts and documents.
- `Schema.compile`: the schema of a document, over a registry of types.
- `Schema.ofJson`, `Schema.ofText`: the same over the built-in types.
-/

namespace PanelForms

/-- A type definition of a document. -/
structure TypeDef where
  base : String
  config : Entries Json

/-- A field definition of a document, whose type is a name. -/
structure FieldDecl where
  displayName : String
  typeName : String
  defaultValue : Option Json
  description : Option String

/-- A view of a document: its name may be left to the key it stands under, and its layouts may
stand in a record of their own. -/
structure ViewDecl where
  name : Option String
  title : Option String
  kind : Option String
  config : Option (List Layout × List Layout)
  basic : List Layout
  advanced : List Layout

/-- A document, whose views are still to be read. -/
structure Document where
  types : Dict TypeDef
  models : Dict (Dict FieldDecl)
  views : Json

namespace Layout

open Shape

/-- A row of a table. -/
def readRow? (v : Json) : Option TableRow := do
  let [label, fields] ← members? ["label", "fields"] v | none
  return ⟨← optional? string? label, ← required? (list? string?) fields⟩

/-- The kinds of layouts in the order of their declaration. -/
def tags : List String :=
  ["fieldList", "fieldTable", "tabs", "autoRunReport"]

/-- The tag of a layout.  Inside a tab it may also be the place of the tag among all tags. -/
def readTag? (inTab : Bool) : Json → Option String
  | .string s => if tags.contains s then some s else none
  | .number (.integer n) => if inTab && 0 ≤ n then tags[n.toNat]? else none
  | _ => none

/-- The tag of a layout and the record of its other members. -/
def splitTag? (inTab : Bool) : Json → Option (String × Json)
  | .object members =>
    ((Entries.get? "layout" members).bind (readTag? inTab)).map fun tag =>
      (tag, .object (Entries.erase "layout" members))
  | .array (tag :: rest) => (readTag? inTab tag).map fun tag => (tag, .array rest)
  | _ => none

/-- A layout, whose nesting is at most `depth`. -/
def readNested? : (depth : Nat) → (inTab : Bool) → Json → Option Layout
  | 0, _, _ => none
  | depth + 1, inTab, v => do
    let (tag, body) ← splitTag? inTab v
    match tag with
    | "fieldList" =>
      let [fields] ← members? ["fields"] body | none
      return .fieldList (← required? (list? string?) fields)
    | "fieldTable" =>
      let [columns, rows] ← members? ["columns", "rows"] body | none
      return .fieldTable (← required? (list? string?) columns) (← required? (list? readRow?) rows)
    | "tabs" =>
      let [groups] ← members? ["tabs"] body | none
      let readTab? (v : Json) : Option (String × List Layout) := do
        let [name, items] ← members? ["name", "items"] v | none
        return (← required? string? name, ← required? (list? (readNested? depth true)) items)
      return .tabs (← required? (list? readTab?) groups)
    | "autoRunReport" =>
      let [reportName, dependencies] ← members? ["report", "dependencies"] body | none
      return .report (← required? string? reportName) (← orElse? [] (list? string?) dependencies)
    | _ => none

/-- A layout. -/
def read? (v : Json) : Option Layout :=
  readNested? (v.depth + 1) false v

end Layout

open Shape

/-- A type definition. -/
def TypeDef.read? (v : Json) : Option TypeDef := do
  let [base, config] ← members? ["base", "config"] v | none
  let readConfig? : Json → Option (Entries Json)
    | .object members => some members
    | _ => none
  return ⟨← required? string? base, ← orElse? [] readConfig? config⟩

/-- A field definition. -/
def FieldDecl.read? (v : Json) : Option FieldDecl := do
  let [displayName, typeName, defaultValue, description] ←
    members? ["displayName", "type", "defaultValue", "description"] v | none
  return ⟨← required? string? displayName, ← required? string? typeName,
    ← optional? some defaultValue, ← optional? string? description⟩

namespace ViewDecl

/-- The record of the layouts of a view. -/
def readConfig? (v : Json) : Option (List Layout × List Layout) := do
  let [basic, advanced] ← members? ["basic", "advanced"] v | none
  return (← orElse? [] (list? Layout.read?) basic, ← orElse? [] (list? Layout.read?) advanced)

/-- A view. -/
def read? (v : Json) : Option ViewDecl := do
  let [name, title, kind, config, basic, advanced] ←
    members? ["name", "title", "type", "config", "basic", "advanced"] v | none
  return ⟨← optional? string? name, ← optional? string? title, ← optional? string? kind,
    ← optional? readConfig? config, ← orElse? [] (list? Layout.read?) basic,
    ← orElse? [] (list? Layout.read?) advanced⟩

/-- The view that a declaration denotes.  The key it stands under wins over its own name, and the
record of layouts over the layouts beside it. -/
def toView (d : ViewDecl) (key : Option String) : Except SchemaError View :=
  match key <|> d.name with
  | none => .error (.badView (d.title.getD "") .unnamed)
  | some name =>
    let (basic, advanced) := d.config.getD (d.basic, d.advanced)
    .ok ⟨name, d.title, d.kind.getD View.defaultKind, basic, advanced⟩

/-- The view that a value denotes. -/
def compile (key : Option String) (v : Json) : Except SchemaError View :=
  match read? v with
  | none => .error (.unreadable .wrongShape)
  | some d => d.toView key

end ViewDecl

/-- The views of a document: none, a list of them, or named ones in order of names. -/
def compileViews : Json → Except SchemaError (List View)
  | .null => .ok []
  | .array items => items.mapM (ViewDecl.compile none)
  | .object members => members.mapM fun m => ViewDecl.compile (some m.1) m.2
  | got => .error (.badView "" (.viewsNotAListing got))

/-- A document. -/
def Document.read? (v : Json) : Option Document := do
  let [types, models, views] ← members? ["types", "models", "views"] v | none
  return ⟨← orElse? Dict.empty (table? TypeDef.read?) types,
    ← required? (table? (table? FieldDecl.read?)) models, views.getD .null⟩

namespace Schema

/-- Define the types of a document in order of names. -/
def defineTypes (registry : TypeRegistry) (types : Entries TypeDef) :
    Except SchemaError TypeRegistry :=
  types.foldlM (fun registry t => registry.define t.1 t.2.base t.2.config) registry

/-- Give a field its type. -/
def compileField (registry : TypeRegistry) (model field : String) (d : FieldDecl) :
    Except SchemaError FieldDef :=
  match registry.get? d.typeName with
  | none => .error (.unknownType model field d.typeName)
  | some t => .ok ⟨d.displayName, t, d.defaultValue, d.description⟩

/-- Give the fields of a model their types. -/
def compileModel (registry : TypeRegistry) (model : String) (fields : Dict FieldDecl) :
    Except SchemaError ModelSchema :=
  (fields.entries.mapM fun f =>
    (compileField registry model f.1 f.2).map fun d => (f.1, d)).map Dict.ofList

/-- The schema of a document, whose own types extend the registry. -/
def compile (registry : TypeRegistry) (v : Json) : Except SchemaError Schema := do
  let some document := Document.read? v | throw (.unreadable .wrongShape)
  let registry ← defineTypes registry document.types.entries
  let models ← document.models.entries.mapM fun m =>
    (compileModel registry m.1 m.2).map fun fields => (m.1, fields)
  let views ← compileViews document.views
  ofParts (Dict.ofList models) views

/-- The schema of a document over the built-in types. -/
def ofJson (v : Json) : Except SchemaError Schema :=
  compile TypeRegistry.builtin v

/-- The schema of the text of a document. -/
def ofText (text : String) : Except SchemaError Schema :=
  match Json.parse text with
  | .error .unexpectedEnd => .error (.unreadable .unexpectedEnd)
  | .error .malformed => .error (.unreadable .malformed)
  | .ok v => ofJson v

end Schema
end PanelForms
