import PanelForms.Pattern.Expr

/-!
# Names of character properties

A pattern may name a general category, a group of categories, a script or a property such as
`Alphabetic`, by its full name or its code.  Names are matched loosely: case, blanks, hyphens,
underscores and a leading `is` do not count.

Main definitions:

- `looseName`: a name without what does not count.
- `CharSet.ofCategoryName?`, `CharSet.ofScriptName?`: the values of the two properties that have
  values.
- `CharSet.named?`: the characters that a name alone stands for.
- `CharSet.valued?`: the characters for which a property has a value.
-/

namespace PanelForms
namespace Pattern

open Text

/-- The letters of a name that count, in small letters. -/
def bareName (name : List Char) : List Char :=
  (name.filter fun c => c.toNat < 128 && c != ' ' && c != '_' && c != '-').map Char.toLower

/-- A name in small letters, without blanks, hyphens, underscores and a leading `is`.  The code
`isc` belongs to a property of its own and stays whole. -/
def looseName (name : List Char) : String :=
  if (name.take 2).map Char.toLower = ['i', 's'] then
    match bareName (name.drop 2) with
    | ['c'] => "isc"
    | rest => String.ofList rest
  else String.ofList (bareName name)

/-- The names of the categories and of their groups. -/
def categoryNames : List (List String × List Category) :=
  [(["l", "letter"], Category.letters),
    (["lc", "casedletter"], Category.casedLetters),
    (["lu", "uppercaseletter"], [.uppercaseLetter]),
    (["ll", "lowercaseletter"], [.lowercaseLetter]),
    (["lt", "titlecaseletter"], [.titlecaseLetter]),
    (["lm", "modifierletter"], [.modifierLetter]),
    (["lo", "otherletter"], [.otherLetter]),
    (["m", "mark", "combiningmark"], Category.marks),
    (["mn", "nonspacingmark"], [.nonspacingMark]),
    (["mc", "spacingmark"], [.spacingMark]),
    (["me", "enclosingmark"], [.enclosingMark]),
    (["n", "number"], Category.numbers),
    (["nd", "decimalnumber", "digit"], [.decimalNumber]),
    (["nl", "letternumber"], [.letterNumber]),
    (["no", "othernumber"], [.otherNumber]),
    (["p", "punctuation", "punct"], Category.punctuation),
    (["pc", "connectorpunctuation"], [.connectorPunctuation]),
    (["pd", "dashpunctuation"], [.dashPunctuation]),
    (["ps", "openpunctuation"], [.openPunctuation]),
    (["pe", "closepunctuation"], [.closePunctuation]),
    (["pi", "initialpunctuation"], [.initialPunctuation]),
    (["pf", "finalpunctuation"], [.finalPunctuation]),
    (["po", "otherpunctuation"], [.otherPunctuation]),
    (["s", "symbol"], Category.symbols),
    (["sm", "mathsymbol"], [.mathSymbol]),
    (["sc", "currencysymbol"], [.currencySymbol]),
    (["sk", "modifiersymbol"], [.modifierSymbol]),
    (["so", "othersymbol"], [.otherSymbol]),
    (["z", "separator"], Category.separators),
    (["zs", "spaceseparator"], [.spaceSeparator]),
    (["zl", "lineseparator"], [.lineSeparator]),
    (["zp", "paragraphseparator"], [.paragraphSeparator]),
    (["cc", "control", "cntrl"], [.control]),
    (["cf", "format"], [.format]),
    (["co", "privateuse"], [.privateUse])]

namespace CharSet

/-- The characters of some categories. -/
def ofCategories (categories : List Category) : CharSet :=
  .unionAll (categories.map fun c => .property (.category c))

/-- The characters that belong to no category of the list. -/
def outside (categories : List Category) : CharSet :=
  .compl (ofCategories categories)

/-- The characters of a category or group of categories, by its loose name. -/
def ofCategoryName? (name : String) : Option CharSet :=
  match name with
  | "any" => some (.compl .nothing)
  | "ascii" => some (.range 0 127)
  | "assigned" => some (ofCategories Category.all)
  | "cn" | "unassigned" => some (outside Category.all)
  | "c" | "other" => some (outside (visibleCategories ++ Category.separators))
  | name =>
    (categoryNames.find? fun entry => entry.1.contains name).map fun entry =>
      ofCategories entry.2

/-- The characters of a script, by its loose name. -/
def ofScriptName? (name : String) : Option CharSet :=
  (Script.named? name).map fun s => .property (.script s)

/-- The characters of a property without values, by its loose name. -/
def ofPropertyName? : String → Option CharSet
  | "alphabetic" | "alpha" => some (.property .alphabetic)
  | "lowercase" | "lower" => some (.property .lowercase)
  | "uppercase" | "upper" => some (.property .uppercase)
  | "cased" => some (.property .cased)
  | "whitespace" | "wspace" | "space" => some (.property .blank)
  | "graphemeextend" | "grext" => some (.property .graphemeExtender)
  | "hexdigit" | "hex" => some (.property .hexDigit)
  | "asciihexdigit" | "ahex" => some (.unionAll [.range 48 57, .range 65 70, .range 97 102])
  | "joincontrol" | "joinc" => some (.range 0x200C 0x200D)
  | _ => none

/-- The characters that a name stands for: of a property, a category or a script. -/
def named? (name : List Char) : Option CharSet :=
  let name := looseName name
  (ofPropertyName? name).or ((ofCategoryName? name).or (ofScriptName? name))

/-- The characters for which a property has a value: the category or the script. -/
def valued? (name value : List Char) : Option CharSet :=
  match looseName name with
  | "generalcategory" | "gc" => ofCategoryName? (looseName value)
  | "script" | "sc" => ofScriptName? (looseName value)
  | _ => none

end CharSet

/-- Split a text at the first place where `mark` stands; none if it stands nowhere. -/
def splitAtMark? (mark : List Char) : List Char → Option (List Char × List Char)
  | [] => none
  | c :: cs =>
    if mark.isPrefixOf (c :: cs) then some ([], (c :: cs).drop mark.length)
    else (splitAtMark? mark cs).map fun (before, after) => (c :: before, after)

/-- The characters that the text in the braces of a property escape stands for: a name, or a
property and a value that it must have or must not have. -/
def CharSet.ofQuery? (text : List Char) : Option CharSet :=
  match splitAtMark? ['!', '='] text with
  | some (name, value) => (CharSet.valued? name value).map .compl
  | none =>
    match splitAtMark? [':'] text with
    | some (name, value) => CharSet.valued? name value
    | none =>
      match splitAtMark? ['='] text with
      | some (name, value) => CharSet.valued? name value
      | none => CharSet.named? text

end Pattern
end PanelForms
