import PanelForms.Pattern.PropertyName
import PanelForms.Text.Hex

/-!
# Reading patterns

Patterns have alternation, concatenation, repetition, groups, classes, character properties,
anchors and word boundaries, and flags that hold to the end of their group.  Look-around and
back-references are not patterns.

Main definitions:

- `Flags`: case folding, line mode, dot mode, free spacing and the like.
- `readEscape`: the item after a backslash.
- `readClass?`: a bracketed class.
- `Pattern.Expr.parse?`: the expression that a text denotes.
-/

namespace PanelForms
namespace Pattern

open Text

/-- What the flags of a group switch on. -/
structure Flags where
  ignoreCase : Bool := false
  multiLine : Bool := false
  dotAll : Bool := false
  unicode : Bool := true
  carriageReturns : Bool := false
  freeSpacing : Bool := false
  deriving DecidableEq

/-- The item that an escape or a plain character denotes. -/
inductive Item where
  | literal (n : Nat)
  | set (s : CharSet)
  | assertion (a : Assertion)

namespace Flags

/-- Skip blanks and comments where they are not part of the pattern. -/
def skip (flags : Flags) (cs : List Char) : List Char :=
  if flags.freeSpacing then skipAll (cs.length + 1) cs else cs
where
  /-- Skip runs of blanks and comments to the end of their lines. -/
  skipAll : Nat → List Char → List Char
  | 0, cs => cs
  | fuel + 1, cs =>
    match cs.dropWhile isBlank with
    | '#' :: rest => skipAll fuel (rest.dropWhile (· ≠ '\n'))
    | rest => rest

/-- Close a set under the case folding in force. -/
def fold (flags : Flags) (s : CharSet) : CharSet :=
  if !flags.ignoreCase then s
  else if flags.unicode then .foldCase s
  else .foldAsciiCase s

/-- The word characters in force. -/
def wordSet (flags : Flags) : CharSet :=
  if flags.unicode then .property .word
  else .unionAll [.range 48 57, .range 65 90, .single 95, .range 97 122]

/-- The decimal digits in force. -/
def digitSet (flags : Flags) : CharSet :=
  if flags.unicode then .property (.category .decimalNumber) else .range 48 57

/-- The blanks in force. -/
def blankSet (flags : Flags) : CharSet :=
  if flags.unicode then .property .blank else .union (.range 9 13) (.single 32)

/-- A complement, which without Unicode would hold fragments of characters. -/
def compl? (flags : Flags) (s : CharSet) : Option CharSet :=
  if flags.unicode then some (.compl s) else none

/-- The dot: every character but the line ends, or every character. -/
def dot? (flags : Flags) : Option CharSet :=
  if !flags.unicode then none
  else if flags.dotAll then some (.compl .nothing)
  else if flags.carriageReturns then some (.compl (.union (.single 10) (.single 13)))
  else some (.compl (.single 10))

/-- Switch one flag by its letter. -/
def switch? (flags : Flags) (on : Bool) : Char → Option Flags
  | 'i' => some { flags with ignoreCase := on }
  | 'm' => some { flags with multiLine := on }
  | 's' => some { flags with dotAll := on }
  | 'U' => some flags
  | 'u' => some { flags with unicode := on }
  | 'R' => some { flags with carriageReturns := on }
  | 'x' => some { flags with freeSpacing := on }
  | _ => none

/-- Read the flags of a group up to the colon or parenthesis that ends them.  A letter may stand
once, the minus sign once and not last.  The result tells whether anything was written. -/
def read? (flags : Flags) (seen : List Char) : List Char → Option (Flags × List Char × List Char)
  | [] => none
  | c :: rest =>
    if c = ':' ∨ c = ')' then
      if seen.head? = some '-' then none else some (flags, seen, c :: rest)
    else if seen.contains c then none
    else if c = '-' then read? flags ('-' :: seen) rest
    else
      match flags.switch? (!seen.contains '-') c with
      | some flags => read? flags (c :: seen) rest
      | none => none

end Flags

/-- A code point that is a character. -/
def scalar? (n : Nat) : Option Nat :=
  if n < 0xD800 ∨ (0xDFFF < n ∧ n < 0x110000) then some n else none

/-- A fixed number of hexadecimal digits. -/
def readHexDigits? (flags : Flags) : (count value : Nat) → List Char → Option (Nat × List Char)
  | 0, value, cs => some (value, cs)
  | count + 1, value, cs =>
    match flags.skip cs with
    | c :: rest => (Hex.value? c).bind fun d => readHexDigits? flags count (value * 16 + d) rest
    | [] => none

/-- The text in braces, given what follows the opening one, without what free spacing skips. -/
def readBraces? (flags : Flags) (cs : List Char) : Option (List Char × List Char) :=
  go (cs.length + 1) [] (flags.skip cs)
where
  /-- Collect characters, last first, up to the closing brace. -/
  go : Nat → List Char → List Char → Option (List Char × List Char)
  | 0, _, _ => none
  | fuel + 1, text, cs =>
    match cs with
    | [] => none
    | '\x7d' :: rest => some (text.reverse, rest)
    | c :: rest => go fuel (c :: text) (flags.skip rest)

/-- The character of a code point escape: fixed digits, or any number of digits in braces. -/
def readHex? (flags : Flags) (count : Nat) (cs : List Char) : Option (Nat × List Char) :=
  match flags.skip cs with
  | '\x7b' :: rest =>
    match readBraces? flags rest with
    | some (digits, after) =>
      if digits.isEmpty then none
      else
        (digits.mapM Hex.value?).bind fun ds =>
          (scalar? (ds.foldl (fun n d => n * 16 + d) 0)).map fun n => (n, after)
    | none => none
  | rest => (readHexDigits? flags count 0 rest).bind fun (n, after) =>
      (scalar? n).map fun n => (n, after)

/-- A code point escape is a character; without Unicode it must be an ASCII one. -/
def readHexItem? (flags : Flags) (count : Nat) (cs : List Char) : Option (Item × List Char) :=
  (readHex? flags count cs).bind fun (n, rest) =>
    if !flags.unicode && 128 ≤ n && count == 2 then none else some (.literal n, rest)

/-- A property escape: one letter, or a text in braces.  Without Unicode there is none. -/
def readProperty? (flags : Flags) (negated : Bool) (cs : List Char) : Option (Item × List Char) :=
  let close (found : Option CharSet) (rest : List Char) : Option (Item × List Char) :=
    found.map fun s =>
      let s := flags.fold s
      (.set (if negated then .compl s else s), rest)
  if !flags.unicode then none
  else
    match flags.skip cs with
    | [] => none
    | '\x7b' :: rest =>
      match readBraces? flags rest with
      | some (text, rest) => close (CharSet.ofQuery? text) rest
      | none => none
    | c :: rest => close (CharSet.named? [c]) rest

/-- The special boundaries that are named in braces after `\b`. -/
def readBoundary? (flags : Flags) (cs : List Char) : Option (Item × List Char) :=
  let word := flags.wordSet
  let plain : Item × List Char := (.assertion (.boundary word), cs)
  match cs with
  | '\x7b' :: rest =>
    let name := rest.takeWhile (· ≠ '\x7d')
    match name.head?.any fun c => c.isAlpha || c = '-', rest.dropWhile (· ≠ '\x7d') with
    | true, '\x7d' :: after =>
      match String.ofList name with
      | "start" => some (.assertion (.wordStart word), after)
      | "end" => some (.assertion (.wordEnd word), after)
      | "start-half" => some (.assertion (.wordStartHalf word), after)
      | "end-half" => some (.assertion (.wordEndHalf word), after)
      | _ => none
    | true, _ => none
    | false, _ => some plain
  | _ => some plain

/-- The characters that have a meaning of their own in some position. -/
def isMeta (c : Char) : Bool :=
  "\\.+*?()|[]\x7b\x7d^$#&-~".toList.contains c

/-- The item after a backslash. -/
def readEscape? (flags : Flags) : List Char → Option (Item × List Char)
  | [] => none
  | c :: rest =>
    match c with
    | 'x' => readHexItem? flags 2 rest
    | 'u' => readHexItem? flags 4 rest
    | 'U' => readHexItem? flags 8 rest
    | 'd' => some (.set flags.digitSet, rest)
    | 's' => some (.set flags.blankSet, rest)
    | 'w' => some (.set flags.wordSet, rest)
    | 'D' => (flags.compl? flags.digitSet).map fun s => (.set s, rest)
    | 'S' => (flags.compl? flags.blankSet).map fun s => (.set s, rest)
    | 'W' => (flags.compl? flags.wordSet).map fun s => (.set s, rest)
    | 'a' => some (.literal 7, rest)
    | 'f' => some (.literal 12, rest)
    | 't' => some (.literal 9, rest)
    | 'n' => some (.literal 10, rest)
    | 'r' => some (.literal 13, rest)
    | 'v' => some (.literal 11, rest)
    | 'p' => readProperty? flags false rest
    | 'P' => readProperty? flags true rest
    | 'A' => some (.assertion .textStart, rest)
    | 'z' => some (.assertion .textEnd, rest)
    | 'b' => readBoundary? flags rest
    | 'B' => some (.assertion (.notBoundary flags.wordSet), rest)
    | '<' => some (.assertion (.wordStart flags.wordSet), rest)
    | '>' => some (.assertion (.wordEnd flags.wordSet), rest)
    | c =>
      if isMeta c || (c.toNat < 128 && !c.isAlphanum) then some (.literal c.toNat, rest) else none

/-- The classes named inside brackets and colons. -/
def namedSet? : String → Option CharSet
  | "alnum" => some (.unionAll [.range 48 57, .range 65 90, .range 97 122])
  | "alpha" => some (.unionAll [.range 65 90, .range 97 122])
  | "ascii" => some (.range 0 127)
  | "blank" => some (.unionAll [.single 9, .single 32])
  | "cntrl" => some (.unionAll [.range 0 31, .single 127])
  | "digit" => some (.range 48 57)
  | "graph" => some (.range 33 126)
  | "lower" => some (.range 97 122)
  | "print" => some (.range 32 126)
  | "punct" => some (.unionAll [.range 33 47, .range 58 64, .range 91 96, .range 123 126])
  | "space" => some (.unionAll [.range 9 13, .single 32])
  | "upper" => some (.range 65 90)
  | "word" => some (.unionAll [.range 48 57, .range 65 90, .single 95, .range 97 122])
  | "xdigit" => some (.unionAll [.range 48 57, .range 65 70, .range 97 102])
  | _ => none

/-- A named class, given the text after its opening bracket; none if the text is not one. -/
def readNamedSet? (flags : Flags) : List Char → Option (CharSet × List Char)
  | ':' :: rest =>
    let (negated, rest) :=
      match rest with
      | '^' :: tail => (true, tail)
      | tail => (false, tail)
    match rest.dropWhile (· ≠ ':') with
    | ':' :: ']' :: after =>
      (namedSet? (String.ofList (rest.takeWhile (· ≠ ':')))).bind fun s =>
        if negated then (flags.compl? s).map fun s => (s, after) else some (s, after)
    | _ => none
  | _ => none

/-- The operations between the parts of a class. -/
inductive SetOp where
  | intersection
  | difference
  | symmetricDifference

/-- Combine two parts of a class, each closed under case folding first. -/
def SetOp.apply (flags : Flags) (op : SetOp) (a b : CharSet) : CharSet :=
  let a := flags.fold a
  let b := flags.fold b
  match op with
  | .intersection => .inter a b
  | .difference => .inter a (.compl b)
  | .symmetricDifference => .inter (.union a b) (.compl (.inter a b))

/-- A part of a class whose operation still waits for its right side. -/
abbrev Pending := Option (SetOp × CharSet)

/-- Combine the waiting part with the part that has just ended. -/
def Pending.close (flags : Flags) (pending : Pending) (part : CharSet) : CharSet :=
  match pending with
  | some (op, left) => op.apply flags left part
  | none => part

/-- One member of a class: a plain character or an escape. -/
def readMember? (flags : Flags) : List Char → Option (Item × List Char)
  | [] => none
  | '\\' :: rest => readEscape? flags rest
  | c :: rest => some (.literal c.toNat, rest)

/-- One member of a class or a range of characters. -/
def readClassRange? (flags : Flags) (cs : List Char) : Option (CharSet × List Char) :=
  match readMember? flags cs with
  | none => none
  | some (item, rest) =>
    let rest := flags.skip rest
    let asSet : Option (CharSet × List Char) :=
      match item with
      | .literal n => if !flags.unicode && 128 ≤ n then none else some (.single n, rest)
      | .set s => some (s, rest)
      | .assertion _ => none
    match rest with
    | [] => none
    | '-' :: tail =>
      match flags.skip tail with
      | ']' :: _ => asSet
      | '-' :: _ => asSet
      | [] => none
      | body =>
        match item, readMember? flags body with
        | .literal first, some (.literal last, after) =>
          if !flags.unicode && 128 ≤ last then none
          else if first ≤ last then some (.range first last, after)
          else none
        | _, _ => none
    | _ => asSet

/-- The members that may stand first in a class without their usual meaning: minus signs, or one
closing bracket. -/
def readClassStart (flags : Flags) (cs : List Char) : CharSet × List Char :=
  let (minuses, rest) := dashes (cs.length + 1) false (flags.skip cs)
  if minuses then (.single 45, rest)
  else
    match rest with
    | ']' :: tail => (.single 93, flags.skip tail)
    | other => (.nothing, other)
where
  /-- Skip minus signs and tell whether there was one. -/
  dashes : Nat → Bool → List Char → Bool × List Char
  | 0, seen, cs => (seen, cs)
  | fuel + 1, seen, cs =>
    match cs with
    | '-' :: rest => dashes fuel true (flags.skip rest)
    | other => (seen, other)

mutual

/-- A class after its opening bracket.  `fuel` bounds the steps and `depth` the nesting. -/
def readClass? : (fuel depth : Nat) → Flags → List Char → Option (CharSet × List Char)
  | 0, _, _, _ => none
  | fuel + 1, depth, flags, cs =>
    if depth = 0 then none
    else
      let cs := flags.skip cs
      let (negated, cs) :=
        match cs with
        | '^' :: rest => (true, rest)
        | other => (false, other)
      let (start, rest) := readClassStart flags cs
      match readClassParts? fuel depth flags none start rest with
      | none => none
      | some (s, rest) =>
        let folded := flags.fold s
        if negated then (flags.compl? folded).map fun s => (s, rest) else some (folded, rest)

/-- The members of a class up to its closing bracket, with the part read so far. -/
def readClassParts? : (fuel depth : Nat) → Flags → Pending → CharSet → List Char →
    Option (CharSet × List Char)
  | 0, _, _, _, _, _ => none
  | fuel + 1, depth, flags, pending, part, cs =>
    match flags.skip cs with
    | [] => none
    | ']' :: rest => some (pending.close flags part, rest)
    | '&' :: '&' :: rest =>
      readClassParts? fuel depth flags (some (.intersection, pending.close flags part)) .nothing rest
    | '-' :: '-' :: rest =>
      readClassParts? fuel depth flags (some (.difference, pending.close flags part)) .nothing rest
    | '~' :: '~' :: rest =>
      readClassParts? fuel depth flags (some (.symmetricDifference, pending.close flags part))
        .nothing rest
    | '[' :: rest =>
      match readNamedSet? flags rest with
      | some (s, rest) => readClassParts? fuel depth flags pending (.union part s) rest
      | none =>
        match readClass? fuel (depth - 1) flags rest with
        | some (s, rest) => readClassParts? fuel depth flags pending (.union part s) rest
        | none => none
    | other =>
      match readClassRange? flags other with
      | some (s, rest) => readClassParts? fuel depth flags pending (.union part s) rest
      | none => none

end

/-- A count in a repetition, with blanks around it. -/
def readCount? (cs : List Char) : Option (Nat × List Char) :=
  let cs := cs.dropWhile isBlank
  let digits := cs.takeWhile fun c => '0' ≤ c && c ≤ '9'
  let n := digits.foldl (fun n c => 10 * n + (c.toNat - 48)) 0
  if digits.isEmpty || 4294967296 ≤ n then none
  else some (n, (cs.dropWhile fun c => '0' ≤ c && c ≤ '9').dropWhile isBlank)

/-- The bounds of a counted repetition after its opening brace. -/
def readBounds? (flags : Flags) (cs : List Char) : Option (Nat × Option Nat × List Char) :=
  match readCount? (flags.skip cs) with
  | none => none
  | some (least, rest) =>
    match rest with
    | '\x7d' :: after => some (least, some least, after)
    | ',' :: tail =>
      match flags.skip tail with
      | '\x7d' :: after => some (least, none, after)
      | body =>
        match readCount? body with
        | some (most, '\x7d' :: after) =>
          if least ≤ most then some (least, some most, after) else none
        | _ => none
    | _ => none

/-- The name of a group: an alphabetic character or underscore, then also numbers, points and
square brackets. -/
def readGroupName? (cs : List Char) : Option (List Char × List Char) :=
  let isLetter (c : Char) : Bool := c = '_' || isAlphabetic c.toNat
  let isFurther (c : Char) : Bool :=
    isLetter c || c = '.' || c = '[' || c = ']' || isNumeric c.toNat
  let name := cs.takeWhile (· ≠ '>')
  match cs.dropWhile (· ≠ '>'), name with
  | '>' :: rest, c :: others =>
    if isLetter c && others.all isFurther then some (name, rest) else none
  | _, _ => none

/-- The greatest weight of a pattern. -/
def weightLimit : Nat := 320000

/-- What has been read of a group: finished alternatives, and the items of the one that is being
read, both last first.  An item that only sets flags cannot be repeated. -/
structure Progress where
  flags : Flags
  alternatives : List Expr
  items : List (Option Expr)
  names : List (List Char)

namespace Progress

/-- Add an item. -/
def push (p : Progress) (e : Expr) : Progress :=
  { p with items := some e :: p.items }

/-- The alternative that is being read, as one expression. -/
def current (p : Progress) : Expr :=
  Expr.seqAll (p.items.reverse.filterMap id)

/-- Finish the alternative that is being read. -/
def nextAlternative (p : Progress) : Progress :=
  { p with alternatives := p.current :: p.alternatives, items := [] }

/-- The whole group. -/
def finish (p : Progress) : Expr :=
  Expr.altAll (p.current :: p.alternatives).reverse

/-- Repeat the last item. -/
def repeatLast? (p : Progress) (least : Nat) (most : Option Nat) : Option Progress :=
  match p.items with
  | some e :: rest => some { p with items := some (.repeated e least most) :: rest }
  | _ => none

end Progress

/-- A plain character, closed under the case folding in force. -/
def charExpr (flags : Flags) (n : Nat) : Expr :=
  .chars (flags.fold (.single n))

/-- The expression of an item outside a class. -/
def Item.expr (flags : Flags) : Item → Expr
  | .literal n => charExpr flags n
  | .set s => .chars s
  | .assertion a => .assertion a

/-- A question mark after a repetition changes which match is preferred, not whether there is
one. -/
def skipPreference : List Char → List Char
  | '?' :: rest => rest
  | cs => cs

/-- The nesting that a pattern may have. -/
def nestingLimit : Nat := 250

/-- Read a group up to the parenthesis that ends it, or to the end of the text.  The result is the
expression, the rest from that parenthesis on, and the group names seen. -/
def readGroup? : (fuel depth : Nat) → Progress → List Char →
    Option (Expr × List Char × List (List Char))
  | 0, _, _, _ => none
  | fuel + 1, depth, p, cs =>
    match p.flags.skip cs with
    | [] => some (p.finish, [], p.names)
    | ')' :: rest => some (p.finish, ')' :: rest, p.names)
    | '|' :: rest => readGroup? fuel depth p.nextAlternative rest
    | '?' :: rest =>
      (p.repeatLast? 0 (some 1)).bind fun p => readGroup? fuel depth p (skipPreference rest)
    | '*' :: rest =>
      (p.repeatLast? 0 none).bind fun p => readGroup? fuel depth p (skipPreference rest)
    | '+' :: rest =>
      (p.repeatLast? 1 none).bind fun p => readGroup? fuel depth p (skipPreference rest)
    | '\x7b' :: rest =>
      match readBounds? p.flags rest with
      | none => none
      | some (least, most, rest) =>
        (p.repeatLast? least most).bind fun p => readGroup? fuel depth p (skipPreference rest)
    | '[' :: rest =>
      match readClass? (2 * rest.length + 2) depth p.flags rest with
      | none => none
      | some (s, rest) => readGroup? fuel depth (p.push (.chars s)) rest
    | '.' :: rest =>
      p.flags.dot?.bind fun s => readGroup? fuel depth (p.push (.chars s)) rest
    | '^' :: rest =>
      let a := if p.flags.multiLine then .lineStart p.flags.carriageReturns else .textStart
      readGroup? fuel depth (p.push (.assertion a)) rest
    | '$' :: rest =>
      let a := if p.flags.multiLine then .lineEnd p.flags.carriageReturns else .textEnd
      readGroup? fuel depth (p.push (.assertion a)) rest
    | '\\' :: rest =>
      match readEscape? p.flags rest with
      | none => none
      | some (item, rest) => readGroup? fuel depth (p.push (item.expr p.flags)) rest
    | '(' :: rest =>
      if depth = 0 then none
      else
        let enter (flags : Flags) (names : List (List Char)) (body : List Char) :
            Option (Expr × List Char × List (List Char)) :=
          match readGroup? fuel (depth - 1) ⟨flags, [], [], names⟩ body with
          | some (inner, ')' :: rest, names) =>
            readGroup? fuel depth { p.push inner with names := names } rest
          | _ => none
        match p.flags.skip rest with
        | '?' :: 'P' :: '<' :: body =>
          match readGroupName? body with
          | some (name, body) =>
            if p.names.contains name then none else enter p.flags (name :: p.names) body
          | none => none
        | '?' :: '<' :: '=' :: _ => none
        | '?' :: '<' :: '!' :: _ => none
        | '?' :: '<' :: body =>
          match readGroupName? body with
          | some (name, body) =>
            if p.names.contains name then none else enter p.flags (name :: p.names) body
          | none => none
        | '?' :: body =>
          match p.flags.read? [] body with
          | some (flags, _, ':' :: body) => enter flags p.names body
          | some (flags, seen, ')' :: rest) =>
            if seen.isEmpty then none
            else readGroup? fuel depth { p with flags := flags, items := none :: p.items } rest
          | _ => none
        | body => enter p.flags p.names body
    | c :: rest => readGroup? fuel depth (p.push (charExpr p.flags c.toNat)) rest

/-- The expression that a text denotes; none if the text is not a pattern or unfolds to one that
is too large. -/
def Expr.parse? (text : String) : Option Expr :=
  let cs := text.toList
  match readGroup? (cs.length + 1) nestingLimit ⟨{}, [], [], []⟩ cs with
  | some (e, [], _) => if e.weight ≤ weightLimit then some e else none
  | _ => none

end Pattern
end PanelForms
