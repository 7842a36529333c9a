import PanelForms.Json.Numeral
import PanelForms.Text.Hex

/-!
# Reading JSON text

One value with blanks around it makes a text.  A repeated member keeps its last value.  At most
127 containers may be open at a time.

Main definitions:

- `ParseFailure`: a text that ends too early is told apart from one with a misplaced character.
- `Json.readString`: the characters up to the closing quote, with escapes resolved.
- `Json.parse`: the value that a whole text denotes.
-/

namespace PanelForms
namespace Json

/-- The blanks of JSON: space, line feed, carriage return and tab. -/
def skipBlanks (cs : List Char) : List Char :=
  cs.dropWhile fun c => c = ' ' ∨ c = '\n' ∨ c = '\r' ∨ c = '\t'

/-- Four hexadecimal digits.  With fewer than four bytes left the text ends too early. -/
def readHex4 (cs : List Char) : Except ParseFailure (Nat × List Char) :=
  if (String.ofList (cs.take 4)).utf8ByteSize < 4 then .error .unexpectedEnd
  else
    match (cs.take 4).mapM Hex.value? with
    | some [a, b, c, d] => .ok (((a * 16 + b) * 16 + c) * 16 + d, cs.drop 4)
    | _ => .error .malformed

/-- The character of an escape by code unit.  A leading surrogate needs a second escape with a
trailing one; a surrogate without its partner is misplaced. -/
def readUnicodeEscape (cs : List Char) : Except ParseFailure (Char × List Char) := do
  let (first, rest) ← readHex4 cs
  if 0xDC00 ≤ first ∧ first ≤ 0xDFFF then throw .malformed
  else if 0xD800 ≤ first ∧ first ≤ 0xDBFF then
    match rest with
    | [] => throw .unexpectedEnd
    | ['\\'] => throw .unexpectedEnd
    | '\\' :: 'u' :: tail =>
      let (second, rest) ← readHex4 tail
      if 0xDC00 ≤ second ∧ second ≤ 0xDFFF then
        return (Char.ofNat (0x10000 + (first - 0xD800) * 0x400 + (second - 0xDC00)), rest)
      else throw .malformed
    | _ => throw .malformed
  else return (Char.ofNat first, rest)

/-- The character that an escape denotes, given the text after the backslash. -/
def readEscape : List Char → Except ParseFailure (Char × List Char)
  | [] => .error .unexpectedEnd
  | '"' :: rest => .ok ('"', rest)
  | '\\' :: rest => .ok ('\\', rest)
  | '/' :: rest => .ok ('/', rest)
  | 'b' :: rest => .ok (Char.ofNat 8, rest)
  | 'f' :: rest => .ok (Char.ofNat 12, rest)
  | 'n' :: rest => .ok ('\n', rest)
  | 'r' :: rest => .ok ('\r', rest)
  | 't' :: rest => .ok ('\t', rest)
  | 'u' :: rest => readUnicodeEscape rest
  | _ => .error .malformed

/-- The text up to the closing quote.  `fuel` bounds the number of characters read. -/
def readStringBody : (fuel : Nat) → (read : List Char) → List Char →
    Except ParseFailure (String × List Char)
  | 0, _, _ => .error .unexpectedEnd
  | _ + 1, _, [] => .error .unexpectedEnd
  | fuel + 1, read, c :: rest =>
    if c = '"' then .ok (String.ofList read.reverse, rest)
    else if c = '\\' then
      match readEscape rest with
      | .ok (escaped, rest) => readStringBody fuel (escaped :: read) rest
      | .error failure => .error failure
    else if c.toNat < 32 then .error .malformed
    else readStringBody fuel (c :: read) rest

/-- The string after its opening quote. -/
def readString (cs : List Char) : Except ParseFailure (String × List Char) :=
  readStringBody (cs.length + 1) [] cs

/-- A fixed word at the front of a text. -/
def readWord (value : Json) : (word : List Char) → List Char →
    Except ParseFailure (Json × List Char)
  | [], rest => .ok (value, rest)
  | _ :: _, [] => .error .unexpectedEnd
  | w :: word, c :: rest => if w = c then readWord value word rest else .error .malformed

mutual

/-- The value at the front of a text.  `fuel` bounds the number of steps and `depth` is the number
of containers that may still be opened. -/
def readValue : (fuel : Nat) → (depth : Nat) → List Char → Except ParseFailure (Json × List Char)
  | 0, _, _ => .error .unexpectedEnd
  | fuel + 1, depth, cs =>
    match skipBlanks cs with
    | [] => .error .unexpectedEnd
    | 'n' :: rest => readWord .null ['u', 'l', 'l'] rest
    | 't' :: rest => readWord (.bool true) ['r', 'u', 'e'] rest
    | 'f' :: rest => readWord (.bool false) ['a', 'l', 's', 'e'] rest
    | '"' :: rest => (readString rest).map fun (s, rest) => (.string s, rest)
    | '[' :: rest =>
      if depth = 0 then .error .malformed
      else readItems fuel (depth - 1) true [] rest
    | '\x7b' :: rest =>
      if depth = 0 then .error .malformed
      else readMembers fuel (depth - 1) true [] rest
    | c :: rest =>
      if c = '-' ∨ Number.isDigit c then
        (readNumeral (c :: rest)).map fun (n, rest) => (.number n, rest)
      else .error .malformed

/-- The items of an array up to its end; `first` says that no item has been read. -/
def readItems : (fuel : Nat) → (depth : Nat) → (first : Bool) → (items : List Json) → List Char →
    Except ParseFailure (Json × List Char)
  | 0, _, _, _, _ => .error .unexpectedEnd
  | fuel + 1, depth, first, items, cs =>
    match skipBlanks cs with
    | [] => .error .unexpectedEnd
    | ']' :: rest => .ok (.array items.reverse, rest)
    | c :: rest =>
      let next : Except ParseFailure (List Char) :=
        if first then .ok (c :: rest)
        else if c = ',' then
          match skipBlanks rest with
          | [] => .error .unexpectedEnd
          | ']' :: _ => .error .malformed
          | body => .ok body
        else .error .malformed
      match next with
      | .error failure => .error failure
      | .ok body =>
        match readValue fuel depth body with
        | .error failure => .error failure
        | .ok (item, rest) => readItems fuel depth false (item :: items) rest

/-- The members of an object up to its end; `first` says that no member has been read. -/
def readMembers : (fuel : Nat) → (depth : Nat) → (first : Bool) → (members : Entries Json) →
    List Char → Except ParseFailure (Json × List Char)
  | 0, _, _, _, _ => .error .unexpectedEnd
  | fuel + 1, depth, first, members, cs =>
    match skipBlanks cs with
    | [] => .error .unexpectedEnd
    | '\x7d' :: rest => .ok (.object members, rest)
    | c :: rest =>
      let next : Except ParseFailure (List Char) :=
        if first then .ok (c :: rest)
        else if c = ',' then
          match skipBlanks rest with
          | [] => .error .unexpectedEnd
          | body => .ok body
        else .error .malformed
      match next with
      | .error failure => .error failure
      | .ok ('"' :: body) =>
        match readString body with
        | .error failure => .error failure
        | .ok (name, rest) =>
          match skipBlanks rest with
          | [] => .error .unexpectedEnd
          | ':' :: rest =>
            match readValue fuel depth rest with
            | .error failure => .error failure
            | .ok (value, rest) =>
              readMembers fuel depth false (Entries.insert name value members) rest
          | _ => .error .malformed
      | .ok _ => .error .malformed

end

/-- The containers that may be open at a time. -/
def depthLimit : Nat := 127

/-- The value that a whole text denotes. -/
def parse (text : String) : Except ParseFailure Json :=
  let cs := text.toList
  match readValue (2 * cs.length + 2) depthLimit cs with
  | .error failure => .error failure
  | .ok (value, rest) => if (skipBlanks rest).isEmpty then .ok value else .error .malformed

end Json
end PanelForms
