import PanelForms.Text.Hex

/-!
# Endpoint paths

Names become segments of a path.  A segment is percent-encoded, so that a separator or a blank in
a name stays inside its segment; tabs and line ends are dropped; the segments that mean "here" are
skipped and one that comes to mean "up" by what is dropped takes the segment before it away.

Main definitions:

- `Endpoint.encodeSegment`: the encoded text of a name.
- `Endpoint.append`: a path with one more segment.
- `endpointPath`: the path of several names.
- `Endpoint.decode`: the bytes that an encoded text stands for.
-/

namespace PanelForms
namespace Endpoint

/-- Whether a byte is written as it is: a visible ASCII character without a meaning of its own in
a path. -/
def isPlain (b : UInt8) : Bool :=
  0x20 < b && b < 0x7F &&
    !(['"', '#', '<', '>', '?', '\x60', '\x7b', '\x7d', '/', '%', '\\'].contains
      (Char.ofNat b.toNat))

/-- How a byte is written. -/
def encodeByte (b : UInt8) : List Char :=
  if isPlain b then [Char.ofNat b.toNat]
  else ['%', Hex.upperDigit (b.toNat / 16), Hex.upperDigit (b.toNat % 16)]

/-- Whether a character is dropped. -/
def isDropped (c : Char) : Bool :=
  c = '\t' || c = '\n' || c = '\r'

/-- The characters of a name that are kept. -/
def kept (name : String) : List Char :=
  name.toList.filter fun c => !isDropped c

/-- The encoded text of a name. -/
def encodeSegment (name : String) : List Char :=
  ((kept name).flatMap String.utf8EncodeChar).flatMap encodeByte

/-- A path without the characters after its last separator. -/
def upToSeparator (path : List Char) : List Char :=
  (path.reverse.dropWhile (· ≠ '/')).reverse

/-- Whether a segment names a drive: a letter and a colon or a bar. -/
def isDrive : List Char → Bool
  | [letter, mark] => letter.isAlpha && (mark = ':' || mark = '|')
  | _ => false

/-- A path, which ends with a separator, without its last segment; a drive stays. -/
def parent (path : List Char) : List Char :=
  let body := path.dropLast
  let shorter := upToSeparator body
  if body.isEmpty || isDrive (body.drop shorter.length) then path else shorter

/-- A path with one more segment.  The separator before it is written only if the path is more
than the root. -/
def append (path : List Char) (name : String) : List Char :=
  if name = "." ∨ name = ".." then path
  else
    let base := if path.length = 1 then path else path ++ ['/']
    match kept name with
    | ['.'] => base
    | ['.', '.'] => parent base
    | _ => base ++ encodeSegment name

/-- The bytes that an encoded text stands for; none if a percent sign is not followed by two
digits. -/
def decode : List Char → Option (List UInt8)
  | [] => some []
  | '%' :: high :: low :: rest => do
    let high ← Hex.value? high
    let low ← Hex.value? low
    let others ← decode rest
    return UInt8.ofNat (high * 16 + low) :: others
  | c :: rest =>
    if c = '%' then none else (decode rest).map (String.utf8EncodeChar c ++ ·)

end Endpoint

/-- The path of several names. -/
def endpointPath (names : List String) : String :=
  String.ofList (names.foldl Endpoint.append ['/'])

end PanelForms
