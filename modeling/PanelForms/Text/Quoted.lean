import PanelForms.Text.Printable

/-!
# Quoted text in messages

A message that cites a text shows it between quotes, so that blanks and invisible characters can
be told apart.  The quote, the backslash, the usual control characters and every character that
cannot be shown on its own are escaped.

Main definitions:

- `hexOf`: a number in lower-case hexadecimal digits.
- `quoteChar`: how one character is shown.
- `quoted`: a text between quotes.
-/

namespace PanelForms
namespace Text

/-- A number in lower-case hexadecimal digits, without leading zeros. -/
def hexOf (n : Nat) : List Char :=
  Nat.toDigits 16 n

/-- How one character is shown between quotes. -/
def quoteChar (c : Char) : List Char :=
  if c = '"' then ['\\', '"']
  else if c = '\\' then ['\\', '\\']
  else if c = '\n' then ['\\', 'n']
  else if c = '\r' then ['\\', 'r']
  else if c = '\t' then ['\\', 't']
  else if c.toNat = 0 then ['\\', '0']
  else if extendsGrapheme c || !isPrintable c then
    ['\\', 'u', '\x7b'] ++ hexOf c.toNat ++ ['\x7d']
  else [c]

/-- A text between quotes. -/
def quoted (s : String) : String :=
  String.ofList ('"' :: (s.toList.flatMap quoteChar ++ ['"']))

end Text
end PanelForms
