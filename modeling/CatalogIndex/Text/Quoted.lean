/-
  CatalogIndex.Text.Quoted — a text as it is shown in a report.

  A report shows a text between quotes.  Quotes, backslashes and the common control characters are
  written with a backslash; a character that cannot be seen, or that would change the look of its
  neighbour, is written by its number.
-/
import CatalogIndex.Text.NumberedTable

namespace CatalogIndex.Text

/-- One character between quotes. -/
def quotedChar (c : Char) : List Char :=
  if c = '"' ∨ c = '\\' then ['\\', c]
  else if c = '\x00' then ['\\', '0']
  else if c = '\t' then ['\\', 't']
  else if c = '\n' then ['\\', 'n']
  else if c = '\r' then ['\\', 'r']
  else if isNumbered c then
    ['\\', 'u', '{'] ++ Nat.toDigits 16 c.toNat ++ ['}']
  else [c]

/-- The text between quotes. -/
def quoted (s : String) : String := String.ofList ('"' :: (s.toList.flatMap quotedChar ++ ['"']))

end CatalogIndex.Text
