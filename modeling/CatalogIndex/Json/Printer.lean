/-
  CatalogIndex.Json.Printer — the compact text of a value.

  No blanks between the parts, fields in the order the object holds them, and in texts only those
  characters escaped that have to be: the quote, the backslash and the controls below U+0020, five of
  them by a letter and the rest by four hexadecimal digits.
-/
import CatalogIndex.Json.Basic
import CatalogIndex.Decimal.Shortest

namespace CatalogIndex.Json

/-! ## §1. Texts and numbers. -/

/-- How one character stands inside a quoted text. -/
def escaped (c : Char) : List Char :=
  if c = '"' then ['\\', '"']
  else if c = '\\' then ['\\', '\\']
  else if c = '\n' then ['\\', 'n']
  else if c = '\r' then ['\\', 'r']
  else if c = '\t' then ['\\', 't']
  else if c = '\x08' then ['\\', 'b']
  else if c = '\x0c' then ['\\', 'f']
  else if c.toNat < 32 then
    ['\\', 'u', '0', '0', Nat.digitChar (c.toNat / 16), Nat.digitChar (c.toNat % 16)]
  else [c]

/-- The characters of a text and its closing quote. -/
def quotedTail : List Char → List Char
  | [] => ['"']
  | c :: cs => escaped c ++ quotedTail cs

/-- A text between quotes. -/
def quoted (s : String) : List Char := '"' :: quotedTail s.toList

/-- An integer in decimal digits. -/
def writtenInt (n : Int) : List Char :=
  if n < 0 then '-' :: Nat.toDigits 10 n.natAbs else Nat.toDigits 10 n.natAbs

/-- A number: an integer in digits, a double as the shortest decimal that reads back. -/
def writtenNumber : Number → List Char
  | .int n => writtenInt n
  | .double d => d.written

/-! ## §2. Values. -/

mutual

/-- The compact text of a value, character by character. -/
def render : Json → List Char
  | .null => ['n', 'u', 'l', 'l']
  | .bool true => ['t', 'r', 'u', 'e']
  | .bool false => ['f', 'a', 'l', 's', 'e']
  | .num n => writtenNumber n
  | .str s => quoted s
  | .arr [] => ['[', ']']
  | .arr (v :: rest) => '[' :: (render v ++ renderItems rest)
  | .obj [] => ['{', '}']
  | .obj ((key, v) :: rest) => '{' :: (quoted key ++ ':' :: (render v ++ renderFields rest))

/-- The items after the first one, and the closing bracket. -/
def renderItems : List Json → List Char
  | [] => [']']
  | v :: rest => ',' :: (render v ++ renderItems rest)

/-- The fields after the first one, and the closing brace. -/
def renderFields : List (String × Json) → List Char
  | [] => ['}']
  | (key, v) :: rest => ',' :: (quoted key ++ ':' :: (render v ++ renderFields rest))

end

/-- The compact text of a value. -/
def compact (v : Json) : String := String.ofList v.render

/-- A value as plain text: a text stands for itself, anything else for its compact text. -/
def plainText : Json → String
  | .str s => s
  | v => v.compact

end CatalogIndex.Json
