/-
  CatalogIndex.Yaml.Label — names that are attached to the nodes and documents of YAML.

  A node may carry an anchor, by which it is repeated elsewhere, and a tag, which says what it is.  A
  document may start with directives: the version of the notation, and handles that abbreviate tags.

  ## Main definitions

    * `anchor?` — the name of an anchor;
    * `tag?` — a tag, as a handle and what follows it;
    * `version?`, `tagHandle?` — what the two directives say.
-/
import CatalogIndex.Yaml.Placed

namespace CatalogIndex.Yaml

/-- Reads the longest stretch of characters of names. -/
def name (cs : List Placed) : List Char × List Placed :=
  let (name, rest) := cs.span (isNameChar ·.char)
  (name.map (·.char), rest)

/-! ## §1. Anchors. -/

/-- Whether the name of an anchor may end in front of the character. -/
def endsAnchor (c : Char) : Bool := ['?', ':', ',', ']', '}', '%', '@', '\x60'].contains c

/-- Reads the name of an anchor, which is not empty. -/
def anchor? (cs : List Placed) : Option (String × List Placed) :=
  let (name, rest) := name cs
  if name.isEmpty || !(endsWord rest || nextIs endsAnchor rest) then none
  else some (String.ofList name, rest)

/-! ## §2. Tags. -/

/-- The characters of tags.  Inside angle brackets (`verbatim`) there are more. -/
def isTagChar (verbatim : Bool) (c : Char) : Bool :=
  isNameChar c || ";/?:@&=+$.%!~*\x27()".toList.contains c || (verbatim && [',', '[', ']'].contains c)

/-- How many octets a character has whose first octet is the given one. -/
def octets? (first : Nat) : Option Nat :=
  if first < 0x80 then some 1
  else if 0xC0 ≤ first ∧ first < 0xE0 then some 2
  else if 0xE0 ≤ first ∧ first < 0xF0 then some 3
  else if 0xF0 ≤ first ∧ first < 0xF8 then some 4
  else none

/-- Reads an octet: a percent sign and two hexadecimal digits. -/
def octet? : List Placed → Option (Nat × List Placed)
  | a :: b :: c :: rest =>
    if a.char = '%' then (ofDigits? 16 [b.char, c.char]).map (·, rest) else none
  | _ => none

/-- Reads `count` octets that continue a character with the number `n` so far. -/
def moreOctets? (n : Nat) : Nat → List Placed → Option (Nat × List Placed)
  | 0, cs => some (n, cs)
  | count + 1, cs => do
    let (octet, rest) ← octet? cs
    if octet / 64 = 2 then moreOctets? (64 * n + octet % 64) count rest else none

/-- Reads a character by its octets. -/
def octetChar? (cs : List Placed) : Option (Char × List Placed) := do
  let (first, rest) ← octet? cs
  let count ← octets? first
  let bits := if count = 1 then first else first % Nat.pow 2 (7 - count)
  let (n, rest) ← moreOctets? bits (count - 1) rest
  return (Char.ofNat n, rest)

/-- Reads the characters of a tag; `steps` bounds their number. -/
def tagText? (verbatim : Bool) : Nat → List Placed → Option (List Char × List Placed)
  | 0, _ => none
  | _, [] => some ([], [])
  | steps + 1, c :: rest =>
    if !isTagChar verbatim c.char then some ([], c :: rest)
    else do
      let (read, rest) ← if c.char = '%' then octetChar? (c :: rest) else some (c.char, rest)
      let (more, rest) ← tagText? verbatim steps rest
      return (read :: more, rest)

/-- Reads the characters of a tag, of which there is at least one. -/
def someTagText? (verbatim : Bool) (cs : List Placed) : Option (List Char × List Placed) :=
  (tagText? verbatim (cs.length + 1) cs).filter (!·.1.isEmpty)

/-- Reads a tag behind its exclamation mark: `<text>`, `text`, or `handle!text`. -/
def tagBody? (cs : List Placed) : Option ((String × String) × List Placed) :=
  if nextIs (· = '<') cs then do
    let (text, rest) ← someTagText? true (cs.drop 1)
    if nextIs (· = '>') rest then return (("", String.ofList text), rest.drop 1) else none
  else
    let (name, rest) := name cs
    if nextIs (· = '!') rest then do
      let (text, rest) ← someTagText? false (rest.drop 1)
      return ((String.ofList ('!' :: name ++ ['!']), String.ofList text), rest)
    else do
      let (text, rest) ← tagText? false (rest.length + 1) rest
      let text := name ++ text
      return (if text.isEmpty then ("", "!") else ("!", String.ofList text), rest)

/-- Reads a tag behind its exclamation mark.  It is set apart from what follows; inside brackets a
    comma may follow as well. -/
def tag? (inFlow : Bool) (cs : List Placed) : Option ((String × String) × List Placed) :=
  (tagBody? cs).filter fun (_, rest) => endsWord rest || (inFlow && nextIs (· = ',') rest)

/-! ## §3. Directives. -/

/-- Reads a number of at most nine digits. -/
def shortNumber? (cs : List Placed) : Option (Nat × List Placed) :=
  let (digits, rest) := cs.span (·.char.isDigit)
  if digits.length ≤ 9 then (ofDigits? 10 (digits.map (·.char))).map (·, rest) else none

/-- Reads the version of the notation. -/
def version? (cs : List Placed) : Option ((Nat × Nat) × List Placed) := do
  let (major, rest) ← shortNumber? (cs.dropWhile (isBlank ·.char))
  if nextIs (· = '.') rest then
    let (minor, rest) ← shortNumber? (rest.drop 1)
    return ((major, minor), rest)
  else none

/-- Reads a handle, `!`, `!!` or `!name!`, and the start of the tags that it abbreviates. -/
def tagHandle? (cs : List Placed) : Option ((String × String) × List Placed) := do
  let cs := cs.dropWhile (isBlank ·.char)
  if !nextIs (· = '!') cs then none
  else
    let (name, rest) := name (cs.drop 1)
    let (handle, rest) ←
      if nextIs (· = '!') rest then some ('!' :: name ++ ['!'], rest.drop 1)
      else if name.isEmpty then some (['!'], rest)
      else none
    if !nextIs isBlank rest then none
    else
      let (start, rest) ← someTagText? true (rest.dropWhile (isBlank ·.char))
      if endsWord rest then return ((String.ofList handle, String.ofList start), rest) else none

end CatalogIndex.Yaml
