/-
  CatalogIndex.Yaml.Placed — a YAML text as characters that know where they stand.

  In YAML the column of a character is part of the meaning of a text.  A text is therefore turned
  into a list of characters with line and column before anything is read from it, so that reading is
  plain recursion on a list.  The many ways to end a line are made one on the way, except for the two
  separators of Unicode, which a text keeps.

  ## Main definitions

    * `Placed` — a character with its line and column;
    * `place?` — the characters of a text, if it holds none that YAML forbids;
    * `isBlank`, `isBreak`, `isGap` — what stands between words;
    * `restOfLine?` — the end of a line that may hold nothing but a comment.
-/
namespace CatalogIndex.Yaml

/-! ## §1. Characters. -/

/-- Blanks inside a line. -/
def isBlank (c : Char) : Bool := c = ' ' || c = '\t'

/-- Ends of lines. -/
def isBreak (c : Char) : Bool := c = '\n' || c = '\u2028' || c = '\u2029'

/-- Whatever separates words. -/
def isGap (c : Char) : Bool := isBlank c || isBreak c

/-- The characters with a meaning inside brackets. -/
def isBracketMark (c : Char) : Bool := [',', '[', ']', '{', '}'].contains c

/-- The characters of the names of anchors, tags and directives. -/
def isNameChar (c : Char) : Bool := c.isAlphanum || c = '_' || c = '-'

/-- Whether a text may hold the character. -/
def isPrintable (c : Char) : Bool :=
  let n := c.toNat
  n = 9 || n = 10 || n = 13 || (0x20 ≤ n && n ≤ 0x7E) || n = 0x85 || (0xA0 ≤ n && n ≤ 0xFFFD)
    || 0x10000 ≤ n

/-- The number that digits of a base stand for; there is at least one digit. -/
def ofDigits? (base : Nat) (cs : List Char) : Option Nat :=
  if cs.isEmpty then none
  else cs.foldlM (fun n c => (digit? c).map (base * n + ·)) 0
where
  digit? (c : Char) : Option Nat :=
    (if c.isDigit then some (c.toNat - '0'.toNat)
    else if 'a' ≤ c ∧ c ≤ 'f' then some (c.toNat - 'a'.toNat + 10)
    else if 'A' ≤ c ∧ c ≤ 'F' then some (c.toNat - 'A'.toNat + 10)
    else none).filter (· < base)

/-! ## §2. Places. -/

/-- A character with its line and its column, both counted from 0. -/
structure Placed where
  char : Char
  line : Nat
  column : Nat

/-- The text with one kind of line end in place of four. -/
def unifyBreaks : List Char → List Char
  | [] => []
  | '\r' :: '\n' :: rest => '\n' :: unifyBreaks rest
  | c :: rest => (if c = '\r' ∨ c = '\u0085' then '\n' else c) :: unifyBreaks rest

/-- The characters, of which the first stands at the given line and column. -/
def placeFrom (line column : Nat) : List Char → List Placed
  | [] => []
  | c :: rest =>
    { char := c, line, column } ::
      (if isBreak c then placeFrom (line + 1) 0 rest else placeFrom line (column + 1) rest)

/-- The characters of a text. -/
def place? (text : String) : Option (List Placed) :=
  let cs := text.toList
  if cs.all isPrintable then some (placeFrom 0 0 (unifyBreaks cs)) else none

/-- Whether the character is a mark of the byte order at the start of a line.  Between tokens it is no
    character of the text, but it takes up a column. -/
def isOrderMark (c : Placed) : Bool := c.column = 0 && c.char = '\uFEFF'

/-! ## §3. Looking ahead. -/

/-- Whether the next character is one that `p` holds of. -/
def nextIs (p : Char → Bool) : List Placed → Bool
  | [] => false
  | c :: _ => p c.char

/-- Whether a word ends here: at a gap, or at the end of the text. -/
def endsWord : List Placed → Bool
  | [] => true
  | c :: _ => isGap c.char

/-- Whether the next character stands to the left of `column`. -/
def isLeftOf (column : Nat) : List Placed → Bool
  | [] => false
  | c :: _ => c.column < column

/-- What follows the mark at the start of a line that begins (`---`) or ends (`...`) a document. -/
def afterMark? (mark : Char) : List Placed → Option (List Placed)
  | a :: b :: c :: rest =>
    if a.column = 0 ∧ a.char = mark ∧ b.char = mark ∧ c.char = mark ∧ endsWord rest then some rest
    else none
  | _ => none

/-- Whether a mark of documents stands here. -/
def atMark (cs : List Placed) : Bool := (afterMark? '-' cs).isSome || (afterMark? '.' cs).isSome

/-- What follows the end of the line, before which only blanks and a comment may stand. -/
def restOfLine? (cs : List Placed) : Option (List Placed) :=
  let cs := cs.dropWhile (isBlank ·.char)
  let cs := if nextIs (· = '#') cs then cs.dropWhile (!isBreak ·.char) else cs
  match cs with
  | [] => some []
  | c :: rest => if isBreak c.char then some rest else none

end CatalogIndex.Yaml
