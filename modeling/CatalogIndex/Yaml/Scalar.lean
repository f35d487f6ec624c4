/-
  CatalogIndex.Yaml.Scalar — the texts of YAML.

  A text is written plain, between quotes, or as a block of indented lines.  Plain and quoted texts
  may run over several lines: one end of a line is read as a blank, and of several the first is
  dropped.  In a literal block all ends of lines are kept, and a folded block joins lines like a
  plain text does.

  ## Main definitions

    * `Style`, `Scalar` — a text and how it is written;
    * `plain?`, `quoted?`, `block?` — read a text of each kind and return what follows it.
-/
import CatalogIndex.Yaml.Placed

namespace CatalogIndex.Yaml

/-- How a text is written. -/
inductive Style where
  | plain
  /-- Between quotes of either kind. -/
  | quoted
  /-- A block that keeps the ends of its lines. -/
  | literal
  /-- A block that joins its lines. -/
  | folded
  deriving DecidableEq

/-- A text and how it is written. -/
structure Scalar where
  style : Style
  text : String
  deriving DecidableEq

/-! ## §1. Gaps inside a text. -/

/-- A gap between the words of a text. -/
inductive Gap where
  /-- Blanks on a line. -/
  | blanks (cs : List Char)
  /-- Ends of lines.  The first is missing when it was escaped. -/
  | breaks (first : Option Char) (more : List Char)

namespace Gap

/-- What a gap means: blanks stand for themselves, one end of a line for a blank, and several ends
    for all but the first.  The separators of Unicode always stand for themselves. -/
def text : Gap → List Char
  | .blanks cs => cs
  | .breaks (some '\n') [] => [' ']
  | .breaks (some '\n') more => more
  | .breaks first more => first.toList ++ more

/-- Whether the gap spans lines. -/
def isBroken : Gap → Bool
  | .blanks _ => false
  | .breaks .. => true

/-- Reads the ends of lines in a gap after its first.  A tab to the left of `indent` is an error. -/
def moreBreaks? (indent : Nat) : List Placed → Option (List Char × List Placed)
  | [] => some ([], [])
  | c :: rest =>
    if c.char = '\t' ∧ c.column < indent then none
    else if isBlank c.char then moreBreaks? indent rest
    else if isBreak c.char then
      (moreBreaks? indent rest).map fun (ends, rest) => (c.char :: ends, rest)
    else some ([], c :: rest)

/-- Reads a gap, which may be empty. -/
def read? (indent : Nat) (cs : List Placed) : Option (Gap × List Placed) :=
  let (before, rest) := cs.span (isBlank ·.char)
  match rest with
  | c :: rest' =>
    if isBreak c.char then
      (moreBreaks? indent rest').map fun (more, rest) => (.breaks (some c.char) more, rest)
    else some (.blanks (before.map (·.char)), rest)
  | [] => some (.blanks (before.map (·.char)), [])

end Gap

/-! ## §2. Plain texts. -/

/-- Reads the characters up to a gap or a mark that ends a plain text: a colon that a word ends at,
    and inside brackets (`inFlow`) also their marks.  A colon in front of such a mark is an error. -/
def plainWord? (inFlow : Bool) : List Placed → Option (List Char × List Placed)
  | [] => some ([], [])
  | c :: rest =>
    if isGap c.char then some ([], c :: rest)
    else if c.char = ':' && inFlow && nextIs (fun d => d = '?' || isBracketMark d) rest then none
    else if (c.char = ':' && endsWord rest) || (inFlow && isBracketMark c.char) then
      some ([], c :: rest)
    else (plainWord? inFlow rest).map fun (word, rest) => (c.char :: word, rest)

/-- What reading a plain text yields. -/
structure PlainText where
  chars : List Char
  /-- Whether the text was followed by the end of a line. -/
  atBreak : Bool
  rest : List Placed

/-- Reads the words of a plain text that follow the gap `gap`.  Outside of brackets, a line with
    less indentation than `indent` ends the text.  `steps` bounds the number of words. -/
def plainWords? (inFlow : Bool) (indent : Nat) : Nat → Gap → List Placed → Option PlainText
  | 0, _, _ => none
  | steps + 1, gap, cs =>
    if atMark cs || nextIs (· = '#') cs then some { chars := [], atBreak := gap.isBroken, rest := cs }
    else do
      let (word, rest) ← plainWord? inFlow cs
      if word.isEmpty then
        return { chars := [], atBreak := gap.isBroken, rest }
      else if !nextIs isGap rest then
        return { chars := gap.text ++ word, atBreak := false, rest }
      else
        let (next, rest) ← Gap.read? indent rest
        if !inFlow && isLeftOf indent rest then
          return { chars := gap.text ++ word, atBreak := next.isBroken, rest }
        else
          let more ← plainWords? inFlow indent steps next rest
          return { more with chars := gap.text ++ word ++ more.chars }

/-- Reads a plain text. -/
def plain? (inFlow : Bool) (indent : Nat) (cs : List Placed) : Option PlainText :=
  plainWords? inFlow indent (cs.length + 1) (.blanks []) cs

/-! ## §3. Texts between quotes. -/

/-- What a letter behind a backslash stands for. -/
def escapeLetter? : Char → Option Char
  | '0' => some '\x00'
  | 'a' => some '\x07'
  | 'b' => some '\x08'
  | 't' | '\t' => some '\t'
  | 'n' => some '\n'
  | 'v' => some '\x0b'
  | 'f' => some '\x0c'
  | 'r' => some '\r'
  | 'e' => some '\x1b'
  | 'N' => some '\u0085'
  | '_' => some '\u00a0'
  | 'L' => some '\u2028'
  | 'P' => some '\u2029'
  | c => if c = ' ' ∨ c = '"' ∨ c = '/' ∨ c = '\\' then some c else none

/-- How many digits follow a letter that stands for a character by its number. -/
def numberedLength? : Char → Option Nat
  | 'x' => some 2
  | 'u' => some 4
  | 'U' => some 8
  | _ => none

/-- The character with a given number. -/
def character? (n : Nat) : Option Char := if n.isValidChar then some (Char.ofNat n) else none

/-- Reads what follows a backslash. -/
def escape? : List Placed → Option (Char × List Placed)
  | [] => none
  | c :: rest =>
    match numberedLength? c.char with
    | some n =>
      let digits := (rest.take n).map (·.char)
      if digits.length = n then ((ofDigits? 16 digits).bind character?).map (·, rest.drop n)
      else none
    | none => (escapeLetter? c.char).map (·, rest)

/-- What reading a word between quotes yields. -/
structure QuotedWord where
  chars : List Char
  /-- Whether the word ended with an escaped end of a line, which is part of it. -/
  joined : Bool := false
  rest : List Placed

/-- The word with one more character in front. -/
def QuotedWord.cons (c : Char) (w : QuotedWord) : QuotedWord := { w with chars := c :: w.chars }

/-- Reads the characters up to a gap or a single quote.  Two single quotes stand for one. -/
def singleWord : List Placed → QuotedWord
  | [] => { chars := [], rest := [] }
  | c :: rest =>
    if isGap c.char then { chars := [], rest := c :: rest }
    else if c.char ≠ '\x27' then (singleWord rest).cons c.char
    else match rest with
      | d :: rest' =>
        if d.char = '\x27' then (singleWord rest').cons '\x27' else { chars := [], rest := c :: rest }
      | [] => { chars := [], rest := [c] }

/-- Reads the characters up to a gap or a double quote; `steps` bounds their number. -/
def doubleWord? : Nat → List Placed → Option QuotedWord
  | 0, _ => none
  | _, [] => some { chars := [], rest := [] }
  | steps + 1, c :: rest =>
    if isGap c.char || c.char = '"' then some { chars := [], rest := c :: rest }
    else if c.char = '\\' then
      match rest with
      | d :: rest' =>
        if isBreak d.char then some { chars := [], joined := true, rest := rest' }
        else do
          let (read, rest) ← escape? rest
          (doubleWord? steps rest).map (·.cons read)
      | [] => none
    else (doubleWord? steps rest).map (·.cons c.char)

/-- Reads a text up to its closing quote.  A mark of documents spoils it.  `steps` bounds the number
    of words. -/
def quotedWords? (quote : Char) : Nat → List Placed → Option (List Char × List Placed)
  | 0, _ => none
  | steps + 1, cs =>
    if cs.isEmpty || atMark cs then none
    else do
      let word ← if quote = '"' then doubleWord? (steps + 1) cs else some (singleWord cs)
      if nextIs (· = quote) word.rest then
        return (word.chars, word.rest.drop 1)
      else
        let (gap, rest) ←
          if word.joined then
            (Gap.moreBreaks? 0 word.rest).map fun (more, rest) => (.breaks none more, rest)
          else Gap.read? 0 word.rest
        let (more, rest) ← quotedWords? quote steps rest
        return (word.chars ++ gap.text ++ more, rest)

/-- Reads a text behind its opening quote. -/
def quoted? (quote : Char) (cs : List Placed) : Option (List Char × List Placed) :=
  quotedWords? quote (cs.length + 1) cs

/-! ## §4. Blocks of lines. -/

/-- What becomes of the ends of lines behind a block. -/
inductive Chomping where
  /-- None is kept. -/
  | strip
  /-- The first is kept. -/
  | clip
  /-- All are kept. -/
  | keep
  deriving DecidableEq

/-- Reads the sign that says what becomes of the ends of lines. -/
def chomping? : List Placed → Option Chomping × List Placed
  | [] => (none, [])
  | c :: rest =>
    if c.char = '-' then (some .strip, rest)
    else if c.char = '+' then (some .keep, rest)
    else (none, c :: rest)

/-- Reads the digit that says how far a block is indented; it is not zero. -/
def increment? : List Placed → Option (Option Nat × List Placed)
  | [] => some (none, [])
  | c :: rest =>
    if c.char = '0' then none
    else if c.char.isDigit then some (some (c.char.toNat - '0'.toNat), rest)
    else some (none, c :: rest)

/-- Reads the sign and the digit behind the mark of a block, in either order, up to the end of the
    line. -/
def blockHead? (cs : List Placed) : Option (Chomping × Option Nat × List Placed) := do
  let (before, cs) := chomping? cs
  let (increment, cs) ← increment? cs
  let (behind, cs) := if before.isNone && increment.isSome then chomping? cs else (none, cs)
  let rest ← restOfLine? cs
  return ((before.or behind).getD .clip, increment, rest)

/-- The ends of the empty lines in front of a line of a block. -/
structure EmptyLines where
  breaks : List Char
  /-- The largest column at which one of the lines ends, or the line behind them starts. -/
  widest : Nat
  rest : List Placed

/-- Reads empty lines.  Blanks are skipped up to the column `indent`, or all of them if it is not
    known yet.  A tab in their place is an error. -/
def emptyLines? (indent : Option Nat) : List Placed → Option EmptyLines
  | [] => some { breaks := [], widest := 0, rest := [] }
  | c :: rest =>
    let inside := indent.all (c.column < ·)
    if inside && c.char = ' ' then emptyLines? indent rest
    else if inside && c.char = '\t' then none
    else if isBreak c.char then
      (emptyLines? indent rest).map fun lines =>
        { lines with breaks := c.char :: lines.breaks, widest := max c.column lines.widest }
    else some { breaks := [], widest := c.column, rest := c :: rest }

/-- Reads the lines of a block.  `joins` says whether lines are joined, `last` is the end of the
    line before and `breaks` are those of the empty lines behind it, and `indented` says whether that
    line started with a blank: such lines are not joined.  `steps` bounds the number of lines. -/
def blockLines? (joins : Bool) (chomping : Chomping) (indent : Nat) :
    Nat → Option Char → List Char → Bool → List Placed → Option (List Char × List Placed)
  | 0, _, _, _, _ => none
  | steps + 1, last, breaks, indented, cs =>
    match cs with
    | c :: _ =>
      if c.column ≠ indent then some (tail last breaks, cs)
      else do
        let starts := isBlank c.char
        let between :=
          if joins && last = some '\n' && !indented && !starts then
            if breaks.isEmpty then [' '] else breaks
          else last.toList ++ breaks
        let (line, rest) := cs.span (!isBreak ·.char)
        let next ← emptyLines? (some indent) (rest.drop 1)
        let (more, rest) ←
          blockLines? joins chomping indent steps (rest.head?.map (·.char)) next.breaks starts next.rest
        return (between ++ line.map (·.char) ++ more, rest)
    | [] => some (tail last breaks, [])
where
  /-- The ends of lines that stay behind the block. -/
  tail (last : Option Char) (breaks : List Char) : List Char :=
    (if chomping = .strip then [] else last.toList) ++ (if chomping = .keep then breaks else [])

/-- Reads a block behind its mark.  `parent` is the indentation of what the block is part of, if that
    is part of anything; without a digit, the first line says how far the block is indented. -/
def block? (joins : Bool) (parent : Option Nat) (cs : List Placed) :
    Option (List Char × List Placed) := do
  let (chomping, increment, rest) ← blockHead? cs
  let given := increment.map (parent.getD 0 + ·)
  let lines ← emptyLines? given rest
  let least := max 1 (parent.elim 0 (· + 1))
  let indent := given.getD (max lines.widest least)
  blockLines? joins chomping indent (rest.length + 1) none lines.breaks false lines.rest

end CatalogIndex.Yaml
