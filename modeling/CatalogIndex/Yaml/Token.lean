/-
  CatalogIndex.Yaml.Token — YAML as tokens.

  Tokens are texts, labels, brackets, and the marks of structure.  Where the structure is shown by
  indentation, tokens that nobody wrote stand for it: a list or map starts at the first mark that is
  indented further than what surrounds it, and ends at the first token that is not.  A map may even
  start before its first mark, since only the colon shows that a key has been read.  The lexer
  therefore remembers, for each bracket around it, where a key may have started.

  ## Main definitions

    * `Token` — the tokens;
    * `Lexer` — what is known at a place of the text;
    * `Lexer.step?` — reads one token;
    * `tokens?` — the tokens of a text.
-/
import CatalogIndex.Yaml.Label
import CatalogIndex.Yaml.Scalar

namespace CatalogIndex.Yaml

/-- A token. -/
inductive Token where
  /-- The version of the notation. -/
  | version (major minor : Nat)
  /-- A handle, and the start of the tags that it abbreviates. -/
  | tagHandle (handle start : String)
  | documentStart
  | documentEnd
  /-- The start of a list that is shown by indentation. -/
  | blockList
  /-- The start of a map that is shown by indentation. -/
  | blockMap
  /-- The end of a list or map that is shown by indentation. -/
  | blockEnd
  | listOpen
  | listClose
  | mapOpen
  | mapClose
  | comma
  /-- The mark of an item. -/
  | dash
  /-- The mark of a key, written or not. -/
  | key
  /-- The mark of a value. -/
  | value
  /-- The repetition of an anchored node. -/
  | again (anchor : String)
  | anchor (name : String)
  | tag (handle text : String)
  | scalar (s : Scalar)
  deriving DecidableEq

/-- A place where a key may have started. -/
structure KeyStart where
  /-- The number of tokens before the key. -/
  before : Nat
  line : Nat
  column : Nat
  /-- Whether a key must start there, since nothing else may. -/
  required : Bool

/-- What is known at a place of a text. -/
structure Lexer where
  /-- What has not been read yet. -/
  rest : List Placed
  /-- The tokens so far, the last one first. -/
  tokens : List Token := []
  /-- How many tokens there are. -/
  count : Nat := 0
  /-- The columns of the lists and maps around, as far as they are shown by indentation, the
      innermost first. -/
  blocks : List Nat := []
  /-- Where a key may have started inside the innermost bracket. -/
  keyStart : Option KeyStart := none
  /-- The same for what is outside of each bracket, the innermost first. -/
  outer : List (Option KeyStart) := []
  /-- Whether a key may start here. -/
  keyAllowed : Bool := true

namespace Lexer

/-! ## §1. Tokens and blocks. -/

/-- Whether the place is inside brackets, where indentation has no meaning. -/
def inFlow (s : Lexer) : Bool := !s.outer.isEmpty

/-- Appends a token. -/
def push (t : Token) (s : Lexer) : Lexer := { s with tokens := t :: s.tokens, count := s.count + 1 }

/-- Inserts a token behind the first `before` ones. -/
def insert (before : Nat) (t : Token) (s : Lexer) : Lexer :=
  let later := s.count - before
  { s with tokens := s.tokens.take later ++ t :: s.tokens.drop later, count := s.count + 1 }

/-- Starts a list or map at a column, behind the first `before` tokens, unless it goes on there. -/
def openBlock (t : Token) (column before : Nat) (s : Lexer) : Lexer :=
  if s.inFlow || s.blocks.head?.any (column ≤ ·) then s
  else { s.insert before t with blocks := column :: s.blocks }

/-- Ends the lists and maps whose column `p` holds of, from the innermost on. -/
def closeBlocks (p : Nat → Bool) (s : Lexer) : Lexer :=
  if s.inFlow then s
  else
    let (closed, blocks) := s.blocks.span p
    { s with
      blocks
      tokens := List.replicate closed.length .blockEnd ++ s.tokens
      count := s.count + closed.length }

/-- Ends all lists and maps. -/
def closeAll (s : Lexer) : Lexer := s.closeBlocks fun _ => true

/-! ## §2. Where keys start. -/

/-- Gives up the place where a key may have started; an error if a key must start there. -/
def dropKey? (s : Lexer) : Option Lexer :=
  if s.keyStart.any (·.required) then none else some { s with keyStart := none }

/-- Remembers the place of `c` if a key may start there. -/
def markKey? (c : Placed) (s : Lexer) : Option Lexer :=
  if s.keyAllowed then do
    let s ← s.dropKey?
    let required := !s.inFlow && s.blocks.head? = some c.column
    return { s with keyStart := some { before := s.count, line := c.line, column := c.column, required } }
  else some s

/-- The longest distance between the start of a key and its colon. -/
def maxKeyLength : Nat := 1024

/-- Whether a key that started there would have to have ended before `c`: a key stands on one line,
    and is not too long. -/
def KeyStart.isStale (c : Placed) (k : KeyStart) : Bool :=
  k.line < c.line || k.column + maxKeyLength < c.column

/-- A place where a key may have started, if the key may still go on at `c`; an error if not and a key
    must start there. -/
def fresh? (c : Placed) (k : Option KeyStart) : Option (Option KeyStart) :=
  if k.any (KeyStart.isStale c) then if k.any (·.required) then none else some none else some k

/-- Gives up the places where a key may have started that cannot still go on at `c`. -/
def dropStale? (c : Placed) (s : Lexer) : Option Lexer := do
  let keyStart ← fresh? c s.keyStart
  let outer ← s.outer.mapM (fresh? c)
  return { s with keyStart, outer }

/-! ## §3. Gaps between tokens. -/

/-- Drops gaps and comments.  Behind the end of a line a key may start, unless the place is inside
    brackets; where it may, a tab is no blank.  `comment` says whether the place is in a comment. -/
def skipGaps (inFlow comment keyAllowed : Bool) : List Placed → Bool × List Placed
  | [] => (keyAllowed, [])
  | c :: rest =>
    if isBreak c.char then skipGaps inFlow false (keyAllowed || !inFlow) rest
    else if comment || isOrderMark c || c.char = ' ' || (c.char = '\t' && (inFlow || !keyAllowed)) then
      skipGaps inFlow comment keyAllowed rest
    else if c.char = '#' then skipGaps inFlow true keyAllowed rest
    else (keyAllowed, c :: rest)

/-- The lexer at the next token. -/
def toToken (s : Lexer) : Lexer :=
  let (keyAllowed, rest) := skipGaps s.inFlow false s.keyAllowed s.rest
  { s with keyAllowed, rest }

/-! ## §4. Single tokens. -/

/-- Reads a directive behind its percent sign. -/
def directive? (cs : List Placed) : Option (Token × List Placed) := do
  let (name, rest) := name cs
  if !endsWord rest then none
  else
    let (token, rest) ←
      if String.ofList name = "YAML" then
        (version? rest).map fun ((major, minor), rest) => (.version major minor, rest)
      else if String.ofList name = "TAG" then
        (tagHandle? rest).map fun ((handle, start), rest) => (.tagHandle handle start, rest)
      else none
    let rest ← restOfLine? rest
    return (token, rest)

/-- A token at the start of a line that ends everything before it. -/
def outermost? (t : Token) (rest : List Placed) (s : Lexer) : Option Lexer := do
  let s ← s.closeAll.dropKey?
  return { s.push t with rest, keyAllowed := false }

/-- An opening bracket at `c`. -/
def openFlow? (t : Token) (c : Placed) (rest : List Placed) (s : Lexer) : Option Lexer := do
  let s ← s.markKey? c
  return { s.push t with rest, keyStart := none, outer := s.keyStart :: s.outer, keyAllowed := true }

/-- A closing bracket. -/
def closeFlow? (t : Token) (rest : List Placed) (s : Lexer) : Option Lexer := do
  let s ← s.dropKey?
  return { s.push t with
    rest, keyStart := s.outer.head?.join, outer := s.outer.tail, keyAllowed := false }

/-- A comma. -/
def comma? (rest : List Placed) (s : Lexer) : Option Lexer := do
  let s ← s.dropKey?
  return { s.push .comma with rest, keyAllowed := true }

/-- The mark of an item at `c`.  Inside brackets it is an error, but not one of the lexer. -/
def dash? (c : Placed) (rest : List Placed) (s : Lexer) : Option Lexer :=
  if !s.inFlow && !s.keyAllowed then none
  else do
    let s ← (s.openBlock .blockList c.column s.count).dropKey?
    return { s.push .dash with rest, keyAllowed := true }

/-- The mark of a key at `c`. -/
def key? (c : Placed) (rest : List Placed) (s : Lexer) : Option Lexer :=
  if !s.inFlow && !s.keyAllowed then none
  else do
    let s ← (s.openBlock .blockMap c.column s.count).dropKey?
    return { s.push .key with rest, keyAllowed := !s.inFlow }

/-- The mark of a value at `c`.  If a key may have started before, it did. -/
def value? (c : Placed) (rest : List Placed) (s : Lexer) : Option Lexer :=
  match s.keyStart with
  | some k =>
    let s := (s.insert k.before .key).openBlock .blockMap k.column k.before
    some { s.push .value with rest, keyStart := none, keyAllowed := false }
  | none =>
    if !s.inFlow && !s.keyAllowed then none
    else
      let s := s.openBlock .blockMap c.column s.count
      some { s.push .value with rest, keyAllowed := !s.inFlow }

/-- A token at `c` that may be a key, or the start of one. -/
def keyLike? (c : Placed) (read : Option (Token × List Placed)) (s : Lexer) : Option Lexer := do
  let s ← s.markKey? c
  let (token, rest) ← read
  return { s.push token with rest, keyAllowed := false }

/-- A text between quotes at `c`. -/
def quotedToken? (c : Placed) (rest : List Placed) (s : Lexer) : Option Lexer :=
  s.keyLike? c <| (quoted? c.char rest).map fun (text, rest) =>
    (.scalar { style := .quoted, text := String.ofList text }, rest)

/-- A plain text at `c`.  Behind the end of a line a key may start. -/
def plainToken? (c : Placed) (rest : List Placed) (s : Lexer) : Option Lexer := do
  let s ← s.markKey? c
  let plain ← plain? s.inFlow (s.blocks.head?.elim 0 (· + 1)) (c :: rest)
  let s := s.push (.scalar { style := .plain, text := String.ofList plain.chars })
  return { s with rest := plain.rest, keyAllowed := plain.atBreak }

/-- A block of lines; inside brackets there is none. -/
def blockToken? (style : Style) (rest : List Placed) (s : Lexer) : Option Lexer :=
  if s.inFlow then none
  else do
    let s ← s.dropKey?
    let (text, rest) ← block? (style = .folded) s.blocks.head? rest
    return { s.push (.scalar { style, text := String.ofList text }) with rest, keyAllowed := true }

/-- Reads the token at `c`, which is not a mark of documents. -/
def token? (c : Placed) (rest : List Placed) (s : Lexer) : Option Lexer :=
  match c.char with
  | '[' => s.openFlow? .listOpen c rest
  | '{' => s.openFlow? .mapOpen c rest
  | ']' => s.closeFlow? .listClose rest
  | '}' => s.closeFlow? .mapClose rest
  | ',' => s.comma? rest
  | '*' => s.keyLike? c ((anchor? rest).map fun (name, rest) => (.again name, rest))
  | '&' => s.keyLike? c ((anchor? rest).map fun (name, rest) => (.anchor name, rest))
  | '!' => s.keyLike? c ((tag? s.inFlow rest).map fun ((handle, text), rest) => (.tag handle text, rest))
  | '"' | '\x27' => s.quotedToken? c rest
  | '|' => s.blockToken? .literal rest
  | '>' => s.blockToken? .folded rest
  | '-' => if endsWord rest then s.dash? c rest else s.plainToken? c rest
  | '?' => if s.inFlow || endsWord rest then s.key? c rest else s.plainToken? c rest
  | ':' => if s.inFlow || endsWord rest then s.value? c rest else s.plainToken? c rest
  | '%' | '@' | '\x60' | '\t' => none
  | _ => s.plainToken? c rest

/-- Reads the token at `c`, the next character that is no gap. -/
def step? (c : Placed) (rest : List Placed) (s : Lexer) : Option Lexer := do
  let s ← s.dropStale? c
  let s := s.closeBlocks (c.column < ·)
  if c.column = 0 ∧ c.char = '%' then
    let (token, rest) ← directive? rest
    s.outermost? token rest
  else match afterMark? '-' (c :: rest), afterMark? '.' (c :: rest) with
    | some rest, _ => s.outermost? .documentStart rest
    | none, some rest => s.outermost? .documentEnd rest
    | none, none => s.token? c rest

/-! ## §5. All tokens. -/

/-- Reads all tokens; `steps` bounds their number. -/
def run? : Nat → Lexer → Option (List Token)
  | 0, _ => none
  | steps + 1, s =>
    let s := s.toToken
    match s.rest with
    | [] => s.closeAll.dropKey?.map (·.tokens.reverse)
    | c :: rest => (s.step? c rest).bind (run? steps)

end Lexer

/-- The tokens of a text. -/
def tokens? (text : String) : Option (List Token) := do
  let cs ← place? text
  Lexer.run? (cs.length + 1) { rest := cs }

end CatalogIndex.Yaml
