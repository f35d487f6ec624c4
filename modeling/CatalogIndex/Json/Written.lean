/-
  CatalogIndex.Json.Written — a JSON text as it is written.

  Reading a text keeps everything that a later decoder may care about: the fields of an object in
  the order of the text, with repeated keys, numbers too large for a double, and escaped halves of a
  surrogate pair that stand alone.  None of these spoils the text, since a decoder may pass over the
  place where it occurs; what is not JSON at all does.

  ## Main definitions

    * `Written` — the tree of a text;
    * `Written.read?` — reads a text that holds one value and nothing else.
-/
import CatalogIndex.Json.Basic

namespace CatalogIndex

/-- A JSON text as a tree. -/
inductive Written where
  | null
  | bool (b : Bool)
  /-- A number; `none` when it lies beyond the doubles. -/
  | num (value : Option Number)
  /-- A text; `none` when an escape in it stands for half a character. -/
  | str (text : Option String)
  | arr (items : List Written)
  /-- The fields in the order of the text, with keys that may be repeated or ill-formed. -/
  | obj (pairs : List (Option String × Written))
  deriving Inhabited

namespace Written

/-! ## §1. Characters. -/

/-- The four characters that may stand between the parts of a text. -/
def isGap (c : Char) : Bool := c = ' ' || c = '\t' || c = '\n' || c = '\r'

def skipGap (cs : List Char) : List Char := cs.dropWhile isGap

/-- The value of a hexadecimal digit. -/
def hexValue? (c : Char) : Option Nat :=
  if '0' ≤ c ∧ c ≤ '9' then some (c.toNat - '0'.toNat)
  else if 'a' ≤ c ∧ c ≤ 'f' then some (c.toNat - 'a'.toNat + 10)
  else if 'A' ≤ c ∧ c ≤ 'F' then some (c.toNat - 'A'.toNat + 10)
  else none

/-- The number written by four hexadecimal digits. -/
def hex4? (a b c d : Char) : Option Nat := do
  some ((((← hexValue? a) * 16 + (← hexValue? b)) * 16 + (← hexValue? c)) * 16 + (← hexValue? d))

/-- The character an escape letter stands for. -/
def escapeLetter? : Char → Option Char
  | '"' => some '"'
  | '\\' => some '\\'
  | '/' => some '/'
  | 'b' => some '\x08'
  | 'f' => some '\x0c'
  | 'n' => some '\n'
  | 'r' => some '\r'
  | 't' => some '\t'
  | _ => none

def isHighHalf (n : Nat) : Bool := 0xD800 ≤ n && n ≤ 0xDBFF

def isLowHalf (n : Nat) : Bool := 0xDC00 ≤ n && n ≤ 0xDFFF

/-- The character of a surrogate pair. -/
def joinHalves (high low : Nat) : Char :=
  Char.ofNat (0x10000 + (high - 0xD800) * 0x400 + (low - 0xDC00))

/-! ## §2. Texts. -/

/-- Appends `c` to the characters so far; a first half of a pair left waiting spoils the text. -/
def extend (acc : Option (List Char)) (half : Option Nat) (c : Char) : Option (List Char) :=
  if half.isSome then none else acc.map (c :: ·)

/-- Reads a text up to its closing quote.  `acc` holds the characters so far, last one first, and is
    `none` once the text is spoiled; `half` is the first half of a surrogate pair that waits for its
    second half. -/
def textTail? (acc : Option (List Char)) (half : Option Nat) :
    List Char → Option (Option String × List Char)
  | [] => none
  | '"' :: rest =>
    some (if half.isSome then none else acc.map fun cs => String.ofList cs.reverse, rest)
  | '\\' :: 'u' :: a :: b :: c :: d :: rest => do
    let n ← hex4? a b c d
    if isLowHalf n then
      textTail? (half.bind fun high => acc.map (joinHalves high n :: ·)) none rest
    else if isHighHalf n then
      textTail? (if half.isSome then none else acc) (some n) rest
    else textTail? (extend acc half (Char.ofNat n)) none rest
  | '\\' :: c :: rest => do
    let plain ← escapeLetter? c
    textTail? (extend acc half plain) none rest
  | c :: rest =>
    if c.toNat < 32 ∨ c = '\\' then none else textTail? (extend acc half c) none rest

/-! ## §3. Values. -/

/-- Reads a number. -/
def number? (cs : List Char) : Option (Written × List Char) := do
  let (l, rest) ← Decimal.readLiteral? cs
  some (.num l.value?, rest)

mutual

/-- Reads one value and returns what follows it.  `steps` bounds the nesting of calls; each one
    reads at least one character. -/
def value? : Nat → List Char → Option (Written × List Char)
  | 0, _ => none
  | steps + 1, cs =>
    match skipGap cs with
    | 'n' :: 'u' :: 'l' :: 'l' :: rest => some (.null, rest)
    | 't' :: 'r' :: 'u' :: 'e' :: rest => some (.bool true, rest)
    | 'f' :: 'a' :: 'l' :: 's' :: 'e' :: rest => some (.bool false, rest)
    | '"' :: rest => do
      let (text, rest) ← textTail? (some []) none rest
      some (.str text, rest)
    | '[' :: rest =>
      match skipGap rest with
      | ']' :: rest => some (.arr [], rest)
      | _ => do
        let (v, rest) ← value? steps rest
        let (more, rest) ← items? steps rest
        some (.arr (v :: more), rest)
    | '{' :: rest =>
      match skipGap rest with
      | '}' :: rest => some (.obj [], rest)
      | _ => do
        let (pair, rest) ← pair? steps rest
        let (more, rest) ← pairs? steps rest
        some (.obj (pair :: more), rest)
    | cs => number? cs

/-- Reads the items after the first one, up to the closing bracket. -/
def items? : Nat → List Char → Option (List Written × List Char)
  | 0, _ => none
  | steps + 1, cs =>
    match skipGap cs with
    | ']' :: rest => some ([], rest)
    | ',' :: rest => do
      let (v, rest) ← value? steps rest
      let (more, rest) ← items? steps rest
      some (v :: more, rest)
    | _ => none

/-- Reads a key, a colon and a value. -/
def pair? : Nat → List Char → Option ((Option String × Written) × List Char)
  | 0, _ => none
  | steps + 1, cs =>
    match skipGap cs with
    | '"' :: rest => do
      let (key, rest) ← textTail? (some []) none rest
      match skipGap rest with
      | ':' :: rest => do
        let (v, rest) ← value? steps rest
        some ((key, v), rest)
      | _ => none
    | _ => none

/-- Reads the fields after the first one, up to the closing brace. -/
def pairs? : Nat → List Char → Option (List (Option String × Written) × List Char)
  | 0, _ => none
  | steps + 1, cs =>
    match skipGap cs with
    | '}' :: rest => some ([], rest)
    | ',' :: rest => do
      let (pair, rest) ← pair? steps rest
      let (more, rest) ← pairs? steps rest
      some (pair :: more, rest)
    | _ => none

end

/-- Reads a text that holds one value, with nothing but gaps around it. -/
def read? (s : String) : Option Written := do
  let cs := s.toList
  let (v, rest) ← value? (2 * cs.length + 2) cs
  if (skipGap rest).isEmpty then some v else none

/-! ## §4. The value of a text. -/

mutual

/-- The value that a text stands for, at most `levels` arrays and objects deep.  Of fields with one
    key the last counts; an ill-formed number, text or key stands for nothing. -/
def toJson? : Nat → Written → Option Json
  | _, .null => some .null
  | _, .bool b => some (.bool b)
  | _, .num value => value.map .num
  | _, .str text => text.map .str
  | 0, .arr _ => none
  | levels + 1, .arr items => (toJsonItems? levels items).map .arr
  | 0, .obj _ => none
  | levels + 1, .obj pairs => (toJsonFields? levels pairs).map Json.object

def toJsonItems? : Nat → List Written → Option (List Json)
  | _, [] => some []
  | levels, v :: rest => do
    let v ← toJson? levels v
    let rest ← toJsonItems? levels rest
    some (v :: rest)

def toJsonFields? : Nat → List (Option String × Written) → Option (List (String × Json))
  | _, [] => some []
  | levels, (key, v) :: rest => do
    let key ← key
    let v ← toJson? levels v
    let rest ← toJsonFields? levels rest
    some ((key, v) :: rest)

end

end Written

namespace Json

/-- How deep a text may nest arrays and objects. -/
def maxDepth : Nat := 127

/-- The value of a JSON text. -/
def parse? (s : String) : Option Json := do
  let written ← Written.read? s
  written.toJson? maxDepth

end Json

end CatalogIndex
