/-
  CatalogIndex.Yaml.Node — YAML as a tree.

  The nodes of a document are texts, lists and maps.  Both kinds of structure, by indentation and by
  brackets, give the same tree.  Where a node may stand but none does, there is an empty plain text.

  ## Main definitions

    * `Yaml` — a node;
    * `Yaml.read?` — the node of a text that holds at most one document.
-/
import CatalogIndex.Yaml.Token

namespace CatalogIndex

/-- A node of a YAML document. -/
inductive Yaml where
  | scalar (tag : Option String) (s : Yaml.Scalar)
  | list (tag : Option String) (items : List Yaml)
  | map (tag : Option String) (pairs : List (Yaml × Yaml))
  /-- The node with a number, which stands elsewhere in the document as well. -/
  | again (number : Nat)
  deriving Inhabited

namespace Yaml

/-- The plain text without characters. -/
def emptyText : Scalar := { style := .plain, text := "" }

/-- The node that stands where there is none. -/
def empty : Yaml := .scalar none emptyText

/-! ## §1. Reading tokens. -/

/-- What has not been read of a document, and what was said in it. -/
structure Stream where
  tokens : List Token
  /-- Handles, with the start of the tags that they abbreviate. -/
  handles : List (String × String) := [("!", "!"), ("!!", "tag:yaml.org,2002:")]
  /-- Anchors, with the numbers that they stand for. -/
  anchors : List (String × Nat) := []
  /-- Numbers, with their nodes; the last one said comes first. -/
  numbered : List (Nat × Yaml) := []

/-- Reads from a stream, or fails. -/
abbrev Reading := StateT Stream Option

/-- The next token, which stays. -/
def peek : Reading (Option Token) := return (← get).tokens.head?

/-- Leaves the next token behind. -/
def skip : Reading Unit := modify fun s => { s with tokens := s.tokens.drop 1 }

/-- Whether the next token is one of the given ones, which stays. -/
def isNext (ts : List Token) : Reading Bool := return (← peek).any (ts.contains ·)

/-- Whether the next token is `t`, which is then left behind. -/
def accept (t : Token) : Reading Bool := do
  if ← isNext [t] then
    skip
    return true
  else return false

/-- Leaves `t` behind, or fails. -/
def expect (t : Token) : Reading Unit := do
  if ← accept t then return () else failure

/-! ## §2. Labels of nodes. -/

/-- The tag that a handle and a text write. -/
def resolveTag (handle text : String) : Reading String := do
  if handle.isEmpty then return text
  else match (← get).handles.lookup handle with
    | some start => return start ++ text
    | none => failure

/-- The anchor, if there is one. -/
def readAnchor : Reading (Option String) := do
  match ← peek with
  | some (.anchor name) =>
    skip
    return some name
  | _ => return none

/-- The tag, if there is one. -/
def readTag : Reading (Option (String × String)) := do
  match ← peek with
  | some (.tag handle text) =>
    skip
    return some (handle, text)
  | _ => return none

/-- The anchor and the tag of a node, in either order. -/
def labels : Reading (Option String × Option String) := do
  let before ← readAnchor
  let tag ← readTag
  let anchor ← if before.isNone && tag.isSome then readAnchor else pure before
  match tag with
  | some (handle, text) => return (anchor, some (← resolveTag handle text))
  | none => return (anchor, none)

/-- Lets an anchor, if there is one, stand for a node.  Its number is how many anchors there were, so
    that one which is said anew can share its number with another one that follows. -/
def remember (anchor : Option String) (node : Nat → Yaml) : Reading Unit :=
  match anchor with
  | some name => modify fun s =>
    let number := s.anchors.length
    { s with
      anchors := (name, number) :: s.anchors.filter (·.1 ≠ name)
      numbered := (number, node number) :: s.numbered }
  | none => return ()

/-! ## §3. Nodes. -/

mutual

/-- Reads a node.  Inside brackets (`block` is false), structure by indentation is an error; as a part
    of a pair (`inPair`), a list may be indented as far as the pair is.  `steps` bounds the nesting of
    calls. -/
def node : Nat → (block inPair : Bool) → Reading Yaml
  | 0, _, _ => failure
  | steps + 1, block, inPair => do
    if let some (.again name) ← peek then
      skip
      match (← get).anchors.lookup name with
      | some number => return .again number
      | none => failure
    else
      let (anchor, tag) ← labels
      match ← peek, block, inPair with
      | some (.scalar s), _, _ =>
        skip
        let node := .scalar (tag.filter (· ≠ "!")) s
        remember anchor fun _ => node
        return node
      | some .dash, _, true =>
        remember anchor .again
        return .list tag (← looseItems steps)
      | some .listOpen, _, _ =>
        skip
        remember anchor .again
        return .list tag (← flowItems steps true)
      | some .mapOpen, _, _ =>
        skip
        remember anchor .again
        return .map tag (← flowPairs steps true)
      | some .blockList, true, _ =>
        skip
        remember anchor .again
        return .list tag (← blockItems steps)
      | some .blockMap, true, _ =>
        skip
        remember anchor .again
        return .map tag (← blockPairs steps)
      | _, _, _ =>
        if anchor.isNone && tag.isNone then failure
        else
          let node := .scalar tag emptyText
          remember anchor fun _ => node
          return node

/-- Reads the node of a pair or an item outside of brackets, which is missing in front of `ends`. -/
def part (ends : List Token) (inPair : Bool) : Nat → Reading Yaml
  | 0 => failure
  | steps + 1 => do if ← isNext ends then return empty else node steps true inPair

/-- Reads the items of a list up to its end. -/
def blockItems : Nat → Reading (List Yaml)
  | 0 => failure
  | steps + 1 => do
    if ← accept .dash then
      let item ← part [.dash, .blockEnd] false steps
      return item :: (← blockItems steps)
    else
      expect .blockEnd
      return []

/-- Reads the items of a list that has no end of its own. -/
def looseItems : Nat → Reading (List Yaml)
  | 0 => failure
  | steps + 1 => do
    if ← accept .dash then
      let item ← part [.dash, .key, .value, .blockEnd] false steps
      return item :: (← looseItems steps)
    else return []

/-- Reads the pairs of a map up to its end. -/
def blockPairs : Nat → Reading (List (Yaml × Yaml))
  | 0 => failure
  | steps + 1 => do
    if ← accept .key then
      let key ← part [.key, .value, .blockEnd] true steps
      let value ←
        if ← accept .value then part [.key, .value, .blockEnd] true steps else pure empty
      return (key, value) :: (← blockPairs steps)
    else
      expect .blockEnd
      return []

/-- Reads the node behind a colon inside brackets, which is missing in front of a comma or of the
    bracket `close`. -/
def flowValue (close : Token) : Nat → Reading Yaml
  | 0 => failure
  | steps + 1 => do
    if ← accept .value then
      if ← isNext [.comma, close] then return empty else node steps false false
    else return empty

/-- Reads the items of a list up to its bracket.  A pair among them is a map of its own. -/
def flowItems : Nat → (first : Bool) → Reading (List Yaml)
  | 0, _ => failure
  | steps + 1, first => do
    if ← accept .listClose then return []
    if !first then expect .comma
    if ← accept .listClose then return []
    let item ←
      if ← accept .key then
        if ← isNext [.value, .comma, .listClose] then
          skip
          pure (.map none [(empty, ← flowValue .listClose steps)])
        else
          let key ← node steps false false
          pure (.map none [(key, ← flowValue .listClose steps)])
      else node steps false false
    return item :: (← flowItems steps false)

/-- Reads the pairs of a map up to its bracket.  A key without a colon has no value. -/
def flowPairs : Nat → (first : Bool) → Reading (List (Yaml × Yaml))
  | 0, _ => failure
  | steps + 1, first => do
    if ← accept .mapClose then return []
    if !first then expect .comma
    if ← accept .mapClose then return []
    let pair ←
      if ← accept .key then
        let key ←
          if ← isNext [.value, .comma, .mapClose] then pure empty else node steps false false
        pure (key, ← flowValue .mapClose steps)
      else
        let key ← node steps false false
        pure (key, empty)
    return pair :: (← flowPairs steps false)

end

/-! ## §4. Nodes that stand again. -/

mutual

/-- The node with texts in place of numbers that stand for them.  Of the nodes with one number the last
    one in the document counts; a list or a map is not repeated. -/
def settle (numbered : List (Nat × Yaml)) : Yaml → Yaml
  | .scalar tag s => .scalar tag s
  | .list tag items => .list tag (settleItems numbered items)
  | .map tag pairs => .map tag (settlePairs numbered pairs)
  | .again number => (numbered.lookup number).getD (.again number)

/-- The items of a list, each settled. -/
def settleItems (numbered : List (Nat × Yaml)) : List Yaml → List Yaml
  | [] => []
  | item :: rest => settle numbered item :: settleItems numbered rest

/-- The pairs of a map, each with its key and its value settled. -/
def settlePairs (numbered : List (Nat × Yaml)) : List (Yaml × Yaml) → List (Yaml × Yaml)
  | [] => []
  | (key, v) :: rest => (settle numbered key, settle numbered v) :: settlePairs numbered rest

end

/-! ## §5. Documents. -/

/-- Reads directives.  There is at most one version, which has to be a known one, and each handle is
    said at most once. -/
def directives (versioned : Bool) (handles : List (String × String)) :
    List Token → Option (List (String × String) × List Token)
  | .version major minor :: rest =>
    if versioned || major ≠ 1 || !(minor = 1 || minor = 2) then none
    else directives true handles rest
  | .tagHandle handle start :: rest =>
    if (handles.lookup handle).isSome then none
    else directives versioned ((handle, start) :: handles) rest
  | rest => some (handles, rest)

/-- Reads what follows the mark that starts a document. -/
def content (steps : Nat) : Reading Yaml := do
  match ← peek with
  | none | some .documentStart | some .documentEnd | some (.version ..) | some (.tagHandle ..) =>
    return empty
  | _ => node steps true false

/-- Reads a document. -/
def document? (ts : List Token) : Option (Yaml × List Token) :=
  let steps := 2 * ts.length + 4
  let (read, start) : Option (List (String × String) × List Token) × Bool := match ts with
    | .version .. :: _ | .tagHandle .. :: _ | .documentStart :: _ => (directives false [] ts, true)
    | _ => (some ([], ts), false)
  read.bind fun (handles, rest) =>
    let stream : Stream := { tokens := rest }
    let stream := { stream with handles := handles ++ stream.handles }
    let reading := if start then expect .documentStart *> content steps else node steps true false
    (reading.run stream).map fun (node, stream) => (settle stream.numbered node, stream.tokens)

/-- The node of a text.  A text without tokens holds nothing, and one with several documents is
    refused. -/
def read? (text : String) : Option Yaml := do
  let ts ← tokens? text
  if ts.isEmpty then return empty
  let (node, rest) ← document? ts
  if (rest.dropWhile (· = .documentEnd)).isEmpty then return node else none

end Yaml

end CatalogIndex
