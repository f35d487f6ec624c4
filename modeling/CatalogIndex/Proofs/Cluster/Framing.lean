/-
  CatalogIndex.Proofs.Cluster.Framing — bulk bodies are cut into lines without loss.

  A bulk body is a text of lines, and the cluster cuts it at every line break.  That is safe only if no
  value puts a line break of its own into its line, wherever in it a text with one stands: as a key, as
  a value, at any depth.  The printer escapes every control character, so the only line breaks of a body
  are those between its values, and each line can be read by itself.

  ## Main definitions

    * `Json.OneLine` — a list of characters without a line break;
    * `Cluster.indexAction` — the action that stores a document in an index.

  ## Main results

    * `Json.oneLine_render` — a printed value stands in one line;
    * `Json.parse?_compact` — a printed value is read back;
    * `Body.split_encode` — the lines of a body are its values, in their order;
    * `Cluster.bulk_framed` — a bulk request says of each document where it goes and what it is.
-/
import CatalogIndex.Proofs.Cluster.Asks
import CatalogIndex.Proofs.Entity.Encoded
import CatalogIndex.Proofs.Index.Names

namespace CatalogIndex

/-! ## §1. Printed values stand in one line. -/

namespace Json

/-- There is no line break among the characters. -/
def OneLine (cs : List Char) : Prop := '\n' ∉ cs

instance (cs : List Char) : Decidable (OneLine cs) := inferInstanceAs (Decidable ('\n' ∉ cs))

theorem OneLine.append {as bs : List Char} (ha : OneLine as) (hb : OneLine bs) : OneLine (as ++ bs) :=
  fun h => (List.mem_append.1 h).elim ha hb

theorem OneLine.cons {c : Char} {cs : List Char} (hc : c ≠ '\n') (h : OneLine cs) : OneLine (c :: cs) :=
  fun hmem => (List.mem_cons.1 hmem).elim (fun heq => hc heq.symm) h

theorem digitChar_ne_newline : ∀ d < 16, Nat.digitChar d ≠ '\n' := by decide

/-- A line break is written as a backslash and a letter, and no other character is written with one. -/
theorem oneLine_escaped (c : Char) : OneLine (escaped c) := by
  unfold escaped
  split
  · decide
  split
  · decide
  split
  · decide
  split
  · decide
  split
  · decide
  split
  · decide
  split
  · decide
  split
  · rename_i hcontrol
    have hhigh : Nat.digitChar (c.toNat / 16) ≠ '\n' := digitChar_ne_newline _ (by omega)
    have hlow : Nat.digitChar (c.toNat % 16) ≠ '\n' := digitChar_ne_newline _ (by omega)
    have hmark : OneLine ['\\', 'u', '0', '0'] := by decide
    exact hmark.append (.cons hhigh (.cons hlow List.not_mem_nil))
  · rename_i hne _ _ _ _ _
    exact .cons hne List.not_mem_nil

theorem oneLine_quotedTail (cs : List Char) : OneLine (quotedTail cs) := by
  induction cs with
  | nil => decide
  | cons c cs ih => exact (oneLine_escaped c).append ih

theorem oneLine_quoted (s : String) : OneLine (quoted s) :=
  .cons (by decide) (oneLine_quotedTail s.toList)

theorem oneLine_writtenInt (n : Int) : OneLine (writtenInt n) := by
  have hdigits : OneLine (Nat.toDigits 10 n.natAbs) := by
    intro hmem
    have hdigit := Nat.isDigit_of_mem_toDigits (by decide) (by decide) hmem
    exact absurd hdigit (by decide)
  unfold writtenInt
  split
  · exact .cons (by decide) hdigits
  · exact hdigits

mutual

/-- **A printed value stands in one line**, whatever its keys and texts hold. -/
theorem oneLine_render : ∀ v : Json, v.WordSized → OneLine v.render
  | .null, _ => by decide
  | .bool true, _ => by decide
  | .bool false, _ => by decide
  | .num (.int n), _ => oneLine_writtenInt n
  | .num (.double _), h => h.elim
  | .str s, _ => oneLine_quoted s
  | .arr [], _ => by decide
  | .arr (v :: rest), h =>
    .cons (by decide) ((oneLine_render v h.1).append (oneLine_renderItems rest h.2))
  | .obj [], _ => by decide
  | .obj ((key, v) :: rest), h =>
    .cons (by decide) ((oneLine_quoted key).append
      (.cons (by decide) ((oneLine_render v h.1).append (oneLine_renderFields rest h.2))))

theorem oneLine_renderItems : ∀ items : List Json, WordSizedItems items → OneLine (renderItems items)
  | [], _ => by decide
  | v :: rest, h =>
    .cons (by decide) ((oneLine_render v h.1).append (oneLine_renderItems rest h.2))

theorem oneLine_renderFields : ∀ fields : List (String × Json), WordSizedFields fields →
    OneLine (renderFields fields)
  | [], _ => by decide
  | (key, v) :: rest, h =>
    .cons (by decide) ((oneLine_quoted key).append
      (.cons (by decide) ((oneLine_render v h.1).append (oneLine_renderFields rest h.2))))

end

/-- What it takes for a value to be read back from its text: it is not nested too deep, its numbers are
    integers of a machine word, and its objects have each key once and in order. -/
structure Readable (v : Json) : Prop where
  depth : v.depth ≤ 127
  wordSized : v.WordSized
  canonical : v.Canonical

/-- **A printed value is read back.** -/
theorem parse?_compact {v : Json} (h : v.Readable) : parse? v.compact = some v := by
  unfold parse?
  rw [Written.read?_compact h.wordSized]
  exact toJson?_toWritten v maxDepth h.canonical h.depth

end Json

/-! ## §2. The lines of a body. -/

namespace Body

/-- One line break for each value. -/
theorem count_lineChars {vs : List Json} (h : ∀ v ∈ vs, v.WordSized) :
    (lineChars vs).count '\n' = vs.length := by
  induction vs with
  | nil => rfl
  | cons v rest ih =>
    have hv : v.render.count '\n' = 0 :=
      List.count_eq_zero.2 (Json.oneLine_render v (h v List.mem_cons_self))
    have hrest := ih fun w hw => h w (List.mem_cons_of_mem _ hw)
    unfold lineChars
    rw [List.count_append, List.count_cons_self, hv, hrest, List.length_cons]
    omega

/-- Cut at its line breaks, a text of lines falls into the texts of its values, and nothing is left
    behind the last line break. -/
theorem pieces_lineChars {vs : List Json} (h : ∀ v ∈ vs, v.WordSized) :
    Text.pieces '\n' (lineChars vs) = vs.map Json.render ++ [[]] := by
  induction vs with
  | nil => rfl
  | cons v rest ih =>
    unfold lineChars
    rw [Text.pieces_append_sep (Json.oneLine_render v (h v List.mem_cons_self)),
      ih fun w hw => h w (List.mem_cons_of_mem _ hw)]
    rfl

theorem getLast?_lineChars {vs : List Json} (h : vs ≠ []) : (lineChars vs).getLast? = some '\n' := by
  induction vs with
  | nil => exact absurd rfl h
  | cons v rest ih =>
    unfold lineChars
    rw [List.getLast?_append_of_ne_nil _ (List.cons_ne_nil _ _)]
    cases rest with
    | nil => rfl
    | cons w more =>
      rw [List.getLast?_cons, ih (List.cons_ne_nil _ _)]
      rfl

/-- The lines of a body are the texts of its values. -/
theorem split_encode {vs : List Json} (h : ∀ v ∈ vs, v.WordSized) :
    Text.split '\n' (Body.lines vs).encode = vs.map Json.compact ++ [""] := by
  unfold Text.split encode
  rw [String.toList_ofList, pieces_lineChars h, List.map_append, List.map_map]
  rfl

/-- Read line by line, a body gives its values, and nothing behind the last line break. -/
theorem read_encode {vs : List Json} (h : ∀ v ∈ vs, v.Readable) :
    (Text.split '\n' (Body.lines vs).encode).map Json.parse? = vs.map some ++ [none] := by
  have hread : vs.map (Json.parse? ∘ Json.compact) = vs.map some :=
    List.map_congr_left fun v hv => Json.parse?_compact (h v hv)
  have hempty : Json.parse? "" = none := by decide
  rw [split_encode fun v hv => (h v hv).wordSized, List.map_append, List.map_map, hread,
    List.map_singleton, hempty]

end Body

/-! ## §3. Bulk requests. -/

/-- What the body of a response is read as has no influence on what has passed. -/
theorem AsksOnce.link_bind_ofOutcome {σ α β : Type} {x : Exchange σ α} {r : Request}
    {accepts : Response → Bool} (h : AsksOnce x r accepts) (f : α → Outcome β) (b : Backend σ)
    (link : Link σ) : ((x >>= fun a => Exchange.ofOutcome (f a)).run b link).2 = link.after b r := by
  have hlink := (h b link).1
  rw [Exchange.run_bind]
  rcases hx : x.run b link with ⟨outcome, link'⟩
  rw [hx] at hlink
  cases outcome with
  | error e => exact hlink
  | ok a => exact hlink

namespace Cluster

variable {σ : Type}

/-- The action that stores a document in an index, under its id. -/
def indexAction (index id : String) : Json :=
  .object [("index", .object [("_index", .str index), ("_id", .str id)])]

/-- The request that stores documents. -/
def bulkRequest (index : String) (ds : List Document) : Request :=
  { method := .post, path := "_bulk?refresh=true"
    body := some (.lines (ds.flatMap fun d => [indexAction index d.id, d.source])) }

/-- Documents are stored by one request, whatever the cluster answers. -/
theorem link_createDocuments {index : String} {ds : List Document} (hds : ds ≠ []) (b : Backend σ)
    (link : Link σ) :
    ((createDocuments index ds).run b link).2 = link.after b (bulkRequest index ds) := by
  have hsend : AsksOnce (σ := σ) (Exchange.send "bulk index" .post "_bulk?refresh=true"
      (bulkRequest index ds).body) (bulkRequest index ds) Response.isSuccess :=
    AsksOnce.perform fun response _ _ => ⟨rfl, isOk_accepted response "bulk index"⟩
  unfold createDocuments
  rw [if_neg (by simpa using hds)]
  exact hsend.link_bind_ofOutcome (bulkOutcome index ds.length) b link

theorem readable_indexAction (index id : String) : (indexAction index id).Readable := by
  -- the id stands in front of the index
  have hform : indexAction index id
      = .obj [("index", .obj [("_id", .str id), ("_index", .str index)])] := by
    have hlt : "_id" < "_index" := by decide
    show Json.obj [("index", .obj (if _ then _ else _))] = _
    rw [if_pos hlt]
  have hkeys : ["_id", "_index"].Pairwise (· < ·) := by decide
  have hascending : Keyed.Ascending [("_id", Json.str id), ("_index", Json.str index)] :=
    Keyed.ascending_iff_keys.2 hkeys
  rw [hform]
  exact ⟨by simp [Json.depth, Json.depthFields], by simp [Json.WordSized, Json.WordSizedFields],
    List.pairwise_singleton _ _, ⟨hascending, trivial, trivial, trivial⟩, trivial⟩

/-- **Bulk bodies are framed without loss.**  Documents that can be read back are stored by one request.
    The text of its body has two line breaks for each document, the last one at its end; cut there and
    read line by line, it gives for each document, in order, the action that names the index and the id,
    and then the fields of the document. -/
theorem bulk_framed {index : String} {ds : List Document} (hds : ds ≠ [])
    (hreadable : ∀ d ∈ ds, d.source.Readable) (b : Backend σ) (link : Link σ) :
    ∃ request body, ((createDocuments index ds).run b link).2.sent = link.sent ++ [request]
      ∧ request.body = some body
      ∧ body.encode.toList.count '\n' = 2 * ds.length
      ∧ body.encode.toList.getLast? = some '\n'
      ∧ (Text.split '\n' body.encode).map Json.parse?
          = (ds.flatMap fun d => [some (indexAction index d.id), some d.source]) ++ [none] := by
  have hlines : ∀ v ∈ ds.flatMap fun d => [indexAction index d.id, d.source], v.Readable := by
    intro v hv
    obtain ⟨d, hd, hv⟩ := List.mem_flatMap.1 hv
    rcases List.mem_pair.1 hv with rfl | rfl
    · exact readable_indexAction index d.id
    · exact hreadable d hd
  have hlength : (ds.flatMap fun d => [indexAction index d.id, d.source]).length = 2 * ds.length := by
    rw [List.length_flatMap]
    simp
    omega
  have hsome : ds.flatMap (fun d => [indexAction index d.id, d.source]) ≠ [] := by
    have hpos := List.length_pos_iff.2 hds
    exact List.length_pos_iff.1 (by omega)
  refine ⟨bulkRequest index ds, _, ?_, rfl, ?_, ?_, ?_⟩
  · rw [link_createDocuments hds]
    rfl
  · show (String.toList (String.ofList _)).count '\n' = _
    rw [String.toList_ofList, Body.count_lineChars fun v hv => (hlines v hv).wordSized, hlength]
  · show (String.toList (String.ofList _)).getLast? = _
    rw [String.toList_ofList, Body.getLast?_lineChars hsome]
  · rw [Body.read_encode hlines, List.map_flatMap]
    rfl

/-- A document with line breaks in its id, its keys and its texts, and a text that looks like the end of a
    line and an action. -/
def brokenDocument : Document :=
  { id := "a\n\"b"
    fields := [("\n", .arr [.str "\r\n\u2028", .obj [("k\n\t", .int (-7))]]),
      ("text", .str "x\"\x7d\n\x7b\"index\":\x7b\"_id\":\"other\"\x7d\x7d\n")] }

/-- Its lines are read back next to those of a document without fields. -/
theorem bulk_framed_broken :
    let empty : Document := { id := "" }
    let steady : Backend Unit := fun _ s => (.ok { status := 200, body := .null }, s)
    ∃ request body,
      ((createDocuments "sales\nindex" [brokenDocument, empty]).run steady { state := () }).2.sent
          = [request]
      ∧ request.body = some body
      ∧ body.encode.toList.count '\n' = 4
      ∧ (Text.split '\n' body.encode).map Json.parse?
          = [some (indexAction "sales\nindex" "a\n\"b"), some brokenDocument.source,
              some (indexAction "sales\nindex" ""), some (.obj []), none] := by
  intro empty steady
  have hreadable : ∀ d ∈ [brokenDocument, empty], d.source.Readable := by
    intro d hd
    rcases List.mem_pair.1 hd with rfl | rfl
    · refine ⟨by decide, ?_, ?_⟩
      · simp [brokenDocument, Document.source, Json.WordSized, Json.WordSizedFields, Json.WordSizedItems,
          Json.int]
      · have hascending : Keyed.Ascending brokenDocument.fields := Keyed.ascending_iff_keys.2 (by decide)
        exact ⟨hascending, ⟨trivial, ⟨List.pairwise_singleton _ _, trivial, trivial⟩, trivial⟩, trivial,
          trivial⟩
    · exact ⟨by decide, trivial, List.Pairwise.nil, trivial⟩
  obtain ⟨request, body, hsent, hbody, hcount, -, hread⟩ :=
    @bulk_framed Unit "sales\nindex" [brokenDocument, empty] (List.cons_ne_nil _ _) hreadable steady
      { state := () }
  exact ⟨request, body, hsent, hbody, hcount, hread⟩

end Cluster

end CatalogIndex
