/-
  CatalogIndex.Proofs.Cluster.Rename — a rename goes by whole segments.

  A rename is one request with a query and a script.  The query compares names as texts, and the script
  cuts a text and puts another one in front.  For names that are not empty and close their quotes, both
  respect segments: the names that are selected are those whose segments begin with those of the old
  name, the script changes the same names in the documents that it goes to, and what it writes has the
  segments of the new name in place of those of the old one.

  ## Main results

    * `rename_by_segments` — what a rename sends, selects and writes.
-/
import CatalogIndex.Proofs.Cluster.Asks
import CatalogIndex.Proofs.Query.Selection
import CatalogIndex.Proofs.Script.Renaming

namespace CatalogIndex

open Name

variable {σ : Type}

namespace Cluster

/-- **A rename goes by whole segments.**  It sends one request.  The query selects the documents with a
    name in the field whose segments begin with those of the old name.  The script makes of a document what
    becomes of it (`FieldRenamed`): the names that begin with these segments are replaced by the new name and
    behind it the name without as many characters as the old one has, and nothing else is changed.  It
    succeeds exactly if the names in the field can be read, and a query then finds the names that were there
    before, each of them renamed.  The segments of a renamed name are those of the new one and the remaining
    ones.  A name that goes on behind the last character of the old one without a dot is left alone. -/
theorem rename_by_segments (e : Engine) (index field : String) {oldStart newStart : String}
    (hold : oldStart ≠ "") (hquotes : Balanced oldStart) (hnew : newStart ≠ "")
    (hnewQuotes : Balanced newStart) :
    AsksOnce (σ := σ) (rename e index oldStart newStart field)
        (updateByQueryRequest e [index] (renameQuery oldStart field)
          (renameScript oldStart newStart field)) Response.isSuccess
      ∧ (∀ judge source, (renameQuery oldStart field).selects judge source = true
          ↔ ∃ name, .str name ∈ source.valuesAt (Text.split '.' field)
              ∧ split oldStart <+: split name)
      ∧ (∀ source source', (renameScript oldStart newStart field).runOn? e source = some source'
          ↔ FieldRenamed oldStart newStart field source source')
      ∧ (∀ source, (∃ source', (renameScript oldStart newStart field).runOn? e source = some source')
          ↔ NamesIn field source)
      ∧ (∀ source source', (renameScript oldStart newStart field).runOn? e source = some source' →
          (Json.obj source').valuesAt (Text.split '.' field)
            = ((Json.obj source).valuesAt (Text.split '.' field)).map (renamedValue oldStart newStart))
      ∧ (∀ name, split oldStart <+: split name →
          split (newStart ++ String.ofList (name.toList.drop oldStart.toList.length))
            = split newStart ++ (split name).drop (split oldStart).length)
      ∧ ∀ c rest, c ≠ '.' → ¬ split oldStart <+: split (oldStart ++ String.ofList (c :: rest)) := by
  have hsegments := split_isPrefix_iff hold hquotes
  have hrun : ∀ source source', (renameScript oldStart newStart field).runOn? e source = some source'
      ↔ FieldRenamed oldStart newStart field source source' :=
    fun _ _ => runOn?_renameScript_iff e hold hquotes
  refine ⟨asksOnce_updateByQuery e _ (List.cons_ne_nil _ _) rfl, ?_, hrun, ?_, ?_, ?_, ?_⟩
  · intro judge source
    rw [selects_renameQuery]
    simp only [hsegments]
  · intro source
    rw [exists_congr (hrun source)]
    exact exists_fieldRenamed_iff
  · intro source source' h
    exact ((hrun source source').1 h).valuesAt
  · intro name h
    exact split_replaceStart hold hquotes hnew hnewQuotes ((hsegments name).1 h)
  · intro c rest hc h
    exact not_atOrBelow_of_append hc rest ((hsegments _).1 h)

/-- A document with labels of the given tags. -/
def labelled (tags : List String) : Fields :=
  [("tags", .arr (tags.map fun tag => .obj [("tagFQN", .str tag)]))]

/-- The tag `Tier.Gold` becomes one whose name has a dot inside quotes.  Of the labels of a document, that
    of a tag below it keeps its last segment, and that of `Tier.Golden` is left alone. -/
theorem rename_by_segments_gold :
    (∀ judge source, (renameQuery "Tier.Gold" "tags.tagFQN").selects judge source = true
        ↔ ∃ name, .str name ∈ source.valuesAt ["tags", "tagFQN"] ∧ ["Tier", "Gold"] <+: split name)
      ∧ (renameScript "Tier.Gold" "Metal.\"1.0\"" "tags.tagFQN").runOn? .opensearch
          (labelled ["Tier.Gold.Fine", "Tier.Golden"])
        = some (labelled ["Metal.\"1.0\".Fine", "Tier.Golden"])
      ∧ split ("Metal.\"1.0\"" ++ ".Fine") = ["Metal", "\"1.0\""] ++ ["Fine"]
      ∧ ¬ ["Tier", "Gold"] <+: split "Tier.Golden" := by
  obtain ⟨-, hselects, hrun, -, -, hsplit, hsibling⟩ :=
    rename_by_segments (σ := Unit) .opensearch "all" "tags.tagFQN"
      (show "Tier.Gold" ≠ "" by decide) (by decide) (show "Metal.\"1.0\"" ≠ "" by decide) (by decide)
  refine ⟨hselects, (hrun _ _).2 ?_, hsplit "Tier.Gold.Fine" (by decide), hsibling 'e' ['n'] (by decide)⟩
  have hfield : "tags.tagFQN" = "tags" ++ "." ++ "tagFQN" := by decide
  refine .list (by decide) hfield rfl (.cons ?_ (.cons ?_ .nil))
  · exact .moved rfl (by decide) rfl
  · exact .other rfl (by decide)

end Cluster

end CatalogIndex
