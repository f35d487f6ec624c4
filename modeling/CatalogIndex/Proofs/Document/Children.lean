/-
  CatalogIndex.Proofs.Document.Children — the names in a tree of children.

  The search box completes to the names of the parts of an entity: the items of a list, and below each of
  them the items of its `children`.  Nothing is promised of the shape of such a tree.  An item may be any
  value, its name may be missing or no text, and what stands under `children` may be no list; an item
  without a name still has items below it.

  Which items a tree has is said here without the pass that collects the names (`ItemIn`).  The suggestions
  are in order, each once, so they depend on the names in the tree only: not on the order of siblings, and
  not on how often a part of the tree is there.

  ## Main definitions

    * `ItemIn` — the items of a tree, at any depth;
    * `Changed` — a tree in which one list of items is another, at any depth.

  ## Main results

    * `mem_childNames` — the names that are collected are those of the items;
    * `mem_childNames_changed` — what a change of one list does to the names;
    * `forChildren_eq_of_names` — suggestions depend on the names only;
    * `forChildren_exact` — the suggestions of a tree, and the changes that they do not see.
-/
import CatalogIndex.Document.Suggest
import CatalogIndex.Proofs.Keyed
import Mathlib.Data.List.Sort
import Mathlib.Data.String.Basic

namespace CatalogIndex

namespace Suggestion

/-! ## §1. Items. -/

/-- An item of the list, or an item of the `children` of an item. -/
inductive ItemIn : Json → Json → Prop
  | top {items : List Json} {item : Json} (hitem : item ∈ items) : ItemIn (.arr items) item
  | deeper {items : List Json} {parent children item : Json} (hparent : parent ∈ items)
      (hchildren : parent.field? "children" = some children) (hitem : ItemIn children item) :
      ItemIn (.arr items) item

/-- The item has a name that can be suggested. -/
def Named (item : Json) (name : String) : Prop :=
  item.field? "name" = some (.str name) ∧ name ≠ ""

variable {v w item : Json} {items : List Json} {name : String}

/-- What is below an item of a tree is in the tree. -/
theorem ItemIn.trans {children inner : Json} (h : ItemIn v item)
    (hchildren : item.field? "children" = some children) (hinner : ItemIn children inner) :
    ItemIn v inner := by
  induction h with
  | top hitem => exact .deeper hitem hchildren hinner
  | deeper hparent hfield _ ih => exact .deeper hparent hfield (ih hchildren)

theorem itemName?_eq_some_iff : itemName? item = some name ↔ Named item name := by
  unfold itemName? Named
  rw [Option.filter_eq_some_iff, Option.bind_eq_some_iff]
  constructor
  · rintro ⟨⟨v, hv, htext⟩, hname⟩
    cases v with
    | str s =>
      cases htext
      exact ⟨hv, by simpa using hname⟩
    | _ => cases htext
  · rintro ⟨hfield, hne⟩
    exact ⟨⟨.str name, hfield, rfl⟩, by simpa using hne⟩

/-! ## §2. The pass over a tree. -/

/-- The names below an item are those of its `children`. -/
theorem mem_fieldChildNames {fields : List (String × Json)} :
    name ∈ fieldChildNames fields
      ↔ ∃ children, Keyed.get? fields "children" = some children ∧ name ∈ childNames children := by
  induction fields with
  | nil => simp [fieldChildNames]
  | cons field rest ih =>
    obtain ⟨key, value⟩ := field
    by_cases hkey : key = "children"
    · simp [fieldChildNames, Keyed.get?, hkey]
    · simpa [fieldChildNames, Keyed.get?, hkey] using ih

/-- The item is called `name`, or something below it is. -/
def NamedWithin (item : Json) (name : String) : Prop :=
  Named item name ∨ ∃ children, item.field? "children" = some children ∧ name ∈ childNames children

/-- Each item of a list has its name and the names below it, and there are no others. -/
theorem mem_itemNames : name ∈ itemNames items ↔ ∃ item ∈ items, NamedWithin item name := by
  induction items with
  | nil => simp [itemNames]
  | cons item rest ih =>
    rw [List.exists_mem_cons_iff, ← ih]
    cases item with
    | obj fields =>
      rw [itemNames, List.mem_append, List.mem_append, Option.mem_toList, itemName?_eq_some_iff,
        mem_fieldChildNames]
      rfl
    | _ => simp [itemNames, NamedWithin, Named, Json.field?]

/-- A name that is collected is the name of an item. -/
theorem exists_item_of_mem : ∀ v : Json, name ∈ childNames v → ∃ item, ItemIn v item ∧ Named item name
  | .arr items, h => by
    rw [childNames] at h
    obtain ⟨parent, hparent, hnamed | ⟨children, hchildren, hbelow⟩⟩ := mem_itemNames.1 h
    · exact ⟨parent, .top hparent, hnamed⟩
    · obtain ⟨item, hitem, hnamed⟩ := exists_item_of_mem children hbelow
      exact ⟨item, .deeper hparent hchildren hitem, hnamed⟩
  | .null, h | .bool _, h | .num _, h | .str _, h | .obj _, h => by simp [childNames] at h
termination_by v => v.depth
decreasing_by
  exact Nat.lt_trans (Json.depth_lt_of_field? hchildren) (Json.depth_lt_of_mem hparent)

/-- **The names that are collected are those of the items**, at whatever depth these are. -/
theorem mem_childNames : name ∈ childNames v ↔ ∃ item, ItemIn v item ∧ Named item name := by
  refine ⟨exists_item_of_mem v, ?_⟩
  rintro ⟨item, hitem, hnamed⟩
  induction hitem with
  | top hitem =>
    rw [childNames]
    exact mem_itemNames.2 ⟨_, hitem, Or.inl hnamed⟩
  | deeper hparent hchildren _ ih =>
    rw [childNames]
    exact mem_itemNames.2 ⟨_, hparent, Or.inr ⟨_, hchildren, ih hnamed⟩⟩

/-! ## §3. Changed trees. -/

/-- One list of items in the tree, at any depth, has become another one: they are as `R` says. -/
inductive Changed (R : List Json → List Json → Prop) : Json → Json → Prop
  | top {items items' : List Json} (h : R items items') : Changed R (.arr items) (.arr items')
  | deeper {before after : List Json} {fields : Fields} {children children' : Json}
      (hchildren : Keyed.get? fields "children" = some children) (h : Changed R children children') :
      Changed R (.arr (before ++ .obj fields :: after))
        (.arr (before ++ .obj (Keyed.insert fields "children" children') :: after))

/-- An item is repeated, wherever in the list. -/
def Repeats (item : Json) (items items' : List Json) : Prop := items'.Perm (item :: items)

/-- The children of an item do not change its name. -/
theorem named_insert {fields : Fields} {children : Json} :
    Named (.obj (Keyed.insert fields "children" children)) name ↔ Named (.obj fields) name := by
  have hfield : Json.field? (.obj (Keyed.insert fields "children" children)) "name"
      = Json.field? (.obj fields) "name" := Keyed.get?_insert_of_ne (by decide) fields children
  unfold Named
  rw [hfield]

/-- If the change of a list adds some names, these are what it adds to the tree. -/
theorem mem_childNames_changed {R : List Json → List Json → Prop} (added : Prop)
    (hR : ∀ items items', R items items' → (name ∈ itemNames items' ↔ added ∨ name ∈ itemNames items))
    (h : Changed R v w) : name ∈ childNames w ↔ added ∨ name ∈ childNames v := by
  induction h with
  | top h =>
    rw [childNames, childNames]
    exact hR _ _ h
  | @deeper before after fields children children' hchildren _ ih =>
    have hbelow : NamedWithin (.obj (Keyed.insert fields "children" children')) name
        ↔ added ∨ NamedWithin (.obj fields) name := by
      unfold NamedWithin
      rw [named_insert]
      simp only [Json.field?, Keyed.get?_insert_self, hchildren, Option.some.injEq, exists_eq_left', ih]
      exact or_left_comm
    rw [childNames, childNames, mem_itemNames, mem_itemNames]
    simp only [List.mem_append, List.mem_cons, or_and_right, exists_or, exists_eq_left, hbelow]
    rw [or_assoc, or_left_comm]

/-- The names in a list do not depend on the order of its items. -/
theorem mem_itemNames_of_perm {items' : List Json} (h : items.Perm items') :
    name ∈ itemNames items' ↔ name ∈ itemNames items := by
  rw [mem_itemNames, mem_itemNames]
  exact exists_congr fun item => and_congr_left fun _ => h.mem_iff.symm

/-- With one more item, the names of this item are there as well. -/
theorem mem_itemNames_of_repeats {items' : List Json} (h : Repeats item items items') :
    name ∈ itemNames items' ↔ NamedWithin item name ∨ name ∈ itemNames items := by
  rw [mem_itemNames_of_perm h.symm, mem_itemNames, List.exists_mem_cons_iff, ← mem_itemNames]

/-- The names of an item and below it are names in the tree. -/
theorem mem_childNames_of_namedWithin (hitem : ItemIn v item) (h : NamedWithin item name) :
    name ∈ childNames v := by
  rcases h with hnamed | ⟨children, hchildren, hbelow⟩
  · exact mem_childNames.2 ⟨item, hitem, hnamed⟩
  · obtain ⟨inner, hinner, hnamed⟩ := mem_childNames.1 hbelow
    exact mem_childNames.2 ⟨inner, hitem.trans hchildren hinner, hnamed⟩

/-! ## §4. Suggestions. -/

theorem inputs_forChildren (v : Json) :
    (forChildren (some v)).map (·.input) = Keyed.distinct (childNames v) := by
  show ((Keyed.distinct (childNames v)).map _).map _ = _
  rw [List.map_map]
  exact List.map_id _

/-- Suggestions depend on the names in the tree only. -/
theorem forChildren_eq_of_names (h : ∀ name, name ∈ childNames w ↔ name ∈ childNames v) :
    forChildren (some w) = forChildren (some v) := by
  have hdistinct : Keyed.distinct (childNames w) = Keyed.distinct (childNames v) :=
    List.Pairwise.eq_of_mem_iff (Keyed.pairwise_distinct _) (Keyed.pairwise_distinct _) fun name => by
      rw [Keyed.mem_distinct, Keyed.mem_distinct, h]
  show (Keyed.distinct (childNames w)).map _ = (Keyed.distinct (childNames v)).map _
  rw [hdistinct]

/-- **The suggestions of a tree are the names of its items**, in order, each once and none of them empty.
    Siblings in another order, at any depth, and a part of the tree that is repeated, wherever in the tree,
    make no difference; and a value that is no list has no suggestions. -/
theorem forChildren_exact (v : Json) :
    ((forChildren (some v)).map (·.input)).Pairwise (· < ·)
      ∧ (∀ name, name ∈ (forChildren (some v)).map (·.input)
          ↔ ∃ item, ItemIn v item ∧ item.field? "name" = some (.str name) ∧ name ≠ "")
      ∧ (∀ w, Changed List.Perm v w → forChildren (some w) = forChildren (some v))
      ∧ (∀ item w, ItemIn v item → Changed (Repeats item) v w →
          forChildren (some w) = forChildren (some v))
      ∧ (v.asArr? = none → forChildren (some v) = []) := by
  refine ⟨?_, fun name => ?_, fun w hw => ?_, fun item w hitem hw => ?_, fun hlist => ?_⟩
  · rw [inputs_forChildren]
    exact Keyed.pairwise_distinct _
  · rw [inputs_forChildren, Keyed.mem_distinct]
    exact mem_childNames
  · refine forChildren_eq_of_names fun name => ?_
    have hnames : name ∈ childNames w ↔ False ∨ name ∈ childNames v :=
      mem_childNames_changed False (fun items items' h => by rw [mem_itemNames_of_perm h, false_or]) hw
    rwa [false_or] at hnames
  · refine forChildren_eq_of_names fun name => ?_
    rw [mem_childNames_changed _ (fun items items' h => mem_itemNames_of_repeats h) hw]
    exact or_iff_right_of_imp (mem_childNames_of_namedWithin hitem)
  · cases v with
    | arr items => cases hlist
    | _ => rfl

/-- A column with a name and nothing below it. -/
def leaf (name : String) : Json := .obj [("name", .str name)]

/-- Columns below an item without a name, beside an item whose name is no text. -/
def nestedColumns (below : List Json) : Json :=
  .arr [.obj [("children", .arr below)], .obj [("name", .null)], leaf "id"]

/-- A column is found below the item without a name; it does not matter where it stands there, nor whether
    it stands beside that item as well. -/
theorem forChildren_exact_nested :
    "zip" ∈ (forChildren (some (nestedColumns [.str "city", leaf "zip"]))).map (·.input)
      ∧ forChildren (some (nestedColumns [leaf "zip", .str "city"]))
        = forChildren (some (nestedColumns [.str "city", leaf "zip"]))
      ∧ forChildren (some (.arr [leaf "zip", .obj [("children", .arr [.str "city", leaf "zip"])],
          .obj [("name", .null)], leaf "id"]))
        = forChildren (some (nestedColumns [.str "city", leaf "zip"]))
      ∧ forChildren (some (leaf "zip")) = [] := by
  obtain ⟨-, hmem, hreordered, hrepeated, -⟩ :=
    forChildren_exact (nestedColumns [.str "city", leaf "zip"])
  have hzip : ItemIn (nestedColumns [.str "city", leaf "zip"]) (leaf "zip") :=
    .deeper List.mem_cons_self rfl (.top (List.mem_cons_of_mem _ List.mem_cons_self))
  have hswap : Changed List.Perm (nestedColumns [.str "city", leaf "zip"])
      (nestedColumns [leaf "zip", .str "city"]) := by
    show Changed _ (.arr ([] ++ .obj [("children", .arr _)] :: _)) _
    exact .deeper rfl (.top (.swap _ _ _))
  refine ⟨(hmem "zip").2 ⟨_, hzip, rfl, by decide⟩, hreordered _ hswap, ?_, ?_⟩
  · exact hrepeated _ _ hzip (.top (.refl _))
  · exact (forChildren_exact (leaf "zip")).2.2.2.2 rfl

end Suggestion

end CatalogIndex
