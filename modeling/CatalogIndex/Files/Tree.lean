/-
  CatalogIndex.Files.Tree — files in folders.

  A path is walked part by part.  Parts that are empty or one dot stay in the folder, two dots lead
  to the folder around it, and every other part has to be there.  Only a folder can be walked on
  from, so a path through a file, or one that ends in a slash behind a file, leads nowhere.
-/
import CatalogIndex.Text.Basic

namespace CatalogIndex

/-- A file with its text, or a folder. -/
inductive FileTree where
  | file (text : String)
  | folder (entries : List (String × FileTree))

namespace FileTree

/-- One step from the first of `places`, which lie inside one another. -/
def step? (places : List FileTree) (part : String) : Option (List FileTree) :=
  match places with
  | .folder entries :: around =>
    if part = "" ∨ part = "." then some places
    else if part = ".." then some (if around.isEmpty then places else around)
    else (entries.lookup part).map (· :: places)
  | _ => none

/-- The text of the file that a path leads to, starting in the folder `base`. -/
def read? (root : FileTree) (base : List String) (path : String) : Option String := do
  let start ← if path.isEmpty then none
    else if Text.startsWith path "/" then some [root]
    else base.foldlM step? [root]
  match ← (Text.split '/' path).foldlM step? start with
  | .file text :: _ => some text
  | _ => none

end FileTree

/-- `inner` as seen from `outer`: below it, unless it is empty. -/
def joinPath (outer inner : String) : String :=
  if outer.isEmpty ∨ outer.toList.getLast? = some '/' then outer ++ inner
  else outer ++ "/" ++ inner

end CatalogIndex
