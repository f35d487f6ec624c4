/-
  CatalogIndex.Text.Lowercase — the lower-case form of a text.

  Letters are mapped one by one, with two exceptions: a dotted capital I becomes two characters,
  and a capital sigma becomes the final sigma `ς` at the end of a word.  The end of a word is where
  the nearest character before that is not passed over is a letter with case, and the nearest one
  after is not.
-/
import CatalogIndex.Text.CaseTable

namespace CatalogIndex.Text

/-- The lower-case partner of a letter; every other character stays. -/
def lowerChar (c : Char) : Char :=
  match lowerRuns.find? (·.holds c.toNat) with
  | some run => Char.ofNat (Int.toNat (c.toNat + run.shift))
  | none => c

/-- Whether the nearest character that is not passed over is a letter with case. -/
def meetsCased : List Char → Bool
  | [] => false
  | c :: cs => if inRanges ignorableRanges c.toNat then meetsCased cs else inRanges casedRanges c.toNat

/-- The lower-case form of `cs`, when `before` stands in front of it, nearest character first. -/
def lowerFrom (before : List Char) : List Char → List Char
  | [] => []
  | c :: cs =>
    let rest := lowerFrom (c :: before) cs
    if c = 'Σ' then (if meetsCased before && !meetsCased cs then 'ς' else 'σ') :: rest
    else if c = 'İ' then 'i' :: '\u0307' :: rest
    else lowerChar c :: rest

/-- The lower-case form of `s`. -/
def lowercase (s : String) : String := String.ofList (lowerFrom [] s.toList)

end CatalogIndex.Text
