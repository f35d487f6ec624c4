/-
  CatalogIndex.Text.Blank — white space and trimming.

  A character is blank when it has the Unicode property `White_Space`.  Queries, host names and
  index names are trimmed by this class, so an ideographic space counts as well as a tab.
-/
namespace CatalogIndex.Text

/-- The characters with the property `White_Space`. -/
def isBlank (c : Char) : Bool :=
  let n := c.toNat
  (9 ≤ n && n ≤ 13) || n == 0x20 || n == 0x85 || n == 0xA0 || n == 0x1680
    || (0x2000 ≤ n && n ≤ 0x200A) || n == 0x2028 || n == 0x2029 || n == 0x202F || n == 0x205F
    || n == 0x3000

/-- The text without blanks in front. -/
def trimStart (cs : List Char) : List Char := cs.dropWhile isBlank

/-- The text without blanks behind. -/
def trimEnd (cs : List Char) : List Char := (trimStart cs.reverse).reverse

/-- `s` without blanks in front and behind. -/
def trim (s : String) : String := String.ofList (trimEnd (trimStart s.toList))

/-- Whether `s` holds blanks only. -/
def isAllBlank (s : String) : Bool := s.toList.all isBlank

end CatalogIndex.Text
