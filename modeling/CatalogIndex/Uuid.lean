/-
  CatalogIndex.Uuid — identifiers of entities.

  An identifier is a number of 128 bits.  It is read from 32 hexadecimal digits in either case: bare,
  or in groups of 8, 4, 4, 4 and 12 with hyphens between them, and the grouped form may stand in
  braces or behind `urn:uuid:` in letters of either case.  It is always written in lower-case groups.
-/
import CatalogIndex.Json.Source

namespace CatalogIndex

/-- An identifier. -/
structure Uuid where
  value : BitVec 128
  deriving DecidableEq

namespace Uuid

/-- The identifier of nothing in particular: all bits zero. -/
def nil : Uuid := ⟨0⟩

instance : Inhabited Uuid := ⟨nil⟩

/-! ## §1. Writing. -/

/-- The 32 hexadecimal digits, most significant first. -/
def digits (id : Uuid) : List Char :=
  (List.range 32).map fun i => Nat.digitChar (id.value.toNat / Nat.pow 16 (31 - i) % 16)

/-- The digits in groups of 8, 4, 4, 4 and 12. -/
def grouped (ds : List Char) : List Char :=
  ds.take 8 ++ '-' :: ((ds.drop 8).take 4 ++ '-' :: ((ds.drop 12).take 4
    ++ '-' :: ((ds.drop 16).take 4 ++ '-' :: ds.drop 20)))

/-- The written form. -/
def toText (id : Uuid) : String := String.ofList (grouped id.digits)

instance : ToString Uuid := ⟨toText⟩

/-- An identifier as a JSON text. -/
def toJson (id : Uuid) : Json := .str id.toText

/-! ## §2. Reading. -/

/-- The number written by hexadecimal digits. -/
def ofDigits? (ds : List Char) : Option Nat :=
  ds.foldlM (fun n c => (Written.hexValue? c).map (16 * n + ·)) 0

/-- Reads 32 digits. -/
def ofBare? (cs : List Char) : Option Uuid :=
  if cs.length = 32 then (ofDigits? cs).map fun n => ⟨BitVec.ofNat 128 n⟩ else none

/-- The characters of the five groups, if there are hyphens between them. -/
def ungroup? (cs : List Char) : Option (List Char) :=
  if cs.length = 36 ∧ cs[8]? = some '-' ∧ cs[13]? = some '-' ∧ cs[18]? = some '-'
      ∧ cs[23]? = some '-' then
    some (cs.take 8 ++ (cs.drop 9).take 4 ++ (cs.drop 14).take 4 ++ (cs.drop 19).take 4
      ++ cs.drop 24)
  else none

/-- Reads the grouped form. -/
def ofGrouped? (cs : List Char) : Option Uuid := (ungroup? cs).bind ofBare?

/-- The mark of an identifier that is written as a name, in small letters. -/
def urnMark : List Char := ['u', 'r', 'n', ':', 'u', 'u', 'i', 'd', ':']

/-- Reads any of the accepted forms. -/
def ofText? (s : String) : Option Uuid :=
  let cs := s.toList
  if cs.length = 32 then ofBare? cs
  else if cs.length = 38 then
    if cs.head? = some '{' ∧ cs.getLast? = some '}' then ofGrouped? (cs.drop 1).dropLast else none
  else if cs.length = 45 then
    if (cs.take 9).map Char.toLower = urnMark then ofGrouped? (cs.drop 9) else none
  else ofGrouped? cs

/-- An identifier from a source. -/
def decode? {ν : Type} [Source ν] (x : ν) : Option Uuid := (Source.text? x).bind ofText?

/-- The order of identifiers: as numbers. -/
def before (a b : Uuid) : Bool := a.value.toNat < b.value.toNat

end Uuid

end CatalogIndex
