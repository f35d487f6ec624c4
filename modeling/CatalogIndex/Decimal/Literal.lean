/-
  CatalogIndex.Decimal.Literal — number literals and what they stand for.

  A literal without fraction and exponent is an integer when it fits into a signed or an unsigned
  64-bit word; `-0` is not one.  Every other literal is a double.  Its digits are gathered into a
  64-bit word as long as they fit, the digits that do not fit only move the decimal point, and the
  word is then scaled by a power of ten in double arithmetic.  A literal beyond the largest double
  stands for no number.
-/
import CatalogIndex.Decimal.Double

namespace CatalogIndex

/-- A number of a free-form value: an exact integer or a double. -/
inductive Number where
  | int (n : Int)
  | double (d : Double)
  deriving DecidableEq

namespace Decimal

/-- A number literal by its parts; a part that is not written is `none`. -/
structure Literal where
  negative : Bool
  whole : List Char
  fraction : Option (List Char)
  exponent : Option Int

/-- The value of a digit. -/
def digitValue (c : Char) : Nat := c.toNat - '0'.toNat

/-- The number that the digits write. -/
def ofDigits (ds : List Char) : Nat := ds.foldl (fun n c => 10 * n + digitValue c) 0

/-- The largest 64-bit word. -/
def maxWord : Nat := Nat.pow 2 64 - 1

/-- Appends digits to the word `n` as long as the result is a word.  Returns the word and the
    digits left over. -/
def gather (n : Nat) : List Char → Nat × List Char
  | [] => (n, [])
  | c :: cs => if 10 * n + digitValue c ≤ maxWord then gather (10 * n + digitValue c) cs else (n, c :: cs)

/-- `10 ^ k` as a double, for `k` up to 308. -/
def powerOfTen (k : Nat) : Float := Float.ofScientific 1 false k

/-- `f · 10 ^ k`, by one multiplication or division with a power of ten up to `10 ^ 308`.  Smaller
    powers take several divisions; three of them bring every word to zero. -/
def scale : Nat → Float → Int → Option Float
  | 0, _, _ => some 0
  | steps + 1, f, k =>
    if k.natAbs ≤ 308 then
      some (if 0 ≤ k then f * powerOfTen k.natAbs else f / powerOfTen k.natAbs)
    else if f == 0 then some f
    else if 0 ≤ k then none
    else scale steps (f / powerOfTen 308) (k + 308)

/-- The double `± n · 10 ^ k`, for a word `n`. -/
def scaled? (negative : Bool) (n : Nat) (k : Int) : Option Double := do
  let f ← scale 4 (Float.ofNat n) k
  Double.ofFloat? (if negative then -f else f)

namespace Literal

/-- The double that a literal stands for when it is not an integer. -/
def double? (l : Literal) : Option Double :=
  let (word, left) := gather 0 l.whole
  let fraction := l.fraction.getD []
  let (word, dropped) := gather word fraction
  let places : Int := left.length - (fraction.length - dropped.length : Nat)
  scaled? l.negative word (places + l.exponent.getD 0)

/-- The number that a literal stands for, if it is not too large. -/
def value? (l : Literal) : Option Number :=
  let n := ofDigits l.whole
  if l.fraction.isNone ∧ l.exponent.isNone ∧ ¬ l.negative ∧ n ≤ maxWord then some (.int n)
  else if l.fraction.isNone ∧ l.exponent.isNone ∧ l.negative ∧ 0 < n ∧ n ≤ Nat.pow 2 63 then
    some (.int (-n))
  else l.double?.map .double

end Literal

/-! ## Reading a literal. -/

/-- Splits off the digits in front. -/
def spanDigits (cs : List Char) : List Char × List Char :=
  (cs.takeWhile Char.isDigit, cs.dropWhile Char.isDigit)

/-- The digits after the point, of which there is at least one; no point, no fraction. -/
def readFraction? : List Char → Option (Option (List Char) × List Char)
  | '.' :: cs =>
    match spanDigits cs with
    | ([], _) => none
    | (ds, rest) => some (some ds, rest)
  | cs => some (none, cs)

/-- The power after `e` or `E`, with an optional sign. -/
def readExponent? : List Char → Option (Option Int × List Char)
  | c :: cs =>
    if c = 'e' ∨ c = 'E' then
      let (negative, cs) := match cs with
        | '-' :: cs => (true, cs)
        | '+' :: cs => (false, cs)
        | cs => (false, cs)
      match spanDigits cs with
      | ([], _) => none
      | (ds, rest) => some (some (if negative then -(ofDigits ds) else ofDigits ds), rest)
    else some (none, c :: cs)
  | [] => some (none, [])

/-- Reads a literal: a sign, digits without a leading zero unless zero is the only one, a fraction
    and an exponent.  Returns it with what follows. -/
def readLiteral? (cs : List Char) : Option (Literal × List Char) := do
  let (negative, cs) := match cs with
    | '-' :: cs => (true, cs)
    | cs => (false, cs)
  let (whole, cs) := spanDigits cs
  match whole with
  | [] => none
  | '0' :: _ :: _ => none
  | _ =>
    let (fraction, cs) ← readFraction? cs
    let (exponent, cs) ← readExponent? cs
    some ({ negative, whole, fraction, exponent }, cs)

end Decimal

end CatalogIndex
