/-
  CatalogIndex.Decimal.Double — the fractional numbers of the catalogue.

  Versions, scores and the numbers of free-form values that are not integers are IEEE doubles.
  A `Double` is the bit pattern of a finite one, so that equality of values of this type is equality
  of numbers as they are stored (`0.0` and `-0.0` differ), while `Double.same` is the comparison of
  numbers (they are the same).
-/
namespace CatalogIndex

/-- A finite IEEE double: an exponent field of all ones, infinity or not a number, is excluded. -/
structure Double where
  bits : UInt64
  finite : (bits >>> 52) &&& 0x7FF ≠ 0x7FF := by decide
  deriving DecidableEq

namespace Double

/-- The number zero, without sign. -/
def zero : Double := { bits := 0 }

instance : Inhabited Double := ⟨zero⟩

/-- The double of a finite result of arithmetic. -/
def ofFloat? (f : Float) : Option Double :=
  if h : (f.toBits >>> 52) &&& 0x7FF ≠ 0x7FF then some { bits := f.toBits, finite := h } else none

/-- The double nearest to an integer. -/
def ofInt? (n : Int) : Option Double := ofFloat? (Float.ofInt n)

def isNegative (d : Double) : Bool := d.bits >>> 63 == 1

/-- Whether the number is zero, whatever its sign bit. -/
def isZero (d : Double) : Bool := d.bits &&& 0x7FFFFFFFFFFFFFFF == 0

/-- Equality of numbers: the two zeros are one number. -/
def same (a b : Double) : Bool := a == b || (a.isZero && b.isZero)

end Double

end CatalogIndex
