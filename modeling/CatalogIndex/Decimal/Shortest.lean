/-
  CatalogIndex.Decimal.Shortest — the shortest decimal that reads back as a given double.

  A double is the only double in an interval of numbers around it, whose ends lie half way to its
  neighbours; the ends belong to it when its mantissa is even.  On the grid of decimals with a given
  number of digits the two points next to the double are tried, for one digit, two digits and so on:
  the first grid with a point in the interval gives the digits, the nearer point wins, and of two
  points equally near the even one.  All comparisons are exact, in natural numbers.

  The digits are written positionally when the leading one stands for a power of ten from `10⁻⁵` to
  `10¹⁵`, and with an exponent otherwise; a whole number keeps its `.0`.
-/
import CatalogIndex.Decimal.Double

namespace CatalogIndex.Decimal

/-! ## §1. The interval of a double. -/

/-- The numbers that round to a double, in units of `2 ^ scale`. -/
structure Interval where
  low : Nat
  value : Nat
  high : Nat
  scale : Int
  /-- Whether the two ends belong to the interval. -/
  closed : Bool

/-- The interval of the magnitude of `d`.  Below a power of two the doubles lie twice as dense, so
    the lower end is half as far away there. -/
def Interval.of (d : Double) : Interval :=
  let e := ((d.bits >>> 52) &&& 0x7FF).toNat
  let fraction := (d.bits &&& 0xFFFFFFFFFFFFF).toNat
  let m := if e = 0 then fraction else fraction + Nat.pow 2 52
  { low := if fraction = 0 ∧ 1 < e then 4 * m - 1 else 4 * m - 2
    value := 4 * m
    high := 4 * m + 2
    scale := (if e = 0 then (1 : Int) else e) - 1077
    closed := m % 2 = 0 }

/-! ## §2. Decimal grids. -/

namespace Interval

/-- One step of the grid of multiples of `10 ^ k`, on the common scale of `onGrid`. -/
def gridUnit (iv : Interval) (k : Int) : Nat :=
  Nat.pow 10 k.toNat * Nat.pow 2 (-iv.scale).toNat

/-- `n` units of the interval on the common scale of the grid of `10 ^ k`. -/
def onGrid (iv : Interval) (k : Int) (n : Nat) : Nat :=
  n * Nat.pow 2 iv.scale.toNat * Nat.pow 10 (-k).toNat

/-- Whether `c · 10 ^ k` lies in the interval. -/
def holds (iv : Interval) (k : Int) (c : Nat) : Bool :=
  let point := c * iv.gridUnit k
  if iv.closed then iv.onGrid k iv.low ≤ point && point ≤ iv.onGrid k iv.high
  else iv.onGrid k iv.low < point && point < iv.onGrid k iv.high

/-- The multiple of `10 ^ k` in the interval that is nearest to the value. -/
def nearest? (iv : Interval) (k : Int) : Option Nat :=
  let unit := iv.gridUnit k
  let value := iv.onGrid k iv.value
  let c := value / unit
  let below := value - c * unit
  match iv.holds k c, iv.holds k (c + 1) with
  | true, true =>
    if 2 * below < unit then some c
    else if unit < 2 * below then some (c + 1)
    else some (if c % 2 = 0 then c else c + 1)
  | true, false => some c
  | false, true => some (c + 1)
  | false, false => none

/-- The power of ten of the leading digit of the value. -/
def leading (iv : Interval) : Int :=
  let scaled := iv.value * Nat.pow 2 iv.scale.toNat * Nat.pow 10 400 / Nat.pow 2 (-iv.scale).toNat
  (Nat.toDigits 10 scaled).length - 401

end Interval

/-- The digits of a decimal and the power of ten of the first of them. -/
structure Shortest where
  digits : List Char
  leading : Int

/-- The shortest decimal in the interval of `d`, which is not zero. -/
def Shortest.of (d : Double) : Shortest :=
  let iv := Interval.of d
  let first := iv.leading
  let found := (List.range 17).findSome? fun (n : Nat) =>
    (iv.nearest? (first - n)).map (·, first - n)
  let (c, k) := found.getD (0, 0)
  let digits := Nat.toDigits 10 c
  { digits := (digits.reverse.dropWhile (· = '0')).reverse
    leading := k + digits.length - 1 }

/-! ## §3. Writing. -/

/-- The digits with a point after `whole` of them, filled up with zeros. -/
def Shortest.positional (s : Shortest) : List Char :=
  if s.leading < 0 then
    '0' :: '.' :: (List.replicate (-s.leading - 1).toNat '0' ++ s.digits)
  else
    let whole := s.leading.toNat + 1
    let filled := s.digits ++ List.replicate (whole - s.digits.length) '0'
    let fraction := filled.drop whole
    filled.take whole ++ '.' :: (if fraction.isEmpty then ['0'] else fraction)

/-- One digit, a point if more follow, and the power of ten with its sign. -/
def Shortest.scientific (s : Shortest) : List Char :=
  let mantissa := match s.digits with
    | d :: e :: rest => d :: '.' :: e :: rest
    | ds => ds
  mantissa ++ 'e' :: (if s.leading < 0 then '-' else '+') :: Nat.toDigits 10 s.leading.natAbs

/-- The text of a magnitude. -/
def Shortest.written (s : Shortest) : List Char :=
  if -6 < s.leading ∧ s.leading < 16 then s.positional else s.scientific

end CatalogIndex.Decimal

/-- The text of a double. -/
def CatalogIndex.Double.written (d : CatalogIndex.Double) : List Char :=
  let magnitude :=
    if d.isZero then ['0', '.', '0'] else (CatalogIndex.Decimal.Shortest.of d).written
  if d.isNegative then '-' :: magnitude else magnitude
