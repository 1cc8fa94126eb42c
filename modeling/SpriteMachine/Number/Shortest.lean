/-!
# The shortest decimal that reads back

A binary number `m * 2 ^ q` is read back from every decimal in the interval of
reals that round to it. The shortest decimal is found on the coarsest grid of
multiples of a power of ten that meets this interval: a coarser grid point has
fewer digits. Of two grid points in the interval the nearer one is taken, and
the even one at equal distance.

All arithmetic is exact and on natural numbers.
-/

namespace SpriteMachine

/-- The reals that round to one binary number, as numerators over a common
denominator. `closed` tells whether the ends belong to it. -/
structure RoundingInterval where
  low : Nat
  middle : Nat
  high : Nat
  denominator : Nat
  closed : Bool
deriving Repr

namespace RoundingInterval

/-- The interval of `mantissa * 2 ^ exponent`. The ends lie half a unit away,
only a quarter below when the next smaller number has a finer unit, and they
round to an even mantissa. -/
def ofBinary (mantissa : Nat) (exponent : Int) (finerBelow : Bool) : RoundingInterval :=
  let scale := Nat.pow 2 (exponent - 2).toNat
  { low := (if finerBelow then 4 * mantissa - 1 else 4 * mantissa - 2) * scale
    middle := 4 * mantissa * scale
    high := (4 * mantissa + 2) * scale
    denominator := Nat.pow 2 (2 - exponent).toNat
    closed := mantissa % 2 = 0 }

/-- The same interval measured in units of `10 ^ grid`. -/
def inUnits (interval : RoundingInterval) (grid : Int) : RoundingInterval :=
  let up := Nat.pow 10 (-grid).toNat
  { interval with
    low := interval.low * up
    middle := interval.middle * up
    high := interval.high * up
    denominator := interval.denominator * Nat.pow 10 grid.toNat }

/-- Whether a whole number of units lies in the interval. -/
def holds (interval : RoundingInterval) (point : Nat) : Bool :=
  let scaled := point * interval.denominator
  if interval.closed then
    decide (interval.low ≤ scaled ∧ scaled ≤ interval.high)
  else
    decide (interval.low < scaled ∧ scaled < interval.high)

/-- The whole number of units in the interval that is nearest to its middle, the even
one of two. Zero is no candidate. -/
def nearest? (interval : RoundingInterval) : Option Nat :=
  let below := interval.middle / interval.denominator
  let above := below + 1
  let lower := below ≠ 0 ∧ interval.holds below
  let twice := 2 * (interval.middle - below * interval.denominator)
  let isNearer :=
    twice < interval.denominator ∨ (twice = interval.denominator ∧ below % 2 = 0)
  if interval.holds above then
    if lower ∧ isNearer then some below else some above
  else if lower then some below
  else none

/-- The first point met on grids of falling power of ten. When the steps are
used up the middle is cut to the last grid. -/
def search (interval : RoundingInterval) : Nat → Int → Nat × Int
  | 0, grid =>
    let units := interval.inUnits grid
    (units.middle / units.denominator, grid)
  | steps + 1, grid =>
    match (interval.inUnits grid).nearest? with
    | some point => (point, grid)
    | none => search interval steps (grid - 1)

/-- A power of ten that is not below the interval's middle. -/
def topGrid (interval : RoundingInterval) : Int :=
  ((Nat.log2 interval.middle : Int) - Nat.log2 interval.denominator + 1) * 30103 / 100000 + 1

/-- The shortest decimal in the interval, as digits and a power of ten. Twenty
grids reach below the last significant digit of a 64-bit number. -/
def shortest (interval : RoundingInterval) : Nat × Int :=
  interval.search 20 interval.topGrid

end RoundingInterval

end SpriteMachine
