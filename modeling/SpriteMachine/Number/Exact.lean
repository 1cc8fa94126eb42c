import SpriteMachine.Number.Binary

/-!
# Rational numbers as scalars

With rationals the arithmetic of positions, angles and moments is exact, and
every scalar is finite. Only square roots and headings, which leave the
rationals, are taken from the nearest floats; no statement about exact
arithmetic depends on their value.
-/

namespace SpriteMachine

namespace Exact

/-- The rational that a finite float denotes; zero for any other. -/
def ofFloat (value : Float) : Rat :=
  match FloatParts.ofFloat value with
  | .finite negative mantissa exponent _ =>
    let size := mkRat (mantissa * Nat.pow 2 exponent.toNat) (Nat.pow 2 (-exponent).toNat)
    if negative then -size else size
  | _ => 0

/-- The float near a rational. -/
def toFloat (value : Rat) : Float :=
  BinaryFloat.ofInt value.num / BinaryFloat.ofInt value.den

/-- The rational that a numeral denotes. -/
def ofNumeral (numeral : Numeral) : Rat :=
  let size := mkRat (numeral.significand * Nat.pow 10 numeral.exponent.toNat)
    (Nat.pow 10 (-numeral.exponent).toNat)
  if numeral.negative then -size else size

/-- The nearest integer, a half away from zero. -/
def round (value : Rat) : Int :=
  if value < 0 then -(-value + 1 / 2).floor else (value + 1 / 2).floor

/-- The integer part toward zero. -/
def truncate (value : Rat) : Int :=
  if value < 0 then -(-value).floor else value.floor

end Exact

instance : Scalar Rat where
  ofInt value := value
  ofNumeral := Exact.ofNumeral
  special _ _ := 0
  less left right := left < right
  atMost left right := left ≤ right
  same left right := left = right
  isDefined _ := true
  isFinite _ := true
  floor value := value.floor
  round value := Exact.round value
  sqrt value := Exact.ofFloat (Exact.toFloat value).sqrt
  isWhole value := value.den = 1
  truncate low high value := max low (min high (Exact.truncate value))
  heading direction :=
    let (right, up) := Scalar.heading (Exact.toFloat direction)
    (Exact.ofFloat right, Exact.ofFloat up)
  write layout value := Scalar.write layout (Exact.toFloat value)

end SpriteMachine
