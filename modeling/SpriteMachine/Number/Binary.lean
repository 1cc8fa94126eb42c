import SpriteMachine.Number.Scalar
import SpriteMachine.Number.Shortest

/-!
# Binary floats as scalars

The running program measures in 64-bit binary floats. A float is taken apart
into sign, mantissa and power of two, from which its whole part and its text
follow exactly; the remaining operations are those of the hardware.
-/

namespace SpriteMachine

/-- What the bits of a float denote. `finerBelow` marks a mantissa whose next
smaller neighbour has half the unit. -/
inductive FloatParts where
  | finite (negative : Bool) (mantissa : Nat) (exponent : Int) (finerBelow : Bool)
  | infinite (negative : Bool)
  | undefined
deriving Repr

namespace FloatParts

/-- Sign, exponent field and fraction of the 64 bits. -/
def ofFloat (value : Float) : FloatParts :=
  let bits : Nat := value.toBits.toNat
  let negative := bits / Nat.pow 2 63 = 1
  let field : Nat := bits / Nat.pow 2 52 % Nat.pow 2 11
  let fraction : Nat := bits % Nat.pow 2 52
  if field = 2047 then
    if fraction = 0 then .infinite negative else .undefined
  else if field = 0 then .finite negative fraction (-1074) false
  else
    .finite negative (Nat.pow 2 52 + fraction) (Int.ofNat field - 1075)
      (fraction = 0 ∧ 1 < field)

/-- The integer part toward zero. -/
def truncate (low high : Int) : FloatParts → Int
  | .finite negative mantissa exponent _ =>
    let size := mantissa * Nat.pow 2 exponent.toNat / Nat.pow 2 (-exponent).toNat
    let whole : Int := if negative then -size else size
    max low (min high whole)
  | .infinite negative => if negative then low else high
  | .undefined => 0

/-- Whether a finite float is whole. -/
def isWhole : FloatParts → Bool
  | .finite _ mantissa exponent _ =>
    mantissa * Nat.pow 2 exponent.toNat % Nat.pow 2 (-exponent).toNat = 0
  | _ => false

/-- The shortest decimal that reads back, in a layout. -/
def write (layout : NumberLayout) : FloatParts → String
  | .finite negative mantissa exponent finerBelow =>
    if mantissa = 0 then layout.write ⟨negative, 0, 0⟩
    else
      let (digits, grid) := (RoundingInterval.ofBinary mantissa exponent finerBelow).shortest
      layout.write ⟨negative, digits, grid⟩
  | .infinite negative => if negative then "-inf" else "inf"
  | .undefined => "NaN"

end FloatParts

/-- The float nearest to a decimal numeral. A numeral beyond the range of floats
is infinite or zero, which is settled from its number of digits before any
power of ten is formed. -/
def BinaryFloat.ofNumeral (numeral : Numeral) : Float :=
  let digits := (Nat.toDigits 10 numeral.significand).length
  let power := (digits : Int) + numeral.exponent
  let size : Float :=
    if numeral.significand = 0 ∨ power < -400 then 0.0
    else if 400 < power then 1.0 / 0.0
    else if numeral.exponent < 0 then
      Float.ofScientific numeral.significand true (-numeral.exponent).toNat
    else Float.ofScientific (numeral.significand * Nat.pow 10 numeral.exponent.toNat) false 0
  if numeral.negative then -size else size

/-- The float nearest to an integer. -/
def BinaryFloat.ofInt (value : Int) : Float :=
  if value < 0 then -(Float.ofScientific value.natAbs false 0)
  else Float.ofScientific value.natAbs false 0

/-- One degree in radians. -/
def BinaryFloat.degree : Float := 3.141592653589793 / 180.0

instance : Scalar Float where
  ofInt := BinaryFloat.ofInt
  ofNumeral := BinaryFloat.ofNumeral
  special negative undefined :=
    if undefined then 0.0 / 0.0 else if negative then -1.0 / 0.0 else 1.0 / 0.0
  less left right := left < right
  atMost left right := left ≤ right
  same left right := left == right
  isDefined value := !value.isNaN
  isFinite value := value.isFinite
  floor := Float.floor
  round := Float.round
  sqrt := Float.sqrt
  isWhole value := (FloatParts.ofFloat value).isWhole
  truncate low high value := (FloatParts.ofFloat value).truncate low high
  heading direction :=
    let angle := (90.0 - direction) * BinaryFloat.degree
    (angle.cos, angle.sin)
  write layout value := (FloatParts.ofFloat value).write layout

end SpriteMachine
