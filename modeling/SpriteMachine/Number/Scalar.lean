import SpriteMachine.Number.Layout

/-!
# Scalars

Everything that measures, be it a position, an angle, a speed or a moment, is a
scalar. The class lists the operations the library needs, so that one set of
definitions runs on binary floats and can be reasoned about on exact rationals.

A scalar may be infinite or undefined. Comparisons are Boolean tests of the
scalar itself and hold for no undefined one; nothing here assumes that two
scalars are comparable.
-/

namespace SpriteMachine

/-- The arithmetic of measurements. -/
class Scalar (α : Type) extends Add α, Sub α, Mul α, Div α, Neg α where
  /-- The scalar nearest to an integer. -/
  ofInt : Int → α
  /-- The scalar nearest to a decimal numeral; a numeral too large is infinite. -/
  ofNumeral : Numeral → α
  /-- The infinite or undefined scalar that a word denotes, as far as there is one. -/
  special : (negative undefined : Bool) → α
  less : α → α → Bool
  atMost : α → α → Bool
  same : α → α → Bool
  isDefined : α → Bool
  isFinite : α → Bool
  /-- The greatest whole scalar that is not above. -/
  floor : α → α
  /-- The nearest whole scalar, a half away from zero. -/
  round : α → α
  sqrt : α → α
  /-- Whether a finite scalar is whole. -/
  isWhole : α → Bool
  /-- The integer part toward zero, held between two bounds; zero when undefined. -/
  truncate : (low high : Int) → α → Int
  /-- The horizontal and vertical part of one step in a direction in degrees,
  where zero is up and ninety is right. -/
  heading : α → α × α
  /-- The text of a scalar in a layout. -/
  write : NumberLayout → α → String

namespace Scalar

variable {α : Type} [Scalar α]

/-- The scalar zero. -/
def zero : α := ofInt 0

/-- The greater of two scalars; the other one when the first is undefined. -/
def maximum (left right : α) : α :=
  if less left right || !isDefined left then right else left

/-- A scalar held between two bounds. An undefined scalar stays undefined. -/
def clamp (low high value : α) : α :=
  if less value low then low
  else if less high value then high
  else value

/-- The distance from zero. -/
def magnitude (value : α) : α :=
  if less value zero then -value else value

/-- The scalar that a reading denotes. -/
def ofText : NumberText → α
  | .finite numeral => ofNumeral numeral
  | .infinite negative => special negative false
  | .undefined => special false true

/-- The default text of a scalar. -/
def text (value : α) : String := write .value value

end Scalar

end SpriteMachine
