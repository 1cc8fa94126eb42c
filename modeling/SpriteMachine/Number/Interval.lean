import SpriteMachine.Number.Binary

/-!
# Intervals of time

A number of repetitions per second gives an interval in whole nanoseconds. The
interval is a binary float at first, whose exact value is then rounded.
-/

namespace SpriteMachine

/-- The whole number nearest to a quotient; a half goes to the even neighbour. -/
def nearestQuotient (dividend divisor : Nat) : Nat :=
  let below := dividend / divisor
  let rest := 2 * (dividend % divisor)
  if divisor < rest ∨ (rest = divisor ∧ below % 2 = 1) then below + 1 else below

/-- Nanoseconds in one second. -/
def nanosecondsPerSecond : Nat := 1000000000

/-- A duration in seconds as the nearest number of nanoseconds. There is none for
a negative, infinite or undefined duration. -/
def FloatParts.nanoseconds? : FloatParts → Option Nat
  | .finite negative mantissa exponent _ =>
    if negative ∧ mantissa ≠ 0 then none
    else some (nearestQuotient (mantissa * Nat.pow 2 exponent.toNat * nanosecondsPerSecond)
      (Nat.pow 2 (-exponent).toNat))
  | _ => none

/-- The rate that stands in for one that is no positive number. -/
def standardRate : Float := 60.0

/-- The interval of a number of repetitions per second. -/
def intervalOfRate? (rate : Float) : Option Nat :=
  let used := if rate.isFinite && 0.0 < rate then rate else standardRate
  (FloatParts.ofFloat (1.0 / used)).nanoseconds?

end SpriteMachine
