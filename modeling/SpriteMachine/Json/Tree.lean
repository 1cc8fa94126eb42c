import SpriteMachine.Number.Scalar

/-!
# JSON trees

A tree keeps what a JSON text says before anybody decides what it means: the
order of an object's entries, repeated keys, and numbers as they are written.
A string whose escapes name half of a surrogate pair has no text; such a string
is well formed and only a reader that needs its text has to refuse it. The same
holds for a number outside the range of the scalars.
-/

namespace SpriteMachine

/-- A parsed JSON text. A string or key of `none` has no text. -/
inductive Json where
  | null
  | bool (value : Bool)
  | integer (value : Int)
  | decimal (numeral : Numeral)
  | string (text : Option String)
  | array (items : List Json)
  | object (entries : List (Option String × Json))

namespace Json

mutual

/-- How many arrays and objects enclose the deepest part, the tree included. -/
def depth : Json → Nat
  | array items => depthOfItems items + 1
  | object entries => depthOfEntries entries + 1
  | _ => 0

/-- The greatest depth among items. -/
def depthOfItems : List Json → Nat
  | [] => 0
  | item :: rest => max (depth item) (depthOfItems rest)

/-- The greatest depth among entries. -/
def depthOfEntries : List (Option String × Json) → Nat
  | [] => 0
  | (_, value) :: rest => max (depth value) (depthOfEntries rest)

end

/-- The deepest nesting that a typed reader follows. -/
def deepest : Nat := 127

end Json

namespace Numeral

variable {α : Type} [Scalar α]

/-- The scalar `10 ^ power`. -/
def tenTo (power : Nat) : α := Scalar.ofNumeral ⟨false, 1, power⟩

/-- A scalar divided by `10 ^ power` in steps of at most 308. After as many
steps as are given nothing is left of it. -/
def shrink : Nat → α → Nat → α
  | 0, _, _ => Scalar.zero
  | steps + 1, value, power =>
    if power ≤ 308 then value / tenTo power
    else shrink steps (value / tenTo 308) (power - 308)

/-- The scalar of a number written in JSON: the significand is taken as a scalar
first and then multiplied or divided by a power of ten. There is none when the
result is infinite. -/
def scaled? (numeral : Numeral) : Option α :=
  let significand : α := Scalar.ofInt numeral.significand
  let signed (size : α) : α := if numeral.negative then -size else size
  if numeral.exponent < 0 then
    some (signed (shrink 4 significand numeral.exponent.natAbs))
  else if numeral.exponent ≤ 308 then
    let size := significand * tenTo numeral.exponent.toNat
    if Scalar.isFinite size then some (signed size) else none
  else if numeral.significand = 0 then some (signed significand)
  else none

end Numeral

end SpriteMachine
