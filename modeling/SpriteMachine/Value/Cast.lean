import SpriteMachine.Text.Blank
import SpriteMachine.Text.Case
import SpriteMachine.Value.Basic

/-!
# Loose casts

Blocks take whatever a script hands them: text that spells a number is a number,
a number has a text, and everything is either true or false. No cast fails.
-/

namespace SpriteMachine

namespace Value

variable {α : Type} [Scalar α]

/-- A scalar with zero in place of an undefined one. -/
def definedOrZero (value : α) : α :=
  if Scalar.isDefined value then value else Scalar.zero

/-- A value as a number. Text counts when it spells a number between blanks, and
a truth value counts as one or zero; everything else is zero. -/
def toNumber : Value α → α
  | int value => Scalar.ofInt value
  | real value => definedOrZero value
  | bool value => if value then Scalar.ofInt 1 else Scalar.zero
  | text value =>
    match NumberText.read? (Text.trim value.toList) with
    | some number => definedOrZero (Scalar.ofText number)
    | none => Scalar.zero
  | _ => Scalar.zero

/-- A value as text for display. A whole number below the limit in size has no
fraction, nothing is the empty text, and lists and objects are JSON. -/
def toText : Value α → String
  | null => ""
  | text value => value
  | int value => toString value
  | real value =>
    if isShortWhole value then
      toString (Scalar.truncate (-wholeLimit) wholeLimit value)
    else Scalar.text value
  | other => other.write

/-- A value as a truth value. Nothing, zero, the empty text, `0` and `false` in
any letter case are false. -/
def toBool : Value α → Bool
  | bool value => value
  | null => false
  | int value => !Scalar.same (Scalar.ofInt value : α) Scalar.zero
  | real value => !Scalar.same value Scalar.zero && Scalar.isDefined value
  | text value => !(value = "" || value = "0" || Text.sameIgnoringCase value "false")
  | _ => true

end Value

/-- A scalar moved by whole turns into the range that starts at `low` and is one
longer than the distance to `high`. -/
def Scalar.wrap {α : Type} [Scalar α] (value low high : α) : α :=
  let range := (high - low) + ofInt 1
  value - floor ((value - low) / range) * range

end SpriteMachine
