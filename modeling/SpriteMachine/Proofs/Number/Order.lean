import Mathlib
import SpriteMachine.Number.Binary
import SpriteMachine.Value.Basic

/-!
# The order of floats

Two defined floats compare one way or the other, and the other way round when they are
exchanged. So a float that is held between two bounds in order lies between them, unless it is
undefined. A float that compares like zero is one of the two zeros, and both are the number zero
to a script.
-/

namespace SpriteMachine.BinaryFloat

open Float.Model (UnpackedFloat)

/-- Exchanged sizes compare the other way round: exponents first, and then mantissas. -/
theorem size_swap (mantissa mantissa' : Nat) (exponent exponent' : Int) :
    (compare exponent' exponent).then (compare mantissa' mantissa) =
      ((compare exponent exponent').then (compare mantissa mantissa')).swap := by
  rw [Ordering.swap_then, Int.compare_swap, Nat.compare_swap]

/-- Exchanged floats compare the other way round. -/
theorem compare_swap (left right : UnpackedFloat) :
    right.compare left = (left.compare right).map Ordering.swap := by
  cases left <;> cases right
  case infinity.infinity s t => cases s <;> cases t <;> rfl
  case infinity.zero s _ => cases s <;> rfl
  case infinity.finite s _ _ _ _ => cases s <;> rfl
  case zero.infinity _ t => cases t <;> rfl
  case finite.infinity _ _ _ _ t => cases t <;> rfl
  case zero.finite _ t _ _ _ => cases t <;> rfl
  case finite.zero s _ _ _ _ => cases s <;> rfl
  case finite.finite s mantissa exponent _ t mantissa' exponent' _ =>
    have swapped := size_swap mantissa mantissa' exponent exponent'
    cases s <;> cases t
    case positive.positive => exact congrArg some swapped
    case negative.negative => exact congrArg (fun way => some way.swap) swapped
    all_goals rfl
  all_goals rfl

/-- Defined floats compare. -/
theorem compare_defined {left right : UnpackedFloat} (leftDefined : left.isNaN = false)
    (rightDefined : right.isNaN = false) : ∃ way, left.compare right = some way := by
  cases left with
  | notANumber => cases leftDefined
  | infinity s =>
    cases right with
    | notANumber => cases rightDefined
    | infinity => exact ⟨_, rfl⟩
    | zero | finite => cases s <;> exact ⟨_, rfl⟩
  | zero =>
    cases right with
    | notANumber => cases rightDefined
    | zero => exact ⟨_, rfl⟩
    | infinity t | finite t => cases t <;> exact ⟨_, rfl⟩
  | finite s =>
    cases right with
    | notANumber => cases rightDefined
    | zero => cases s <;> exact ⟨_, rfl⟩
    | infinity t => cases t <;> exact ⟨_, rfl⟩
    | finite t => cases s <;> cases t <;> exact ⟨_, rfl⟩

/-- The order of two floats, if both are defined. -/
def order (left right : Float) : Option Ordering :=
  left.toModel.unpack.compare right.toModel.unpack

/-- One number is less than another when it comes before it. -/
theorem less_iff {left right : Float} :
    Scalar.less left right = true ↔ order left right = some .lt := by
  simp [Scalar.less, LT.lt, Float.lt, Float.Model.lt, UnpackedFloat.lt, order]

/-- One number is at most another when it does not come behind it. -/
theorem atMost_iff {left right : Float} :
    Scalar.atMost left right = true ↔ ∃ way, order left right = some way ∧ way.isLE = true := by
  change decide (left ≤ right) = true ↔ _
  rw [decide_eq_true_iff]
  simp [LE.le, Float.le, Float.Model.le, UnpackedFloat.le, order, Option.any_eq_true]

/-- A number is defined when its parts are not those of no number. -/
theorem isDefined_iff {value : Float} :
    Scalar.isDefined value = true ↔ value.toModel.unpack.isNaN = false := by
  simp [Scalar.isDefined, Float.isNaN, Float.Model.isNaN]

/-- A float that is not below another is at least that one. -/
theorem atMost_of_not_less {left right : Float} (leftDefined : Scalar.isDefined left = true)
    (rightDefined : Scalar.isDefined right = true) (above : Scalar.less left right ≠ true) :
    Scalar.atMost right left = true := by
  obtain ⟨way, compared⟩ :=
    compare_defined (isDefined_iff.mp leftDefined) (isDefined_iff.mp rightDefined)
  have turned : order right left = some way.swap := by
    rw [order, compare_swap, compared, Option.map_some]
  refine atMost_iff.mpr ⟨way.swap, turned, ?_⟩
  cases way with
  | lt => exact absurd (less_iff.mpr compared) above
  | eq => rfl
  | gt => rfl

/-- A defined float is at least as great as itself. -/
theorem atMost_refl {value : Float} (defined : Scalar.isDefined value = true) :
    Scalar.atMost value value = true := by
  by_cases below : Scalar.less value value = true
  · exact atMost_iff.mpr ⟨.lt, less_iff.mp below, rfl⟩
  · exact atMost_of_not_less defined defined below

/-- A defined float that is held between two bounds in order lies between them. -/
theorem clamp_between {low high value : Float} (lowDefined : Scalar.isDefined low = true)
    (highDefined : Scalar.isDefined high = true) (bounds : Scalar.atMost low high = true)
    (defined : Scalar.isDefined value = true) :
    Scalar.atMost low (Scalar.clamp low high value) = true ∧
      Scalar.atMost (Scalar.clamp low high value) high = true := by
  unfold Scalar.clamp
  split
  case isTrue => exact ⟨atMost_refl lowDefined, bounds⟩
  case isFalse above =>
    split
    case isTrue => exact ⟨bounds, atMost_refl highDefined⟩
    case isFalse below =>
      exact ⟨atMost_of_not_less defined lowDefined above,
        atMost_of_not_less highDefined defined below⟩

/-! ## The two zeros -/

/-- Floats are told apart by what they unpack to. -/
theorem unpack_injective {left right : Float}
    (same : left.toModel.unpack = right.toModel.unpack) : left = right := by
  obtain ⟨⟨⟨bits⟩, valid⟩⟩ := left
  obtain ⟨⟨⟨bits'⟩, valid'⟩⟩ := right
  cases (UnpackedFloat.unpack_inj_of_valid valid valid').mp same
  rfl

/-- Only a zero compares like zero. -/
theorem zero_of_compare {unpacked : UnpackedFloat}
    (same : unpacked.compare (.zero .positive) = some .eq) : ∃ sign, unpacked = .zero sign := by
  cases unpacked with
  | zero sign => exact ⟨sign, rfl⟩
  | notANumber => cases same
  | infinity sign | finite sign => cases sign <;> cases same

/-- A float that is the same as zero is one of the two zeros. -/
theorem eq_zero_of_same {value : Float} (same : Scalar.same value Scalar.zero = true) :
    value = 0.0 ∨ value = -0.0 := by
  obtain ⟨sign, unpacked⟩ : ∃ sign, value.toModel.unpack = .zero sign :=
    zero_of_compare (eq_of_beq same)
  cases sign with
  | positive => exact .inl (unpack_injective unpacked)
  | negative => exact .inr (unpack_injective unpacked)

/-- A script cannot tell what is the same as zero from zero. -/
theorem ofNumber_of_same {value : Float} (same : Scalar.same value Scalar.zero = true) :
    Value.ofNumber value = .int 0 := by
  have whole (zero : Float) (short : Value.isShortWhole zero = true)
      (none : Scalar.truncate (-Value.wholeLimit) Value.wholeLimit zero = 0) :
      Value.ofNumber zero = .int 0 := by
    rw [Value.ofNumber, if_pos short, none]
  rcases eq_zero_of_same same with rfl | rfl
  · exact whole 0.0 (by decide +kernel) (by decide +kernel)
  · exact whole (-0.0) (by decide +kernel) (by decide +kernel)

end SpriteMachine.BinaryFloat
