import Mathlib.Algebra.Order.Ring.Rat
import Mathlib.Tactic.FieldSimp
import Mathlib.Tactic.Ring
import SpriteMachine.Device.Clock
import SpriteMachine.Number.Exact

/-!
# What a clock measures

With exact arithmetic the timer of a clock gains what its source moves while it is not
paused, and nothing else. Pausing and resuming keep the reading, a reset throws it away.
-/

namespace SpriteMachine

namespace Clock

variable {clock : Clock Rat}

/-- Milliseconds by way of seconds are milliseconds. -/
theorem timerMilliseconds_eq (clock : Clock Rat) :
    clock.timerMilliseconds = clock.now - clock.start := by
  change (clock.now - clock.start) / (1000 : Rat) * (1000 : Rat) = _
  field_simp

/-- What passes for a clock from one state to a later one: the way of the source, unless the
clock is paused. -/
def passed (before after : Clock Rat) : Rat :=
  if before.isPaused then 0 else after.source - before.source

/-- No time passes while the source stands still. -/
theorem passed_eq_zero {before after : Clock Rat} (same : after.source = before.source) :
    passed before after = 0 := by
  rw [passed, same, sub_self, ite_self]

/-- Time passes forward where the source does. -/
theorem passed_nonneg {before after : Clock Rat} (forward : before.source ≤ after.source) :
    0 ≤ passed before after := by
  unfold passed
  split
  case isTrue => exact le_refl 0
  case isFalse => exact sub_nonneg.mpr forward

/-- The timer gains what passes. -/
theorem timerMilliseconds_setSource (clock : Clock Rat) (moment : Rat) :
    (clock.setSource moment).timerMilliseconds =
      clock.timerMilliseconds + clock.passed (clock.setSource moment) := by
  rw [timerMilliseconds_eq, timerMilliseconds_eq, passed]
  cases stopped : clock.pausedAt with
  | none =>
    simp only [now, setSource, isPaused, stopped, Option.getD_none, Option.isSome_none,
      Bool.false_eq_true, if_false]
    ring
  | some reading =>
    simp only [now, setSource, isPaused, stopped, Option.getD_some, Option.isSome_some, if_true]
    ring

/-- A timer that is reset starts at zero. -/
theorem timerMilliseconds_reset (clock : Clock Rat) : clock.reset.timerMilliseconds = 0 := by
  rw [timerMilliseconds_eq]
  exact sub_self clock.now

/-- A pause leaves the source alone. -/
@[simp]
theorem source_pause (clock : Clock Rat) : clock.pause.source = clock.source := by
  unfold pause
  split <;> rfl

/-- A pause leaves the timer where it is. -/
theorem timerMilliseconds_pause (clock : Clock Rat) :
    clock.pause.timerMilliseconds = clock.timerMilliseconds := by
  rw [timerMilliseconds_eq, timerMilliseconds_eq]
  cases stopped : clock.pausedAt with
  | none => simp [pause, now, stopped]
  | some reading => simp [pause, stopped]

/-- The end of a pause leaves the source alone. -/
@[simp]
theorem source_resume (clock : Clock Rat) : clock.resume.source = clock.source := by
  unfold resume
  split <;> rfl

/-- The start moves along with the pause, so a pause is not measured. -/
theorem timerMilliseconds_resume (clock : Clock Rat) :
    clock.resume.timerMilliseconds = clock.timerMilliseconds := by
  rw [timerMilliseconds_eq, timerMilliseconds_eq]
  cases stopped : clock.pausedAt with
  | none => simp [resume, stopped]
  | some reading =>
    simp only [resume, now, stopped, Option.getD_none, Option.getD_some]
    ring

/-- No command moves the source. -/
@[simp]
theorem source_obey (clock : Clock Rat) (command : ClockCommand) :
    (clock.obey command).source = clock.source := by
  rcases command with ⟨_ | _ | _, _ | _⟩ <;> simp [obey, reset]

/-- A command throws the reading away if it resets the timer, and keeps it otherwise. -/
theorem timerMilliseconds_obey (clock : Clock Rat) (command : ClockCommand) :
    (clock.obey command).timerMilliseconds =
      if command.reset then 0 else clock.timerMilliseconds := by
  rcases command with ⟨_ | _ | _, _ | _⟩ <;>
    simp [obey, timerMilliseconds_reset, timerMilliseconds_pause, timerMilliseconds_resume]

end Clock

end SpriteMachine
