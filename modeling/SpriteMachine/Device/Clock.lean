import SpriteMachine.Json.Record
import SpriteMachine.Number.Scalar

/-!
# The project timer

The clock reads a time source that the host moves. It can be paused, during
which it stands still, and it measures the time since it was last reset. Pausing
and resuming keep the measured time; both have no effect when nothing changes.
All moments are in milliseconds, the timer in seconds.
-/

namespace SpriteMachine

/-- The reading of the time source, the reading from which the timer counts, and
the reading at which the clock was paused, if it is. -/
structure Clock (α : Type) where
  source : α
  start : α
  pausedAt : Option α

/-- What can be asked of a clock in one go: a change of its pause, and a reset. -/
structure ClockCommand where
  paused : Option Bool
  reset : Bool
deriving DecidableEq, Repr

/-- The command of a JSON tree. -/
def ClockCommand.ofJson? (json : Json) : Option ClockCommand := do
  let record ← Record.ofJson? ["paused", "reset"] json
  let paused ← record.nullableWithDefault "paused" Json.bool?
  let reset ← record.withDefault "reset" false Json.bool?
  return ⟨paused, reset⟩

namespace Clock

variable {α : Type}

/-- A running clock that starts at a reading of the source. -/
def startingAt (source : α) : Clock α := ⟨source, source, none⟩

/-- The moment the clock shows: that of the source, or that of the pause. -/
def now (clock : Clock α) : α := clock.pausedAt.getD clock.source

/-- Moves the time source to a moment. -/
def setSource (clock : Clock α) (moment : α) : Clock α := { clock with source := moment }

/-- Lets the timer count from now. -/
def reset (clock : Clock α) : Clock α := { clock with start := clock.now }

/-- Stops the clock unless it is stopped. -/
def pause (clock : Clock α) : Clock α :=
  match clock.pausedAt with
  | none => { clock with pausedAt := some clock.source }
  | some _ => clock

/-- Whether the clock is stopped. -/
def isPaused (clock : Clock α) : Bool := clock.pausedAt.isSome

variable [Scalar α]

/-- Moves the time source by a distance. -/
def advance (clock : Clock α) (distance : α) : Clock α :=
  { clock with source := clock.source + distance }

/-- Lets a stopped clock run again. The start moves along with the pause, so that
the pause is not measured. -/
def resume (clock : Clock α) : Clock α :=
  match clock.pausedAt with
  | some stopped =>
    { clock with start := clock.start + (clock.source - stopped), pausedAt := none }
  | none => clock

/-- The measured time in seconds. -/
def timer (clock : Clock α) : α := (clock.now - clock.start) / Scalar.ofInt 1000

/-- The measured time in milliseconds, by way of seconds. -/
def timerMilliseconds (clock : Clock α) : α := clock.timer * Scalar.ofInt 1000

/-- Follows a command: the pause first, then the reset. -/
def obey (clock : Clock α) (command : ClockCommand) : Clock α :=
  let turned := match command.paused with
    | some true => clock.pause
    | some false => clock.resume
    | none => clock
  if command.reset then turned.reset else turned

end Clock

end SpriteMachine
