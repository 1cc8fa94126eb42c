import Mathlib.Algebra.BigOperators.Group.Finset.Basic
import Mathlib.Data.List.Induction
import SpriteMachine.Proofs.Device.Clock

/-!
# The timer over a whole history

What a timer shows is told by what happened to its clock: how the source moved, and what the
clock was commanded. A movement of the source counts when the last command about the pause
before it did not ask for one, and when no command behind it resets the timer. The timer is
the sum of the movements that count.
-/

namespace SpriteMachine

/-- What happens to a clock: its source moves on or to a moment, or somebody commands it. -/
inductive ClockEvent where
  | moves (distance : Rat)
  | movesTo (moment : Rat)
  | commanded (command : ClockCommand)

namespace ClockEvent

/-- The reading of the source behind an event. -/
def moved (reading : Rat) : ClockEvent → Rat
  | moves distance => reading + distance
  | movesTo moment => moment
  | commanded _ => reading

/-- What an event asks of the pause, if anything. -/
def wish : ClockEvent → Option Bool
  | commanded command => command.paused
  | _ => none

/-- Whether an event resets the timer. -/
def resets : ClockEvent → Bool
  | commanded command => command.reset
  | _ => false

/-- The reading of the source behind a history that began at an origin. -/
def reading (origin : Rat) (history : List ClockEvent) : Rat := history.foldl moved origin

/-- Whether the last wish of a history about the pause asked for it. -/
def stopped (history : List ClockEvent) : Bool := (history.filterMap wish).getLast?.getD false

/-- What the event at a place of a history adds to the timer: the movement of the source, unless
the clock is stopped then, or the timer is reset from there on. -/
def counted (origin : Rat) (history : List ClockEvent) (place : Nat) : Rat :=
  if stopped (history.take place) || (history.drop place).any resets then 0
  else reading origin (history.take (place + 1)) - reading origin (history.take place)

variable (origin : Rat) (history : List ClockEvent) (event : ClockEvent)

/-- The reading of the source behind a history is the one its last event moves it to. -/
theorem reading_concat :
    reading origin (history ++ [event]) = event.moved (reading origin history) :=
  List.foldl_concat moved origin event history

/-- Whether the timer is stopped behind a history is what its last event wishes, or as before. -/
theorem stopped_concat :
    stopped (history ++ [event]) = event.wish.getD (stopped history) := by
  rw [stopped, stopped, List.filterMap_append, List.getLast?_append]
  cases wanted : event.wish <;> simp [wanted]

/-- A reset takes away all that was counted before it. -/
theorem counted_concat {place : Nat} (earlier : place < history.length) :
    counted origin (history ++ [event]) place =
      if event.resets then 0 else counted origin history place := by
  have here : (history ++ [event]).take place = history.take place :=
    List.take_append_of_le_length (Nat.le_of_lt earlier)
  have next : (history ++ [event]).take (place + 1) = history.take (place + 1) :=
    List.take_append_of_le_length earlier
  have later : (history ++ [event]).drop place = history.drop place ++ [event] :=
    List.drop_append_of_le_length (Nat.le_of_lt earlier)
  rw [counted, counted, here, next, later, List.any_append, List.any_cons, List.any_nil,
    Bool.or_false]
  cases event.resets <;> simp

/-- The last event counts what it moves. -/
theorem counted_last :
    counted origin (history ++ [event]) history.length =
      if stopped history || event.resets then 0
      else event.moved (reading origin history) - reading origin history := by
  have here : (history ++ [event]).take history.length = history := List.take_left
  have next : (history ++ [event]).take (history.length + 1) = history ++ [event] := by
    rw [List.take_of_length_le (by simp)]
  rw [counted, here, next, List.drop_left, reading_concat, List.any_cons, List.any_nil,
    Bool.or_false]

end ClockEvent

namespace Clock

open ClockEvent

/-- The clock behind an event. -/
def follow (clock : Clock Rat) : ClockEvent → Clock Rat
  | .moves distance => clock.advance distance
  | .movesTo moment => clock.setSource moment
  | .commanded command => clock.obey command

/-- The clock behind a history. -/
def followAll (clock : Clock Rat) (history : List ClockEvent) : Clock Rat :=
  history.foldl follow clock

variable (clock : Clock Rat) (event : ClockEvent)

/-- An event moves the source as far as it says. -/
theorem source_follow : (clock.follow event).source = event.moved clock.source := by
  cases event with
  | moves distance => rfl
  | movesTo moment => rfl
  | commanded command => exact source_obey clock command

/-- An event pauses the clock or lets it run if it wishes so. -/
theorem isPaused_follow : (clock.follow event).isPaused = event.wish.getD clock.isPaused := by
  cases event with
  | moves distance => rfl
  | movesTo moment => rfl
  | commanded command =>
    rcases command with ⟨_ | _ | _, _ | _⟩ <;> cases stopped : clock.pausedAt <;>
      simp [follow, obey, pause, resume, reset, isPaused, wish, stopped]

/-- An event that resets the timer leaves zero, and any other one adds what the source moves
while the clock runs. -/
theorem timerMilliseconds_follow :
    (clock.follow event).timerMilliseconds =
      if event.resets then 0
      else clock.timerMilliseconds +
        if clock.isPaused then 0 else event.moved clock.source - clock.source := by
  cases event with
  | moves distance => exact timerMilliseconds_setSource clock (clock.source + distance)
  | movesTo moment => exact timerMilliseconds_setSource clock moment
  | commanded command =>
    simp only [follow, moved, sub_self, ite_self, add_zero]
    exact timerMilliseconds_obey clock command

variable (origin : Rat) (history : List ClockEvent)

/-- The source reads what the history moved it to, and the clock is paused when the history
stopped it. -/
theorem follows :
    ((startingAt origin).followAll history).source = reading origin history ∧
      ((startingAt origin).followAll history).isPaused = stopped history := by
  induction history using List.reverseRecOn with
  | nil => exact ⟨rfl, rfl⟩
  | append_singleton history event inductionHypothesis =>
    obtain ⟨source, paused⟩ := inductionHypothesis
    rw [followAll, List.foldl_concat, ← followAll]
    constructor
    · rw [source_follow, source, reading_concat]
    · rw [isPaused_follow, paused, stopped_concat]

/-- The project timer measures unpaused time since the last reset. However the source of a clock
is moved and whatever the clock is commanded, a thousand times its timer is the sum of what the
source moved while the clock was not stopped and behind which no reset came. -/
theorem timer_measures_unpaused_time :
    ((startingAt origin).followAll history).timer * 1000 =
      ∑ place ∈ Finset.range history.length, counted origin history place := by
  change ((startingAt origin).followAll history).timerMilliseconds = _
  induction history using List.reverseRecOn with
  | nil =>
    rw [timerMilliseconds_eq]
    exact sub_self origin
  | append_singleton history event inductionHypothesis =>
    obtain ⟨source, paused⟩ := follows origin history
    -- What was counted so far stays, or a reset takes it all back.
    have before : ∑ place ∈ Finset.range history.length, counted origin (history ++ [event]) place =
        if event.resets then 0
        else ∑ place ∈ Finset.range history.length, counted origin history place := by
      rw [Finset.sum_congr rfl fun place member =>
        counted_concat origin history event (Finset.mem_range.mp member)]
      split
      case isTrue => exact Finset.sum_const_zero
      case isFalse => rfl
    rw [followAll, List.foldl_concat, ← followAll, timerMilliseconds_follow, inductionHypothesis,
      source, paused, List.length_append, List.length_singleton, Finset.sum_range_succ, before,
      counted_last]
    cases event.resets <;> simp

/-- A pause of 200 milliseconds is not measured, and neither is what was there before the reset. -/
example : ((startingAt 40).followAll [.moves 500, .commanded ⟨some true, true⟩, .moves 200,
    .commanded ⟨some false, false⟩, .moves 300]).timer = 3 / 10 := by decide +kernel

end Clock

end SpriteMachine
