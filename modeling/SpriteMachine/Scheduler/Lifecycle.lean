import SpriteMachine.Scheduler.Step

/-!
# The life of a scheduler

A started scheduler may be driven. Quitting drops every thread without a word to
the worker, disposing stops everything and removes every target. Driving steps
the scheduler until somebody stops it.
-/

namespace SpriteMachine

namespace Scheduler

variable {τ α : Type} [Scalar α] [Transport τ α]

/-- Marks the scheduler as started. -/
def start (scheduler : Scheduler τ α) : Scheduler τ α :=
  if scheduler.started then scheduler
  else { scheduler with started := true }.emit .runtimeStarted

/-- Ends the ticking and drops every thread. -/
def quit (scheduler : Scheduler τ α) : Scheduler τ α :=
  { scheduler with started := false, threads := .empty, returns := .empty }

/-- Removes targets one after another and announces each. -/
def disposeTargets (scheduler : Scheduler τ α) (ids : List TargetId) : Scheduler τ α :=
  ids.foldl (fun scheduler id =>
    match scheduler.stage.dispose id with
    | (some _, stage) => { scheduler with stage := stage }.emit (.targetWasRemoved id)
    | (none, stage) => { scheduler with stage := stage }) scheduler

/-- Stops everything, removes every target and script, and resets the timer. -/
def dispose (scheduler : Scheduler τ α) : Scheduler τ α :=
  let stopped := scheduler.stopAll
  let emptied := stopped.disposeTargets stopped.stage.targets.keys
  let announced := { emptied with scripts := .empty }.emit .runtimeDisposed
  { announced with
    devices := { announced.devices with clock := announced.devices.clock.reset } }

/-- How a scheduler is driven. The observer is asked after each tick, with the number
of ticks so far, whether there shall be another one; `elapse` is what happens
before that. -/
structure Pace (τ α : Type) where
  proceed : Nat → StepReport → Scheduler τ α → Bool
  elapse : Scheduler τ α → Scheduler τ α

/-- Ticks while the scheduler is started and the observer wants it to, at most a
number of times. The result is the number of ticks at the end. -/
def driveFrom (pace : Pace τ α) : Nat → Nat → Scheduler τ α → Nat × Scheduler τ α
  | 0, ticks, scheduler => (ticks, scheduler)
  | budget + 1, ticks, scheduler =>
    if !scheduler.started then (ticks, scheduler)
    else
      match scheduler.step with
      | (report, stepped) =>
        if pace.proceed (ticks + 1) report stepped then
          driveFrom pace budget (ticks + 1) (pace.elapse stepped)
        else (ticks + 1, stepped)

/-- Starts the scheduler and ticks at most a number of times, until it quits or the
observer wants no more. -/
def drive (scheduler : Scheduler τ α) (limit : Nat) (pace : Pace τ α) : Nat × Scheduler τ α :=
  driveFrom pace limit 0 scheduler.start

/-- Whether a scheduler has threads or had messages in a tick. -/
def isBusy (scheduler : Scheduler τ α) (report : StepReport) : Bool :=
  scheduler.threads.size > 0 || report.messages > 0

end Scheduler

end SpriteMachine
