import SpriteMachine.Project.Basic
import SpriteMachine.Scheduler.Lifecycle
import SpriteMachine.Scheduler.Loading
import SpriteMachine.Settings.Basic
import SpriteMachine.Worker.Inline

/-!
# Running projects

A project runs on a fresh scheduler with a worker on the same thread. The targets
are made, the scripts loaded and the green flag clicked; then the scheduler ticks
until nothing moves any more. Time stands still unless it is asked to pass with
the ticks. A run in which arithmetic of the stage overflows ends in a panic.
-/

namespace SpriteMachine

/-- Where the start of a project failed. -/
inductive RunFault where
  | preparing (cause : SchedulerFault)
  | loading (cause : SchedulerFault)
  | starting (cause : SchedulerFault)
deriving DecidableEq, Repr

namespace RunFault

/-- What failed, in words. -/
def message : RunFault → String
  | preparing _ => "Backend did not come up"
  | loading _ => "Failed to load scripts"
  | starting _ => "Failed to start scripts"

/-- Why it failed. -/
def cause : RunFault → SchedulerFault
  | preparing cause => cause
  | loading cause => cause
  | starting cause => cause

end RunFault

/-- What is told about a run: its ticks, the counts of its scheduler, the threads that
were live at its end, and whether arithmetic of the stage overflowed on the way. -/
structure RunSummary where
  ticks : Nat
  stats : SchedulerCounts
  liveThreads : Nat
  overflowed : Bool
deriving DecidableEq, Repr

/-- A summary on one line. -/
def RunSummary.line (summary : RunSummary) : String :=
  String.intercalate " " (([("ticks", summary.ticks), ("blocks", summary.stats.blocksExecuted),
    ("threads", summary.stats.threadsRegistered), ("faults", summary.stats.faults),
    ("script_errors", summary.stats.scriptErrors), ("live", summary.liveThreads)]).map
      fun (name, count) => name ++ "=" ++ toString count)

/-- How a run ends: it comes to its end, it does not start, or it panics on the way. -/
inductive RunEnd where
  | over (summary : RunSummary)
  | refused (fault : RunFault)
  | panicked
deriving DecidableEq, Repr

namespace Scheduler

variable {τ α : Type} [Scalar α]

/-- Makes the targets of a project, loads its scripts and clicks the green flag. -/
def launch [Transport τ α] (scheduler : Scheduler τ α) (project : Project α) (url : String) :
    Except RunFault (Scheduler τ α) :=
  match scheduler.openBackend url with
  | (.error cause, _) => .error (.preparing cause)
  | (.ok _, ready) =>
    let populated := project.targets.foldl (fun scheduler spec =>
      scheduler.addTarget (.ofSpec spec)) ready
    match populated.loadScripts project.scripts with
    | (.error cause, _) => .error (.loading cause)
    | (.ok _, loaded) =>
      match loaded.greenFlag with
      | (.error cause, _) => .error (.starting cause)
      | (.ok _, started) => .ok started

/-- The scheduler when a number of nanoseconds has passed since its beginning. -/
def atMoment (scheduler : Scheduler (Inline α) α) (passed : Nat) : Scheduler (Inline α) α :=
  { scheduler with
    bridge := { scheduler.bridge with
      transport := { scheduler.bridge.transport with moment := passed / 1000000 } }
    devices := { scheduler.devices with
      clock := scheduler.devices.clock.setSource
        (Scalar.ofInt passed / Scalar.ofInt 1000000) } }

/-- Lets a number of nanoseconds have passed for each tick so far. -/
def elapseTicks (interval : Nat) (scheduler : Scheduler (Inline α) α) :
    Scheduler (Inline α) α :=
  scheduler.atMoment (scheduler.stats.ticks * interval)

/-- Ticks while there are threads or messages, with a number of nanoseconds between
two ticks. -/
def driveWhileBusy (scheduler : Scheduler (Inline α) α) (limit interval : Nat) :
    Nat × Scheduler (Inline α) α :=
  scheduler.drive limit ⟨fun _ report scheduler => scheduler.isBusy report,
    elapseTicks interval⟩

end Scheduler

namespace Project

variable {α : Type} [Scalar α]

/-- The scheduler that settings ask for, with the packages that scripts can count on
and motors on a link that answers by itself. -/
def scheduler (settings : Settings) : Scheduler (Inline α) α :=
  let config := settings.schedulerConfig
  .fresh config .standard (.idle config.blockTimeout) .safe
    (.atRest .reliable Motors.defaultBackoff)

/-- A scheduler on which a project has been launched. -/
def launched (project : Project α) (settings : Settings) :
    Except RunFault (Scheduler (Inline α) α) :=
  (scheduler settings).attachRenderer.launch project settings.worker.backendUrl

/-- What is told about a scheduler after a number of ticks. -/
def summary (ticks : Nat) (ended : Scheduler (Inline α) α) : RunSummary :=
  ⟨ticks, ended.stats, ended.threads.size, ended.stage.overflowed⟩

/-- Runs a project for at most a number of ticks, counting around where arithmetic
overflows. When the run is paced, the interval of the settings passes between two
ticks. -/
def run (project : Project α) (settings : Settings) (limit : Nat) (paced : Bool) :
    Except RunFault RunSummary :=
  match project.launched settings with
  | .error fault => .error fault
  | .ok started =>
    match started.driveWhileBusy limit (if paced then settings.tickInterval else 0) with
    | (ticks, ended) => .ok (summary ticks ended)

/-- How the run of a project ends. Where arithmetic overflows it panics. -/
def outcome (project : Project α) (settings : Settings) (limit : Nat) (paced : Bool) : RunEnd :=
  match project.run settings limit paced with
  | .error fault => .refused fault
  | .ok summary => if summary.overflowed then .panicked else .over summary

end Project

end SpriteMachine
