import SpriteMachine.CommandLine
import SpriteMachine.Number.Binary
import SpriteMachine.Project.Run
import SpriteMachine.Settings.Location
import SpriteMachine.Version

/-!
# The program

The program reads the settings and a project from files, does what its command line
asks for and prints the answer. Errors go to the other output with their causes. A
run takes place in real time: the wall clock is read before every tick, and a paced
run waits between ticks. A run panics behind the tick in which arithmetic overflows.
-/

namespace SpriteMachine.Program

/-- The content of a file, or nothing when it cannot be read. -/
def contentOf (path : String) : IO (Option String) := do
  try
    return some (← IO.FS.readFile path)
  catch _ =>
    return none

/-- Prints what failed and why, the outermost cause first. -/
def failWith (what : String) (causes : List String) : IO UInt32 := do
  IO.eprintln ("Error: " ++ what ++ "\n\nCaused by:")
  match causes with
  | [cause] => IO.eprintln ("    " ++ cause)
  | causes =>
    for (cause, number) in causes.zipIdx do
      IO.eprintln ("    " ++ toString number ++ ": " ++ cause)
  return 1

/-- The settings of a named file, or else those of the user. -/
def loadSettings (file : Option String) : IO (Except SettingsFault Settings) := do
  match file with
  | some file => return Settings.ofNamedFile (← contentOf file)
  | none =>
    let directory ← IO.getEnv "XDG_CONFIG_HOME"
    let home ← IO.getEnv "HOME"
    let data ← IO.getEnv "APPDATA"
    let known := [("XDG_CONFIG_HOME", directory), ("HOME", home), ("APPDATA", data)]
    match Settings.location? fun name => (known.lookup name).join with
    | some path => return Settings.ofUserFile (← contentOf path)
    | none => return .ok .standard

/-- Does something with the project of a file. -/
def withProject (file : String) (use : Project Float → IO UInt32) : IO UInt32 := do
  match Project.ofFile (← contentOf file) with
  | .ok project => use project
  | .error fault => failWith ("Failed to load: " ++ file) [fault.message]

/-- Ticks while there are threads or messages, at most a number of times, and waits
for what is left of the interval between two ticks. Moments are nanoseconds. -/
def tickInRealTime (interval beginning : Nat) :
    Nat → Nat → Scheduler (Inline Float) Float → IO RunSummary
  | 0, ticks, scheduler => return Project.summary ticks scheduler
  | budget + 1, ticks, scheduler => do
    let now ← IO.monoNanosNow
    match (scheduler.atMoment (now - beginning)).step with
    | (report, stepped) =>
      if stepped.isBusy report && !stepped.stage.overflowed then
        let spent := (← IO.monoNanosNow) - now
        IO.sleep (UInt32.ofNat ((interval - spent) / 1000000))
        tickInRealTime interval beginning budget (ticks + 1) stepped
      else return Project.summary (ticks + 1) stepped

/-- Runs the project of a file and prints what is told about the run. -/
def runProject (file : String) (settings : Settings) (limit : Nat) (paced : Bool) :
    IO UInt32 :=
  withProject file fun project => do
    let beginning ← IO.monoNanosNow
    match project.launched settings with
    | .error fault => failWith ("Failed to run: " ++ file) [fault.message, fault.cause.message]
    | .ok scheduler =>
      let summary ←
        tickInRealTime (if paced then settings.tickInterval else 0) beginning limit 0
          scheduler.start
      if summary.overflowed then
        IO.eprintln "attempt to compute with overflow"
        return 101
      IO.println summary.line
      return 0

/-- Links the scripts of a project and prints the event map, and the unit too if asked
for. -/
def linkProject (file : String) (verbose : Bool) : IO UInt32 :=
  withProject file fun project => do
    let ids := project.targets.map TargetSpec.id
    match Linker.link Float project.scripts (· ∈ ids) .safe with
    | (.error fault, _) => failWith "Link failed" [fault.message]
    | (.ok linked, _) =>
      IO.println linked.unit.events.lay
      if verbose then
        IO.eprintln linked.unit.source
      return 0

/-- Prints every opcode, then every hat. -/
def listOpcodes : IO UInt32 := do
  for opcode in Registry.standard.opcodes do
    IO.println opcode
  for (hat, restarting) in Registry.standard.hats do
    IO.println (hat ++ (if restarting then " (hat, restart)" else " (hat, no-restart)"))
  return 0

/-- Does what a command line asks for. -/
def obey (line : CommandLine) : IO UInt32 := do
  match ← loadSettings line.settingsFile with
  | .error fault => failWith "Failed to load config" [fault.message]
  | .ok settings =>
    match line.command with
    | .run project ticks mode paced =>
      let worker := { settings.worker with mode := mode.getD settings.worker.mode }
      runProject project { settings with worker := worker } (ticks.getD Width.last64) paced
    | .link project => linkProject project line.verbose
    | .opcodes => listOpcodes
    | .version =>
      IO.println (programName ++ " " ++ programVersion)
      return 0

end SpriteMachine.Program

/-- Runs the program on its command line. -/
def main (words : List String) : IO UInt32 := do
  match SpriteMachine.CommandLine.read? words with
  | some line => SpriteMachine.Program.obey line
  | none =>
    IO.eprintln SpriteMachine.CommandLine.usage
    return 2
