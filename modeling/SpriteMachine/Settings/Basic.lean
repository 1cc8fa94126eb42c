import SpriteMachine.Number.Interval
import SpriteMachine.Number.Width
import SpriteMachine.Scheduler.State
import SpriteMachine.Settings.LogLevel
import SpriteMachine.Toml.Document

/-!
# Settings

Settings are written as a TOML document with a section for the scheduler, one for
the worker and one for the log. Everything has a default, and what is not known is
not looked at. A rate and a time limit of zero are refused, since the machine
cannot run with them.
-/

namespace SpriteMachine

/-- Where the script worker runs. -/
inductive WorkerMode where
  | inline
  | thread
deriving DecidableEq, Repr

/-- The name of a mode. -/
def WorkerMode.name : WorkerMode → String
  | inline => "inline"
  | thread => "thread"

/-- The section of the scheduler. Times are milliseconds, and a block timeout of
zero means none. -/
structure SchedulerSettings where
  maxClones : Nat
  tickRate : Nat
  requestTimeout : Nat
  blockTimeout : Nat
  endFaultedThreads : Bool
deriving DecidableEq, Repr

/-- The section of the worker. -/
structure WorkerSettings where
  mode : WorkerMode
  backendUrl : String
deriving DecidableEq, Repr

/-- All settings. -/
structure Settings where
  scheduler : SchedulerSettings
  worker : WorkerSettings
  logLevel : LogLevel
deriving DecidableEq, Repr

/-- Why settings cannot be used. -/
inductive SettingsFault where
  | missingFile
  | malformed
  | noTickRate
  | noRequestTimeout
deriving DecidableEq, Repr

/-- A fault in words. -/
def SettingsFault.message : SettingsFault → String
  | missingFile => "IO error reading the settings"
  | malformed => "Config parse error"
  | noTickRate => "Invalid config: scheduler.tick_rate_hz must be positive"
  | noRequestTimeout => "Invalid config: scheduler.request_timeout_ms must be positive"

namespace Toml

variable {β : Type}

/-- A whole number between zero and a limit. -/
def nat? (limit : Nat) : Toml → Option Nat
  | integer value => if 0 ≤ value ∧ value ≤ limit then some value.toNat else none
  | _ => none

/-- A truth value. -/
def bool? : Toml → Option Bool
  | truth value => some value
  | _ => none

/-- The text of a string. -/
def text? : Toml → Option String
  | string content => some content
  | _ => none

/-- Whether a value is an array or a table that holds nothing. -/
def isEmpty : Toml → Bool
  | array [] => true
  | table _ [] => true
  | _ => false

/-- The name of a choice, alone or as the only key of a table that holds nothing
under it. -/
def choice? : Toml → Option String
  | string content => some content
  | table _ [(name, content)] => if content.isEmpty then some name else none
  | _ => none

/-- The parts of a section. A section may also be written as an array of its first
parts in order; a moment is a section in which nothing is known. -/
def parts? (names : List String) : Toml → Option Entries
  | table _ entries => some entries
  | array items => some (names.zip items)
  | tables items => some (names.zip items)
  | moment => some []
  | _ => none

/-- A part of a section, or what holds when it is not given. -/
def part? (entries : Entries) (name : String) (missing : β) (read? : Toml → Option β) :
    Option β :=
  match entries.lookup name with
  | some value => read? value
  | none => some missing

end Toml

/-- The mode of a name. -/
def WorkerMode.ofName? (name : String) : Option WorkerMode :=
  [inline, thread].find? fun mode => mode.name = name

namespace SchedulerSettings

/-- The settings that hold when none are given. -/
def standard : SchedulerSettings := ⟨Stage.defaultMaxClones, 60, 5000, 0, true⟩

/-- The section of a TOML value. -/
def ofToml? (value : Toml) : Option SchedulerSettings := do
  let parts ← value.parts? ["max_clones", "tick_rate_hz", "request_timeout_ms",
    "block_timeout_ms", "end_faulted_threads"]
  let maxClones ← Toml.part? parts "max_clones" standard.maxClones (Toml.nat? Width.last64)
  let tickRate ← Toml.part? parts "tick_rate_hz" standard.tickRate (Toml.nat? Width.last32)
  let requestTimeout ←
    Toml.part? parts "request_timeout_ms" standard.requestTimeout (Toml.nat? Width.last64)
  let blockTimeout ←
    Toml.part? parts "block_timeout_ms" standard.blockTimeout (Toml.nat? Width.last64)
  let endFaultedThreads ←
    Toml.part? parts "end_faulted_threads" standard.endFaultedThreads Toml.bool?
  return ⟨maxClones, tickRate, requestTimeout, blockTimeout, endFaultedThreads⟩

end SchedulerSettings

namespace WorkerSettings

/-- The settings that hold when none are given. -/
def standard : WorkerSettings := ⟨.inline, ""⟩

/-- The section of a TOML value. -/
def ofToml? (value : Toml) : Option WorkerSettings := do
  let parts ← value.parts? ["mode", "backend_url"]
  let mode ← Toml.part? parts "mode" standard.mode (·.choice?.bind WorkerMode.ofName?)
  let backendUrl ← Toml.part? parts "backend_url" standard.backendUrl Toml.text?
  return ⟨mode, backendUrl⟩

end WorkerSettings

/-- The level in the section of the log. -/
def LogLevel.ofToml? (value : Toml) : Option LogLevel := do
  let parts ← value.parts? ["level"]
  Toml.part? parts "level" .info (·.choice?.bind LogLevel.ofName?)

namespace Settings

/-- The settings that hold when none are given. -/
def standard : Settings := ⟨.standard, .standard, .info⟩

/-- The settings of a TOML document. -/
def ofToml? (document : Toml) : Option Settings := do
  let parts ← document.parts? ["scheduler", "worker", "log"]
  let scheduler ← Toml.part? parts "scheduler" .standard SchedulerSettings.ofToml?
  let worker ← Toml.part? parts "worker" .standard WorkerSettings.ofToml?
  let logLevel ← Toml.part? parts "log" .info LogLevel.ofToml?
  return ⟨scheduler, worker, logLevel⟩

/-- Settings with which the machine can run. -/
def check (settings : Settings) : Except SettingsFault Settings :=
  if settings.scheduler.tickRate = 0 then .error .noTickRate
  else if settings.scheduler.requestTimeout = 0 then .error .noRequestTimeout
  else .ok settings

/-- The settings of a text. -/
def read (text : String) : Except SettingsFault Settings :=
  match (Toml.read? text).bind ofToml? with
  | some settings => settings.check
  | none => .error .malformed

/-- The settings of a file that was named, by its content. -/
def ofNamedFile : Option String → Except SettingsFault Settings
  | some content => read content
  | none => .error .missingFile

/-- The settings of the user's own file, by its content. There need not be one. -/
def ofUserFile : Option String → Except SettingsFault Settings
  | some content => read content
  | none => .ok standard

/-- The time between two ticks in nanoseconds. -/
def tickInterval (settings : Settings) : Nat :=
  (intervalOfRate? (BinaryFloat.ofInt (max settings.scheduler.tickRate 1))).getD 0

/-- The limits that settings give to a scheduler. -/
def schedulerConfig (settings : Settings) : SchedulerConfig :=
  { SchedulerConfig.standard with
    maxClones := settings.scheduler.maxClones
    tickInterval := settings.tickInterval
    requestTimeout := settings.scheduler.requestTimeout
    blockTimeout :=
      if settings.scheduler.blockTimeout = 0 then none else some settings.scheduler.blockTimeout
    endFaultedThreads := settings.scheduler.endFaultedThreads }

end Settings

end SpriteMachine
