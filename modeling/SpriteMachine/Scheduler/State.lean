import SpriteMachine.Block.Registry
import SpriteMachine.Device.Panel
import SpriteMachine.Stage.Basic
import SpriteMachine.Thread.Basic
import SpriteMachine.Worker.Bridge

/-!
# The scheduler's state

The scheduler owns the live threads, the stage, the devices and the loaded
scripts, and talks to the worker over the bridge. Threads are kept in the order
in which they were registered. A retired thread is one whose end the worker may
not know of yet; a bounded number of them is remembered, oldest forgotten first.

What happened is recorded newest first: the notices given to subscribers, the
results given to the listeners of threads, the values that scripts logged, and in
the chronicle the blocks that were invoked and the threads that were ended.
-/

namespace SpriteMachine

/-- The limits of a scheduler. Times are milliseconds, the tick interval is in
nanoseconds. -/
structure SchedulerConfig where
  maxClones : Nat
  tickInterval : Nat
  requestTimeout : Nat
  blockTimeout : Option Nat
  endFaultedThreads : Bool
  maxMessagesPerTick : Nat
  retiredCapacity : Nat
deriving DecidableEq, Repr

/-- The limits that hold when none are configured. -/
def SchedulerConfig.standard : SchedulerConfig where
  maxClones := Stage.defaultMaxClones
  tickInterval := 16666667
  requestTimeout := 5000
  blockTimeout := none
  endFaultedThreads := true
  maxMessagesPerTick := 1024
  retiredCapacity := 4096

/-- What subscribers are told. -/
inductive Notice where
  | projectStart
  | projectStopAll
  | stopForTarget (target : TargetId)
  | projectLoaded
  | projectChanged
  | targetsUpdate
  | runtimeStarted
  | runtimeDisposed
  | targetWasCreated (target : TargetId) (source : Option TargetId)
  | targetWasRemoved (target : TargetId)
  | keyPressed (key : String)
  | workerStatus (status : WorkerStatus)
deriving DecidableEq, Repr

/-- The name of a notice and what it is about; a missing part is none. -/
def Notice.words : Notice → List (Option String)
  | projectStart => [some "ProjectStart"]
  | projectStopAll => [some "ProjectStopAll"]
  | stopForTarget target => [some "StopForTarget", some target.text]
  | projectLoaded => [some "ProjectLoaded"]
  | projectChanged => [some "ProjectChanged"]
  | targetsUpdate => [some "TargetsUpdate"]
  | runtimeStarted => [some "RuntimeStarted"]
  | runtimeDisposed => [some "RuntimeDisposed"]
  | targetWasCreated target source =>
    [some "TargetWasCreated", some target.text, source.map TargetId.text]
  | targetWasRemoved target => [some "TargetWasRemoved", some target.text]
  | keyPressed key => [some "KeyPressed", some key]
  | workerStatus status => [some "WorkerStatus", some status.name]

/-- Why the scheduler could not do something. -/
inductive SchedulerFault where
  | notFound (thread : ThreadId)
  | unknownOpcode (opcode : String)
  | unknownHat (hat : String)
  | unknownTarget (target : TargetId)
  | primitive (opcode : String) (fault : BlockFault)
  | unregisteredOpcodes (opcodes : List String)
  | link (fault : LinkFault)
  | bridge (fault : BridgeFault)
  | device (fault : DeviceFault)
deriving DecidableEq, Repr

namespace SchedulerFault

/-- The name of a fault's kind, behind that of the part where it arose. -/
def kind : SchedulerFault → String
  | notFound _ => "NotFound"
  | unknownOpcode _ => "UnknownOpcode"
  | unknownHat _ => "UnknownHat"
  | unknownTarget _ => "UnknownTarget"
  | primitive _ fault => "Primitive." ++ fault.kind
  | unregisteredOpcodes _ => "UnregisteredOpcodes"
  | link fault => "Link." ++ fault.kind
  | bridge fault => "Bridge." ++ fault.kind
  | device fault => "Io." ++ fault.kind

/-- A fault in words. -/
def message : SchedulerFault → String
  | notFound thread => "Cannot find thread " ++ thread.label
  | unknownOpcode opcode => "Unknown opcode: " ++ opcode
  | unknownHat hat => "Not a hat: " ++ hat
  | unknownTarget target => "Cannot find target with id " ++ target.label
  | primitive opcode fault => "Primitive " ++ opcode ++ " failed: " ++ fault.message
  | unregisteredOpcodes opcodes =>
    "Scripts reference unregistered opcodes: " ++ String.intercalate ", " opcodes
  | link fault => fault.message
  | bridge fault => fault.message
  | device fault => fault.message

/-- Whether host and worker disagree about what exists. -/
def isDesync : SchedulerFault → Bool
  | notFound _ => true
  | unknownOpcode _ => true
  | _ => false

end SchedulerFault

/-- Counts over the life of a scheduler. -/
structure SchedulerCounts where
  ticks : Nat
  threadsRegistered : Nat
  threadsEvicted : Nat
  blocksExecuted : Nat
  faults : Nat
  scriptErrors : Nat
deriving DecidableEq, Repr

/-- What one tick did. -/
structure StepReport where
  tick : Nat
  redrawRequested : Bool
  evicted : List ThreadId
  resumed : Nat
  messages : Nat
  faults : List SchedulerFault
  scriptErrors : List String
deriving DecidableEq, Repr

/-- Which of a hat's scripts to start: those of an option, or of a target, or all. -/
structure HatFilter where
  option : Option String
  target : Option TargetId
deriving DecidableEq, Repr

/-- All scripts of a hat. -/
def HatFilter.any : HatFilter := ⟨none, none⟩

/-- What happened to a thread: a block was invoked for it with a frame, it was ended,
or it was ended and its name remembered. -/
inductive Deed (α : Type) where
  | invoked (thread : ThreadId) (target : TargetId) (frame : Frame α)
  | ended (thread : ThreadId)
  | retired (thread : ThreadId)

/-- The scheduler over transports `τ` and scalars `α`. -/
structure Scheduler (τ α : Type) where
  config : SchedulerConfig
  registry : Registry
  bridge : Bridge τ α
  threads : OrderedMap ThreadId (Thread α)
  retired : List ThreadId
  ids : IdSource
  stage : Stage α
  devices : Devices α
  scripts : OrderedMap ScriptId Registration
  events : EventMap
  returns : OrderedMap ThreadId (Value α)
  motors : Motors (LoopbackLink α) α
  stats : SchedulerCounts
  started : Bool
  notices : List Notice
  results : List (ThreadId × Value α)
  journal : List (Value α)
  chronicle : List (Deed α)

namespace Scheduler

variable {τ α : Type} [Scalar α]

/-- A scheduler without targets, scripts and threads, whose clock starts at zero. -/
def fresh (config : SchedulerConfig) (registry : Registry) (transport : τ) (ids : IdSource)
    (motors : Motors (LoopbackLink α) α) : Scheduler τ α where
  config := config
  registry := registry
  bridge := .across transport config.requestTimeout
  threads := .empty
  retired := []
  ids := ids
  stage := .empty config.maxClones
  devices := .around (.startingAt Scalar.zero)
  scripts := .empty
  events := .empty
  returns := .empty
  motors := motors
  stats := ⟨0, 0, 0, 0, 0, 0⟩
  started := false
  notices := []
  results := []
  journal := []
  chronicle := []

end Scheduler

end SpriteMachine
