import SpriteMachine.Script.Linker
import SpriteMachine.Value.Args

/-!
# Messages between host and worker

The host loads scripts into a worker, starts them and answers the blocks they
call; the worker reports what it does and asks for one block at a time per
thread. A request of the host and a block call of the worker carry a token, and
the answer names the same token.
-/

namespace SpriteMachine

/-- What a worker tells about itself. -/
inductive WorkerStatus where
  | environmentLoading
  | environmentLoaded
  | scriptLoading
  | scriptRunning
  | scriptFinished
deriving DecidableEq, Repr

/-- The name of a status. -/
def WorkerStatus.name : WorkerStatus → String
  | environmentLoading => "EnvironmentLoading"
  | environmentLoaded => "EnvironmentLoaded"
  | scriptLoading => "ScriptLoading"
  | scriptRunning => "ScriptRunning"
  | scriptFinished => "ScriptFinished"

/-- A thread that shall run a script on a target. -/
structure ThreadStart where
  thread : ThreadId
  script : ScriptId
  target : TargetId
deriving DecidableEq, Repr

/-- What the host sends to a worker. -/
inductive HostMessage (α : Type) where
  | connected
  | prepare (url : String)
  | register (token : Token) (unit : LinkedUnit)
  | runAsync (source : String) (starts : List ThreadStart)
  | result (token : Token) (value : Value α)
  | failure (token : Token) (message : String)
  | startHats (token : Token) (hat : String) (option : Option String) (starts : List ThreadStart)
  | stopThreads (threads : List ThreadId)
  | stopAll

/-- What a worker sends to the host. `call` asks for a block on behalf of a
thread, `registered` and `started` answer requests. -/
inductive WorkerMessage (α : Type) where
  | status (report : WorkerStatus)
  | scriptError (thread : Option ThreadId) (message : String)
  | call (target : TargetId) (thread : ThreadId) (opcode : String) (args : Args α) (token : Token)
  | ended (thread : ThreadId)
  | registered (token : Token) (refusal : Option String)
  | started (token : Token) (threads : List ThreadId)

/-- The name of a message's kind. -/
def HostMessage.kind {α : Type} : HostMessage α → String
  | connected => "VmConnected"
  | prepare _ => "InitBackend"
  | register .. => "RegisterThreads"
  | runAsync .. => "AsyncRun"
  | result .. => "ResultValue"
  | failure .. => "ResultError"
  | startHats .. => "StartHats"
  | stopThreads _ => "StopThreads"
  | stopAll => "StopAll"

/-- The token of the request that a message answers. -/
def WorkerMessage.replyToken? {α : Type} : WorkerMessage α → Option Token
  | .registered token _ => some token
  | .started token _ => some token
  | _ => none

/-- The status that a message reports. -/
def WorkerMessage.status? {α : Type} : WorkerMessage α → Option WorkerStatus
  | .status report => some report
  | _ => none

end SpriteMachine
