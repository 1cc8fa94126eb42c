import SpriteMachine.Thread.Frame

/-!
# Threads

A thread is one run of a script's body on a target. Its stack holds the body's
frame and above it the frames of blocks that yielded, newest first here. A thread
that is done stays done.
-/

namespace SpriteMachine

/-- Whether a thread runs, waits for a yielded block, or has ended. -/
inductive ThreadStatus where
  | running
  | yielding
  | done
deriving DecidableEq, Repr

/-- The name of a status. -/
def ThreadStatus.name : ThreadStatus → String
  | running => "running"
  | yielding => "yield"
  | done => "done"

/-- The hat and script that a thread was started for. -/
structure HatOrigin where
  script : ScriptId
  hat : String
  option : Option String
deriving DecidableEq, Repr

/-- A thread. `frames` lists its stack from the top down, and `hasListener` tells
whether somebody is given the results of its blocks. -/
structure Thread (α : Type) where
  id : ThreadId
  target : TargetId
  status : ThreadStatus
  frames : List (Frame α)
  binding : Option HatOrigin
  hasListener : Bool

namespace Thread

variable {α : Type}

/-- The name of the body frame of a thread without a hat. -/
def bodyOpcode : String := "script_body"

/-- A running thread without a hat. -/
def plain (id : ThreadId) (target : TargetId) (hasListener : Bool) : Thread α :=
  ⟨id, target, .running, [.body bodyOpcode], none, hasListener⟩

/-- A running thread of a hat. -/
def forHat (id : ThreadId) (target : TargetId) (binding : HatOrigin) : Thread α :=
  ⟨id, target, .running, [.body binding.hat], some binding, false⟩

/-- Whether a thread has ended. -/
def isDone (thread : Thread α) : Bool := thread.status = .done

/-- Whether a thread has not ended. -/
def isActive (thread : Thread α) : Bool := !thread.isDone

/-- The height of the stack. -/
def depth (thread : Thread α) : Nat := thread.frames.length

/-- Changes the status unless the thread has ended. -/
def setStatus (thread : Thread α) (status : ThreadStatus) : Thread α :=
  if thread.isDone then thread else { thread with status := status }

/-- Ends a thread. -/
def finish (thread : Thread α) : Thread α := { thread with status := .done }

/-- Puts a frame on the stack. -/
def push (thread : Thread α) (frame : Frame α) : Thread α :=
  { thread with frames := frame :: thread.frames }

/-- Takes the top frame. A thread without frames has ended. -/
def pop (thread : Thread α) : Option (Frame α) × Thread α :=
  match thread.frames with
  | [] => (none, thread.finish)
  | [frame] => (some frame, { thread with frames := [], status := .done })
  | frame :: rest => (some frame, { thread with frames := rest })

/-- Takes the top frame unless it is the only one. -/
def popBlock (thread : Thread α) : Option (Frame α) × Thread α :=
  match thread.frames with
  | frame :: below :: rest => (some frame, { thread with frames := below :: rest })
  | _ => (none, thread)

/-- The top frame. -/
def top? (thread : Thread α) : Option (Frame α) := thread.frames.head?

/-- Whether a frame of the thread noted that it started another one. -/
def isAwaiting (thread : Thread α) (other : ThreadId) : Bool :=
  thread.frames.any fun frame => other ∈ frame.notes.spawned

/-- What the thread's listener is given for a result. -/
def report (thread : Thread α) (value : Value α) : List (ThreadId × Value α) :=
  if thread.hasListener then [(thread.id, value)] else []

end Thread

end SpriteMachine
