import SpriteMachine.Scheduler.Hats

/-!
# Invoking a block

A block sees the scheduler through its invocation: the thread and target it runs
on, its own frame, which is off the stack meanwhile, and a mark by which it asks
to be invoked again on a later tick. It leaves a value or a fault, and the
invocation as it made it.
-/

namespace SpriteMachine

/-- A block at work. -/
structure Invocation (τ α : Type) where
  scheduler : Scheduler τ α
  thread : ThreadId
  target : TargetId
  frame : Frame α
  yielded : Bool

/-- What a block leaves. -/
abbrev BlockResult (τ α : Type) := Except BlockFault (Value α) × Invocation τ α

namespace Invocation

variable {τ α : Type}

/-- The invocation with another stage. -/
def withStage (invocation : Invocation τ α) (change : Stage α → Stage α) : Invocation τ α :=
  { invocation with
    scheduler := { invocation.scheduler with stage := change invocation.scheduler.stage } }

/-- The invocation with other notes in its frame. -/
def withNotes (invocation : Invocation τ α) (change : FrameNotes α → FrameNotes α) :
    Invocation τ α :=
  { invocation with
    frame := { invocation.frame with notes := change invocation.frame.notes } }

/-- Asks to be invoked again. -/
def yieldThread (invocation : Invocation τ α) : Invocation τ α :=
  { invocation with yielded := true }

/-- The target a block runs on, if it is still there. -/
def target? (invocation : Invocation τ α) : Option (Target α) :=
  invocation.scheduler.stage.target? invocation.target

/-- Completes with a value. -/
def give (invocation : Invocation τ α) (value : Value α) : BlockResult τ α :=
  (.ok value, invocation)

/-- Completes without a value. -/
def finish (invocation : Invocation τ α) : BlockResult τ α := invocation.give .null

/-- Fails. -/
def fault (invocation : Invocation τ α) (fault : BlockFault) : BlockResult τ α :=
  (.error fault, invocation)

/-- Goes on with the target a block runs on, or fails when it is gone. -/
def onTarget (invocation : Invocation τ α) (continue_ : Target α → BlockResult τ α) :
    BlockResult τ α :=
  match invocation.target? with
  | some target => continue_ target
  | none => invocation.fault (.targetUnavailable invocation.target)

variable [Scalar α]

/-- The project timer in milliseconds. -/
def now (invocation : Invocation τ α) : α :=
  invocation.scheduler.devices.clock.timerMilliseconds

/-- A duration in seconds as milliseconds; a negative one is none. -/
def millisecondsOf (seconds : α) : α :=
  Scalar.maximum seconds Scalar.zero * Scalar.ofInt 1000

/-- Notes the moment a number of seconds from now. -/
def setDeadline (invocation : Invocation τ α) (seconds : α) : Invocation τ α :=
  invocation.withNotes fun notes =>
    { notes with deadline := some (invocation.now + millisecondsOf seconds) }

/-- Waits for the noted moment, noting one if there is none. The result tells
whether it has come. -/
def waitFor (invocation : Invocation τ α) (seconds : α) : Bool × Invocation τ α :=
  let deadline :=
    invocation.frame.notes.deadline.getD (invocation.now + millisecondsOf seconds)
  let noted := invocation.withNotes fun notes => { notes with deadline := some deadline }
  if Scalar.less invocation.now deadline then (false, noted.yieldThread) else (true, noted)

variable [Transport τ α]

/-- Starts the scripts of a hat. A refusal fails the block with the same words. -/
def startHats (invocation : Invocation τ α) (hat : String) (filter : HatFilter) :
    Except BlockFault (List ThreadId) × Invocation τ α :=
  match invocation.scheduler.startHats hat filter with
  | (.ok started, scheduler) => (.ok started, { invocation with scheduler := scheduler })
  | (.error fault, scheduler) =>
    (.error (.failed fault.message), { invocation with scheduler := scheduler })

/-- Whether one of the threads this invocation started still runs. -/
def isWaiting (invocation : Invocation τ α) : Bool :=
  invocation.frame.notes.spawned.any invocation.scheduler.isLive

/-- Starts the scripts of a hat on the first invocation and waits until all the
threads it started have ended; then it names them. -/
def awaitHats (invocation : Invocation τ α) (hat : String) (filter : HatFilter) :
    Except BlockFault (Option (List ThreadId)) × Invocation τ α :=
  let settle (invocation : Invocation τ α) :=
    if invocation.isWaiting then (.ok none, invocation.yieldThread)
    else (.ok (some invocation.frame.notes.spawned), invocation)
  if invocation.frame.isFirstRun then
    match invocation.startHats hat filter with
    | (.error fault, invocation) => (.error fault, invocation)
    | (.ok started, invocation) =>
      settle (invocation.withNotes fun notes => { notes with spawned := notes.spawned ++ started })
  else settle invocation

/-- Ends the thread a block runs on. -/
def stopThisThread (invocation : Invocation τ α) : Invocation τ α :=
  { invocation with scheduler := (invocation.scheduler.stopThread invocation.thread).2 }

/-- Ends the other threads of the target a block runs on. -/
def stopOtherThreads (invocation : Invocation τ α) : Invocation τ α :=
  { invocation with
    scheduler :=
      (invocation.scheduler.stopForTarget invocation.target (some invocation.thread)).2 }

/-- Stops everything. -/
def stopAll (invocation : Invocation τ α) : Invocation τ α :=
  { invocation with scheduler := invocation.scheduler.stopAll }

/-- Removes the target a block runs on if it is a clone; tells whether it did. -/
def disposeThisClone (invocation : Invocation τ α) : Bool × Invocation τ α :=
  match invocation.scheduler.disposeClone invocation.target with
  | (.ok disposed, scheduler) => (disposed, { invocation with scheduler := scheduler })
  | (.error _, scheduler) => (false, { invocation with scheduler := scheduler })

/-- Reports the value of a procedure. -/
def report (invocation : Invocation τ α) (value : Value α) : Invocation τ α :=
  { invocation with scheduler := invocation.scheduler.setReturn invocation.thread value }

end Invocation

end SpriteMachine
