import SpriteMachine.Scheduler.State

/-!
# Threads, notices and targets of a scheduler

Every operation returns the scheduler behind it, also when it fails. A thread that
ends stays in the live set until the next sweep; retiring it also remembers its
name, so that messages that the worker sent before it learned of the end do no
harm.
-/

namespace SpriteMachine

namespace Scheduler

variable {τ α : Type}

/-- Whether a thread is live and has not ended. -/
def isLive (scheduler : Scheduler τ α) (id : ThreadId) : Bool :=
  (scheduler.threads.find? id).any Thread.isActive

/-- The live thread of a name. -/
def thread? (scheduler : Scheduler τ α) (id : ThreadId) : Except SchedulerFault (Thread α) :=
  match scheduler.threads.find? id with
  | some thread => .ok thread
  | none => .error (.notFound id)

/-- Ends a thread, which stays in the live set until the next sweep. -/
def endThread (scheduler : Scheduler τ α) (id : ThreadId) :
    Except SchedulerFault Unit × Scheduler τ α :=
  if scheduler.threads.contains id then
    (.ok (), { scheduler with
      threads := scheduler.threads.modify id Thread.finish
      chronicle := .ended id :: scheduler.chronicle })
  else (.error (.notFound id), scheduler)

/-- Names remembered with one more, the oldest of which are forgotten beyond a
number. -/
def remember (capacity : Nat) (retired : List ThreadId) (id : ThreadId) : List ThreadId :=
  let all := if id ∈ retired then retired else retired ++ [id]
  all.drop (all.length - capacity)

/-- Ends a thread if it is live and remembers its name. -/
def retire (scheduler : Scheduler τ α) (id : ThreadId) : Scheduler τ α :=
  { scheduler with
    threads := scheduler.threads.modify id Thread.finish
    retired := remember scheduler.config.retiredCapacity scheduler.retired id
    chronicle := .retired id :: scheduler.chronicle }

/-- Retires threads one after another. -/
def retireAll (scheduler : Scheduler τ α) (ids : List ThreadId) : Scheduler τ α :=
  ids.foldl retire scheduler

/-- A name that no live and no remembered thread has. -/
def nextThreadId (scheduler : Scheduler τ α) : ThreadId × Scheduler τ α :=
  match scheduler.ids.draw
      (scheduler.threads.keys.map ThreadId.text ++ scheduler.retired.map ThreadId.text) with
  | (name, ids) => (⟨name⟩, { scheduler with ids := ids })

/-- Adds a thread to the live set and counts it. -/
def adopt (scheduler : Scheduler τ α) (thread : Thread α) : Scheduler τ α :=
  { scheduler with
    threads := scheduler.threads.insert thread.id thread
    stats := { scheduler.stats with
      threadsRegistered := scheduler.stats.threadsRegistered + 1 } }

/-- Registers a thread without a hat. -/
def addThread (scheduler : Scheduler τ α) (target : TargetId) (hasListener : Bool) :
    ThreadId × Scheduler τ α :=
  match scheduler.nextThreadId with
  | (id, scheduler) => (id, scheduler.adopt (.plain id target hasListener))

/-- Keeps the value that a thread reports; the last one counts. -/
def setReturn (scheduler : Scheduler τ α) (thread : ThreadId) (value : Value α) :
    Scheduler τ α :=
  { scheduler with returns := scheduler.returns.insert thread value }

/-- Takes the value that a thread reported. -/
def collectReturn (scheduler : Scheduler τ α) (thread : ThreadId) :
    Option (Value α) × Scheduler τ α :=
  (scheduler.returns.find? thread, { scheduler with returns := scheduler.returns.erase thread })

variable [Scalar α] [Transport τ α]

/-- The wall clock in milliseconds. -/
def moment (scheduler : Scheduler τ α) : Nat := Transport.moment scheduler.bridge.transport

/-- Motors after a notice. -/
def motorsAfter (now : Nat) (motors : Motors (LoopbackLink α) α) :
    Notice → Motors (LoopbackLink α) α
  | .projectStopAll => motors.stopAll now
  | .runtimeDisposed => motors.release
  | _ => motors

/-- Gives a notice, to the motors first if the peripheral package is there. -/
def emit (scheduler : Scheduler τ α) (notice : Notice) : Scheduler τ α :=
  { scheduler with
    motors :=
      if .peripheral ∈ scheduler.registry.packages then
        motorsAfter scheduler.moment scheduler.motors notice
      else scheduler.motors
    notices := notice :: scheduler.notices }

/-- Adds a target; it is announced unless it is a clone. -/
def addTarget (scheduler : Scheduler τ α) (target : Target α) : Scheduler τ α :=
  let added := { scheduler with stage := scheduler.stage.add target }
  if target.isClone then added else added.emit .targetsUpdate

/-- Attaches a renderer to the stage. -/
def attachRenderer (scheduler : Scheduler τ α) : Scheduler τ α :=
  { scheduler with stage := scheduler.stage.attach .fresh }

end Scheduler

end SpriteMachine
