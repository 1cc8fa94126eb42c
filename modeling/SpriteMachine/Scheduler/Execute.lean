import SpriteMachine.Block.Run

/-!
# Executing blocks

Executing a block puts its frame aside, runs it, and deals with what it left. A
block that asked to be invoked again gets its frame onto the stack of its thread,
unless the thread has ended meanwhile. A block that completed gives its value to
the thread's listener and, when a worker called it, to the worker. A failed block
is a fault, and the worker is told that the call failed.
-/

namespace SpriteMachine

/-- How an executed block ended. -/
inductive CallOutcome (α : Type) where
  | completed (value : Value α)
  | yielded

namespace Scheduler

variable {τ α : Type} [Scalar α] [Transport τ α]

/-- Answers the call that a frame stands for, if it stands for one. -/
def answer (scheduler : Scheduler τ α) (token : Option Token)
    (reply : Token → HostMessage α) : Except SchedulerFault Unit × Scheduler τ α :=
  match token with
  | none => (.ok (), scheduler)
  | some token =>
    match scheduler.bridge.post (reply token) with
    | (.ok _, bridge) => (.ok (), { scheduler with bridge := bridge })
    | (.error fault, bridge) => (.error (.bridge fault), { scheduler with bridge := bridge })

/-- Lets a thread wait with a frame on its stack. -/
def suspend (scheduler : Scheduler τ α) (thread : ThreadId) (frame : Frame α) :
    Scheduler τ α :=
  { scheduler with
    threads := scheduler.threads.modify thread fun thread =>
      if thread.isActive then
        (thread.push { frame with state := .waiting }).setStatus .yielding
      else thread }

/-- Gives a result to the listener of a live thread. -/
def deliver (scheduler : Scheduler τ α) (thread : ThreadId) (value : Value α) :
    Scheduler τ α :=
  { scheduler with
    results := ((scheduler.threads.find? thread).elim [] (·.report value)) ++ scheduler.results }

/-- Counts and records that a block is invoked. -/
def noteInvocation (scheduler : Scheduler τ α) (thread : ThreadId) (target : TargetId)
    (frame : Frame α) : Scheduler τ α :=
  { scheduler with
    stats := { scheduler.stats with blocksExecuted := scheduler.stats.blocksExecuted + 1 }
    chronicle := .invoked thread target frame :: scheduler.chronicle }

/-- Runs a block with a frame that is on no stack and deals with what it left. -/
def invoke (scheduler : Scheduler τ α) (thread : ThreadId) (target : TargetId)
    (block : Block) (frame : Frame α) : Except SchedulerFault (CallOutcome α) × Scheduler τ α :=
  let noted := scheduler.noteInvocation thread target frame
  match block.run frame.args ⟨noted, thread, target, frame, false⟩ with
  | (.error fault, left) =>
    match left.scheduler.answer frame.token (.failure · fault.message) with
    | (.error cut, scheduler) => (.error cut, scheduler)
    | (.ok _, scheduler) => (.error (.primitive frame.opcode fault), scheduler)
  | (.ok value, left) =>
    if left.yielded then (.ok .yielded, left.scheduler.suspend thread left.frame)
    else
      match (left.scheduler.deliver thread value).answer frame.token (.result · value) with
      | (.error cut, scheduler) => (.error cut, scheduler)
      | (.ok _, scheduler) => (.ok (.completed value), scheduler)

/-- Executes a block on an active thread. -/
def call (scheduler : Scheduler τ α) (thread : ThreadId) (opcode : String)
    (args : Args α) (token : Option Token) :
    Except SchedulerFault (CallOutcome α) × Scheduler τ α :=
  match scheduler.threads.find? thread with
  | none => (.error (.notFound thread), scheduler)
  | some found =>
    if found.isDone then (.error (.notFound thread), scheduler)
    else
      match scheduler.registry.block? opcode with
      | none => (.error (.unknownOpcode opcode), scheduler)
      | some block =>
        scheduler.invoke thread found.target block (.fresh opcode args token)

end Scheduler

end SpriteMachine
