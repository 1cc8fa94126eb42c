import SpriteMachine.Scheduler.Execute

/-!
# Steps

A step is one tick of the machine. It evicts the threads that ended before it,
invokes the blocks that yielded before it, each once, and then deals with a
bounded number of messages of the worker. Nothing that goes wrong in a step stops
it; every fault is reported.

A call for a thread that has ended or an opcode that names no block is answered
with a failure, since the worker would wait for ever. It is a fault unless the
thread is one that the host ended itself, of which the worker could not know.
-/

namespace SpriteMachine

namespace StepReport

/-- The report with one more fault. -/
def withFault (report : StepReport) (fault : SchedulerFault) : StepReport :=
  { report with faults := report.faults ++ [fault] }

end StepReport

namespace Scheduler

variable {τ α : Type} [Scalar α] [Transport τ α]

/-- Forgets reported values whose thread is gone and which no frame waits for. -/
def dropUncollected (scheduler : Scheduler τ α) : Scheduler τ α :=
  { scheduler with
    returns := scheduler.returns.filter fun id _ =>
      scheduler.threads.contains id || scheduler.threads.values.any (·.isAwaiting id) }

/-- Removes the threads that have ended and names them. -/
def sweep (scheduler : Scheduler τ α) : List ThreadId × Scheduler τ α :=
  let evicted := (scheduler.threads.values.filter Thread.isDone).map Thread.id
  (evicted, { scheduler with
    threads := scheduler.threads.filter fun _ thread => thread.isActive
    stats := { scheduler.stats with
      threadsEvicted := scheduler.stats.threadsEvicted + evicted.length } }.dropUncollected)

/-- The names of the threads whose block yielded. -/
def yieldedThreads (scheduler : Scheduler τ α) : List ThreadId :=
  (scheduler.threads.values.filter fun thread => thread.status = .yielding).map Thread.id

/-- Invokes the block that a thread waits with, if the thread still waits. -/
def resume (scheduler : Scheduler τ α) (report : StepReport) (id : ThreadId) :
    StepReport × Scheduler τ α :=
  match scheduler.threads.find? id with
  | none => (report, scheduler)
  | some thread =>
    if thread.status ≠ .yielding then (report, scheduler)
    else
      match (thread.setStatus .running).popBlock with
      | (frame, woken) =>
        let taken := { scheduler with threads := scheduler.threads.modify id fun _ => woken }
        match frame with
        | none => (report, taken)
        | some frame =>
          match taken.registry.block? frame.opcode with
          | none => (report.withFault (.unknownOpcode frame.opcode), taken)
          | some block =>
            let counted := { report with resumed := report.resumed + 1 }
            match taken.invoke id thread.target block frame with
            | (.ok _, scheduler) => (counted, scheduler)
            | (.error fault, scheduler) => (counted.withFault fault, scheduler)

/-- Resumes threads one after another. -/
def resumeAll : Scheduler τ α → StepReport → List ThreadId → StepReport × Scheduler τ α
  | scheduler, report, [] => (report, scheduler)
  | scheduler, report, id :: rest =>
    match scheduler.resume report id with
    | (report, scheduler) => resumeAll scheduler report rest

/-- Whether a fault says that a thread is missing which the host ended itself. -/
def isExcused (scheduler : Scheduler τ α) : SchedulerFault → Bool
  | .notFound thread => thread ∈ scheduler.retired
  | _ => false

/-- Executes the block that a worker calls. -/
def handleCall (scheduler : Scheduler τ α) (report : StepReport) (thread : ThreadId)
    (opcode : String) (args : Args α) (token : Token) : StepReport × Scheduler τ α :=
  match scheduler.call thread opcode args (some token) with
  | (.ok _, scheduler) => (report, scheduler)
  | (.error fault, scheduler) =>
    if fault.isDesync then
      match scheduler.bridge.post (.failure token fault.message) with
      | (sent, bridge) =>
        let answered :=
          match sent with
          | .ok _ => report
          | .error cut => report.withFault (.bridge cut)
        (if scheduler.isExcused fault then answered else answered.withFault fault,
          { scheduler with bridge := bridge })
    else (report.withFault fault, scheduler)

/-- Ends a thread whose script has ended. -/
def handleEnded (scheduler : Scheduler τ α) (report : StepReport) (thread : ThreadId) :
    StepReport × Scheduler τ α :=
  match scheduler.endThread thread with
  | (.ok _, scheduler) => (report, scheduler)
  | (.error fault, scheduler) =>
    (if scheduler.isExcused fault then report else report.withFault fault, scheduler)

omit [Scalar α] [Transport τ α] in
/-- What is left of a scheduler that hears of an end is left by ending the thread. -/
theorem handleEnded_left (scheduler : Scheduler τ α) (report : StepReport) (thread : ThreadId) :
    (scheduler.handleEnded report thread).2 = (scheduler.endThread thread).2 := by
  unfold handleEnded
  split
  case h_1 result => rw [result]
  case h_2 result => rw [result]

/-- Notes an error in a script and ends its thread if so configured. -/
def handleScriptError (scheduler : Scheduler τ α) (report : StepReport)
    (thread : Option ThreadId) (message : String) : StepReport × Scheduler τ α :=
  let counted := { scheduler with
    stats := { scheduler.stats with scriptErrors := scheduler.stats.scriptErrors + 1 } }
  ({ report with scriptErrors := report.scriptErrors ++ [message] },
    match thread with
    | none => counted
    | some id =>
      if counted.config.endFaultedThreads && counted.threads.contains id then counted.retire id
      else counted)

/-- Deals with a message of the worker. Late replies are ignored. -/
def handleMessage (scheduler : Scheduler τ α) (report : StepReport) :
    WorkerMessage α → StepReport × Scheduler τ α
  | .status status => (report, scheduler.emit (.workerStatus status))
  | .call _ thread opcode args token => scheduler.handleCall report thread opcode args token
  | .ended thread => scheduler.handleEnded report thread
  | .scriptError thread message => scheduler.handleScriptError report thread message
  | .registered .. => (report, scheduler)
  | .started .. => (report, scheduler)

/-- Deals with at most a number of messages of the worker. -/
def drain : Nat → Scheduler τ α → StepReport → StepReport × Scheduler τ α
  | 0, scheduler, report => (report, scheduler)
  | budget + 1, scheduler, report =>
    match scheduler.bridge.next with
    | (.nothing, bridge) => (report, { scheduler with bridge := bridge })
    | (.disconnected, bridge) =>
      (report.withFault (.bridge .disconnected), { scheduler with bridge := bridge })
    | (.message message, bridge) =>
      match { scheduler with bridge := bridge }.handleMessage
          { report with messages := report.messages + 1 } message with
      | (report, scheduler) => drain budget scheduler report

/-- Runs one tick. -/
def step (scheduler : Scheduler τ α) : StepReport × Scheduler τ α :=
  match scheduler.stage.takeRedraw with
  | (redraw, stage) =>
    let begun := { scheduler with
      stage := stage
      stats := { scheduler.stats with ticks := scheduler.stats.ticks + 1 } }
    match begun.sweep with
    | (evicted, swept) =>
      match swept.resumeAll ⟨swept.stats.ticks, redraw, evicted, 0, 0, [], []⟩
          swept.yieldedThreads with
      | (report, resumed) =>
        match drain resumed.config.maxMessagesPerTick resumed report with
        | (report, drained) =>
          (report, { drained with
            stage := drained.stage.draw
            stats := { drained.stats with
              faults := drained.stats.faults + report.faults.length } })

/-- Runs a number of ticks one after another. -/
def stepTimes : Nat → Scheduler τ α → List StepReport × Scheduler τ α
  | 0, scheduler => ([], scheduler)
  | count + 1, scheduler =>
    match scheduler.step with
    | (report, scheduler) =>
      match stepTimes count scheduler with
      | (reports, scheduler) => (report :: reports, scheduler)

end Scheduler

end SpriteMachine
