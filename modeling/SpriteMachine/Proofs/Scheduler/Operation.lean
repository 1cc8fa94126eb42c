import SpriteMachine.Number.Exact
import SpriteMachine.Scheduler.Lifecycle
import SpriteMachine.Scheduler.Loading
import SpriteMachine.Worker.Inline

/-!
# Runs of a scheduler

What a host may do with a scheduler, one operation after another. Between two operations
anything may happen to stage, devices and bridge: the host holds them, the wall clock
goes on, and a worker that runs by itself sends what it likes.
-/

namespace SpriteMachine

/-- What a host does with a scheduler. -/
inductive Operation (τ α : Type) where
  | addTarget (target : Target α)
  | attachRenderer
  | openBackend (url : String)
  | loadScripts (batch : Batch)
  | runBatch (batch : Batch)
  | startHats (hat : String) (filter : HatFilter)
  | greenFlag
  | stopAll
  | stopForTarget (target : TargetId) (keep : Option ThreadId)
  | stopThread (thread : ThreadId)
  | makeClone (source : TargetId)
  | disposeClone (target : TargetId)
  | postData (device : String) (data : Json)
  | registerThread (target : TargetId) (hasListener : Bool)
  | endThread (thread : ThreadId)
  | execute (thread : ThreadId) (opcode : String) (args : Args α) (token : Option Token)
  | step
  | emit (notice : Notice)
  | start
  | quit
  | dispose
  | changeStage (change : Stage α → Stage α)
  | changeDevices (change : Devices α → Devices α)
  | changeBridge (change : Bridge τ α → Bridge τ α)

namespace Scheduler

variable {τ α : Type} [Scalar α] [Transport τ α]

/-- The scheduler behind an operation. -/
def perform (scheduler : Scheduler τ α) : Operation τ α → Scheduler τ α
  | .addTarget target => scheduler.addTarget target
  | .attachRenderer => scheduler.attachRenderer
  | .openBackend url => (scheduler.openBackend url).2
  | .loadScripts batch => (scheduler.loadScripts batch).2
  | .runBatch batch => (scheduler.runBatch batch).2
  | .startHats hat filter => (scheduler.startHats hat filter).2
  | .greenFlag => scheduler.greenFlag.2
  | .stopAll => scheduler.stopAll
  | .stopForTarget target keep => (scheduler.stopForTarget target keep).2
  | .stopThread thread => (scheduler.stopThread thread).2
  | .makeClone source => (scheduler.makeClone source).2
  | .disposeClone target => (scheduler.disposeClone target).2
  | .postData device data => (scheduler.postData device data).2
  | .registerThread target hasListener => (scheduler.addThread target hasListener).2
  | .endThread thread => (scheduler.endThread thread).2
  | .execute thread opcode args token => (scheduler.call thread opcode args token).2
  | .step => scheduler.step.2
  | .emit notice => scheduler.emit notice
  | .start => scheduler.start
  | .quit => scheduler.quit
  | .dispose => scheduler.dispose
  | .changeStage change => { scheduler with stage := change scheduler.stage }
  | .changeDevices change => { scheduler with devices := change scheduler.devices }
  | .changeBridge change => { scheduler with bridge := change scheduler.bridge }

/-- The scheduler behind operations one after another. -/
def run (scheduler : Scheduler τ α) (operations : List (Operation τ α)) : Scheduler τ α :=
  operations.foldl perform scheduler

/-- Two runs one after another are one. -/
theorem run_append (scheduler : Scheduler τ α) (first second : List (Operation τ α)) :
    scheduler.run (first ++ second) = (scheduler.run first).run second :=
  List.foldl_append

/-- What holds at first and is preserved by allowed operations holds behind all of them. -/
theorem run_induction {allowed : Operation τ α → Prop} {invariant : Scheduler τ α → Prop}
    (preserved : ∀ scheduler operation, allowed operation → invariant scheduler →
      invariant (scheduler.perform operation))
    {scheduler : Scheduler τ α} (initial : invariant scheduler)
    {operations : List (Operation τ α)} (every : ∀ operation ∈ operations, allowed operation) :
    invariant (scheduler.run operations) := by
  induction operations generalizing scheduler with
  | nil => exact initial
  | cons first rest inductionHypothesis =>
    refine inductionHypothesis (preserved scheduler first ?_ initial) ?_
    · exact every first List.mem_cons_self
    · exact fun operation member => every operation (List.mem_cons_of_mem _ member)

/-- A batch with one script. -/
def singleScript : Batch :=
  .ofList [(⟨"cat"⟩, .ofList [("run", .plain ["looks_show\nlooks_hide"])])]

/-- A scheduler with a worker beside it. -/
def standardScheduler : Scheduler (Inline Rat) Rat :=
  fresh .standard .standard (.idle none) .numbered (.atRest .reliable Motors.defaultBackoff)

end Scheduler

end SpriteMachine
