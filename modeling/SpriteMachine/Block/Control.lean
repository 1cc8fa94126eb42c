import SpriteMachine.Block.Invocation

/-!
# Waiting, stopping and clones

A wait always gives up the rest of its tick, even when it lasts no time. Stopping
takes effect at once, also on the thread that asks for it.
-/

namespace SpriteMachine

variable {τ α : Type} [Scalar α] [Transport τ α]

/-- The option that names the target a block runs on. -/
def myself : String := "_myself_"

namespace ControlBlock

/-- Waits for a number of seconds. -/
def runWait (args : Args α) (invocation : Invocation τ α) : BlockResult τ α :=
  let seconds := args.number "DURATION"
  if invocation.frame.isFirstRun then
    (invocation.setDeadline seconds).yieldThread.finish
  else (invocation.waitFor seconds).2.finish

/-- Stops everything, the running thread, or the other threads of the target. -/
def runStop (args : Args α) (invocation : Invocation τ α) : BlockResult τ α :=
  match args.text "STOP_OPTION" with
  | "all" => invocation.stopAll.finish
  | "this script" => invocation.stopThisThread.finish
  | "other scripts in sprite" => invocation.stopOtherThreads.finish
  | "other scripts in stage" => invocation.stopOtherThreads.finish
  | other => invocation.fault (.invalidArgument "STOP_OPTION" ("unknown option '" ++ other ++ "'"))

/-- The target that a clone option names. -/
def cloneSource? (args : Args α) (invocation : Invocation τ α) : Option TargetId :=
  let option := args.text "CLONE_OPTION"
  if option = myself then some invocation.target
  else (invocation.scheduler.stage.spriteNamed? option).map Target.id

/-- Makes a clone and gives its name; nothing when there is nothing to clone. -/
def runCreateClone (args : Args α) (invocation : Invocation τ α) : BlockResult τ α :=
  match cloneSource? args invocation with
  | none => invocation.finish
  | some source =>
    match invocation.scheduler.makeClone source with
    | (.ok (some id), scheduler) =>
      { invocation with scheduler := scheduler }.give (.text id.text)
    | (.ok none, scheduler) => { invocation with scheduler := scheduler }.finish
    | (.error fault, scheduler) =>
      { invocation with scheduler := scheduler }.fault (.failed fault.message)

/-- Runs a control block. -/
def run (block : ControlBlock) (args : Args α) (invocation : Invocation τ α) :
    BlockResult τ α :=
  match block with
  | .wait => runWait args invocation
  | .stop => runStop args invocation
  | .createClone => runCreateClone args invocation
  | .deleteClone => invocation.disposeThisClone.2.finish

end ControlBlock

end SpriteMachine
