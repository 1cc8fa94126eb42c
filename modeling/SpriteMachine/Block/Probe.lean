import SpriteMachine.Block.Invocation

/-!
# Probes

Probe blocks make a scheduler's behaviour observable: they log, answer, yield and
fail on request, and use what blocks may do to the scheduler, also on a later
invocation.
-/

namespace SpriteMachine

variable {τ α : Type} [Scalar α] [Transport τ α]

namespace ProbeBlock

/-- A value as it was given, or nothing. -/
def given (args : Args α) (name : String) : Value α := (args.find? name).getD .null

/-- Yields for as many invocations as asked, counting them. -/
def runYieldTimes (args : Args α) (invocation : Invocation τ α) : BlockResult τ α :=
  let counted := invocation.withNotes fun notes => { notes with counter := notes.counter + 1 }
  let counter := counted.frame.notes.counter
  let answer : Value α := .int counter
  if Scalar.atMost (Scalar.ofInt counter) (args.number "N") then counted.yieldThread.give answer
  else counted.give answer

/-- Fails, on the second invocation if asked to wait. -/
def runFail (args : Args α) (invocation : Invocation τ α) : BlockResult τ α :=
  if args.boolean "LATER" && invocation.frame.isFirstRun then invocation.yieldThread.finish
  else if args.text "KIND" = "missing" then invocation.fault (.missingArgument "ARG")
  else invocation.fault (.failed "boom")

/-- Acts on the scheduler on the second invocation and tells whether it yielded. -/
def runLater (args : Args α) (invocation : Invocation τ α) : BlockResult τ α :=
  if invocation.frame.isFirstRun then invocation.yieldThread.give (.bool true)
  else
    match args.text "DO" with
    | "all" => invocation.stopAll.give (.bool false)
    | "others" => invocation.stopOtherThreads.give (.bool false)
    | "this" => invocation.stopThisThread.give (.bool false)
    | "dispose" =>
      match invocation.disposeThisClone with
      | (disposed, invocation) => invocation.give (.bool disposed)
    | "redraw" => (invocation.withStage Stage.requestRedraw).give (.bool false)
    | "emit" =>
      { invocation with scheduler := invocation.scheduler.emit .projectChanged }.give (.bool false)
    | "report" => ((invocation.report (.int 1)).report (.int 2)).give (.bool false)
    | _ => invocation.yieldThread.give (.bool true)

/-- Starts the scripts of any hat and names the threads. -/
def runStart (args : Args α) (invocation : Invocation τ α) : BlockResult τ α :=
  let option := (args.find? "OPTION").map fun _ => args.text "OPTION"
  let target := (args.find? "TARGET").map fun _ => TargetId.mk (args.text "TARGET")
  match invocation.startHats (args.text "HAT") ⟨option, target⟩ with
  | (.ok started, invocation) =>
    invocation.give (.list (started.map fun id => .text id.text))
  | (.error fault, invocation) => invocation.fault fault

/-- Runs a probe block. -/
def run (block : ProbeBlock) (args : Args α) (invocation : Invocation τ α) : BlockResult τ α :=
  match block with
  | .log =>
    { invocation with
      scheduler := { invocation.scheduler with
        journal := given args "MSG" :: invocation.scheduler.journal } }.finish
  | .value => invocation.give (given args "VALUE")
  | .yieldTimes => runYieldTimes args invocation
  | .forever => invocation.yieldThread.finish
  | .fail => runFail args invocation
  | .later => runLater args invocation
  | .start => runStart args invocation
  | .self =>
    invocation.give (.list [.text invocation.thread.text, .text invocation.target.text,
      .bool invocation.target?.isSome, .ofScalar invocation.now])

end ProbeBlock

end SpriteMachine
