import SpriteMachine.Block.Invocation

/-!
# Procedures

A procedure's body is a script under a definition hat whose option is the
procedure's code. A call starts the body on the caller's own target and waits for
it; a call for a value then collects what the body reported, or the empty text.
-/

namespace SpriteMachine

variable {τ α : Type} [Scalar α] [Transport τ α]

namespace ProcedureBlock

/-- Takes the reported values of threads; the first one counts. -/
def collect (invocation : Invocation τ α) :
    Option (Value α) → List ThreadId → Option (Value α) × Invocation τ α
  | found, [] => (found, invocation)
  | found, callee :: rest =>
    match invocation.scheduler.collectReturn callee with
    | (value, scheduler) =>
      collect { invocation with scheduler := scheduler } (found.or value) rest

/-- Starts the bodies of a procedure under a hat and waits for them. -/
def callUnder (hat : String) (args : Args α) (invocation : Invocation τ α) :
    Except BlockFault (Option (List ThreadId)) × Invocation τ α :=
  invocation.awaitHats hat ⟨some (args.text "PROCCODE"), some invocation.target⟩

/-- Runs a procedure block. -/
def run (block : ProcedureBlock) (args : Args α) (invocation : Invocation τ α) :
    BlockResult τ α :=
  match block with
  | .call =>
    match callUnder procedureHat args invocation with
    | (.ok _, invocation) => invocation.finish
    | (.error fault, invocation) => invocation.fault fault
  | .callForValue =>
    match callUnder reportingProcedureHat args invocation with
    | (.error fault, invocation) => invocation.fault fault
    | (.ok none, invocation) => invocation.finish
    | (.ok (some callees), invocation) =>
      match collect invocation none callees with
      | (value, invocation) => invocation.give (value.getD (.text ""))
  | .report =>
    (invocation.report ((args.find? "VALUE").getD .null)).stopThisThread.finish

end ProcedureBlock

end SpriteMachine
