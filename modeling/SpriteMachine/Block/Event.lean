import SpriteMachine.Block.Invocation

/-!
# Broadcasts

A broadcast starts the scripts that receive it, on every target. The waiting form
goes on once all the threads it started have ended.
-/

namespace SpriteMachine

variable {τ α : Type} [Scalar α] [Transport τ α]

/-- Runs a broadcast block. -/
def EventBlock.run (block : EventBlock) (args : Args α) (invocation : Invocation τ α) :
    BlockResult τ α :=
  let filter : HatFilter := ⟨some (args.text "BROADCAST_OPTION"), none⟩
  match block with
  | .broadcast =>
    match invocation.startHats broadcastHat filter with
    | (.ok _, invocation) => invocation.finish
    | (.error fault, invocation) => invocation.fault fault
  | .broadcastAndWait =>
    match invocation.awaitHats broadcastHat filter with
    | (.ok _, invocation) => invocation.finish
    | (.error fault, invocation) => invocation.fault fault

end SpriteMachine
