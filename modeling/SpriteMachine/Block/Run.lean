import SpriteMachine.Block.Control
import SpriteMachine.Block.Event
import SpriteMachine.Block.Looks
import SpriteMachine.Block.Motion
import SpriteMachine.Block.Probe
import SpriteMachine.Block.Procedure
import SpriteMachine.Block.Sensing

/-!
# Running any block
-/

namespace SpriteMachine

variable {τ α : Type} [Scalar α] [Transport τ α]

/-- Runs a motor block on the motors of the scheduler. -/
def MotorBlock.run (block : MotorBlock) (args : Args α) (invocation : Invocation τ α) :
    BlockResult τ α :=
  let scheduler := invocation.scheduler
  match scheduler.motors.run scheduler.moment block args with
  | (result, motors) =>
    (result, { invocation with scheduler := { scheduler with motors := motors } })

/-- Runs a block. -/
def Block.run (block : Block) (args : Args α) (invocation : Invocation τ α) :
    BlockResult τ α :=
  match block with
  | .event block => block.run args invocation
  | .control block => block.run args invocation
  | .motion block => block.run args invocation
  | .looks block => block.run args invocation
  | .sensing block => block.run args invocation
  | .procedure block => block.run args invocation
  | .motor block => block.run args invocation
  | .probe block => block.run args invocation
  | .overriddenSay => invocation.give (.text "overridden")

end SpriteMachine
