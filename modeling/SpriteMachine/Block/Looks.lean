import SpriteMachine.Block.Invocation
import SpriteMachine.Number.Width

/-!
# Looks

Looks blocks change bubbles, visibility, size, costume, effects and paint order of
the target they run on. A timed bubble goes away at its end unless another one
took its place meanwhile. Costume numbers have 64 bits and shifts in paint order 32;
a block whose arithmetic overflows marks the stage.
-/

namespace SpriteMachine

variable {τ α : Type} [Scalar α]

namespace LooksBlock

/-- Gives the target of a block a bubble. -/
def showBubble (invocation : Invocation τ α) (kind : BubbleKind) (text : String) :
    Invocation τ α :=
  invocation.withStage fun stage => (stage.setBubble invocation.target (some ⟨kind, text⟩)).2

/-- Removes the bubble of the target of a block if it is a certain one. -/
def clearBubble (invocation : Invocation τ α) (kind : BubbleKind) (text : String) :
    Invocation τ α :=
  if (invocation.target?.bind Target.bubble) = some ⟨kind, text⟩ then
    invocation.withStage fun stage => (stage.setBubble invocation.target none).2
  else invocation

/-- Shows a bubble for a number of seconds. -/
def runTimedBubble (kind : BubbleKind) (args : Args α) (invocation : Invocation τ α) :
    BlockResult τ α :=
  let text := args.text "MESSAGE"
  let seconds := args.number "SECS"
  if invocation.frame.isFirstRun then
    ((showBubble invocation kind text).setDeadline seconds).yieldThread.finish
  else
    match invocation.waitFor seconds with
    | (true, invocation) => (clearBubble invocation kind text).finish
    | (false, invocation) => invocation.finish

/-- Shows or hides the target of a block. -/
def setVisible (visible : Bool) (invocation : Invocation τ α) : BlockResult τ α :=
  (invocation.withStage fun stage => (stage.setVisible invocation.target visible).2).finish

/-- Scales the target of a block. -/
def setSizeTo (size : α) (invocation : Invocation τ α) : BlockResult τ α :=
  (invocation.withStage fun stage => (stage.setSize invocation.target size).2).finish

/-- Chooses a costume of the target of a block, by the exact result of its arithmetic. -/
def setCostume (number : Int) (invocation : Invocation τ α) : BlockResult τ α :=
  (invocation.withStage fun stage =>
    ((stage.mark !Width.holds 64 number).setCostume invocation.target
      (Width.wrap 64 number)).2).finish

/-- Sets an effect of the target of a block. -/
def setEffectTo (name : String) (strength : α) (invocation : Invocation τ α) :
    BlockResult τ α :=
  (invocation.withStage fun stage => (stage.setEffect invocation.target name strength).2).finish

/-- Moves the target of a block in paint order, by the exact result of its arithmetic. -/
def setLayer (position : Int) (relative : Bool) (invocation : Invocation τ α) :
    BlockResult τ α :=
  (invocation.withStage fun stage =>
    ((stage.mark !Width.holds 32 position).setLayerOrder invocation.target
      (Width.wrap 32 position) relative).2).finish

/-- The name of an effect in small letters. None has a sigma, whose small letter depends on
its place in a word. -/
def effectName (args : Args α) : String := Text.lower (args.text "EFFECT")

/-- Chooses the costume of a number counted from one. -/
def runSwitchCostume (args : Args α) (invocation : Invocation τ α) : BlockResult τ α :=
  let number := args.number "COSTUME"
  if Scalar.isFinite number then
    setCostume (Scalar.truncate Width.low64 Width.high64 (Scalar.round number) - 1) invocation
  else invocation.fault (.invalidArgument "COSTUME" "not a costume number")

/-- Moves the target to the front or the back. -/
def runGoToFrontBack (args : Args α) (invocation : Invocation τ α) : BlockResult τ α :=
  match args.text "FRONT_BACK" with
  | "front" => setLayer Width.high32 false invocation
  | "back" => setLayer 0 false invocation
  | other =>
    invocation.fault
      (.invalidArgument "FRONT_BACK" ("expected front or back, got '" ++ other ++ "'"))

/-- Moves the target by a number of layers. -/
def runGoForwardBackward (args : Args α) (invocation : Invocation τ α) : BlockResult τ α :=
  let layers :=
    Scalar.truncate Width.low32 Width.high32 (Scalar.round (args.number "NUM"))
  setLayer (if args.text "FORWARD_BACKWARD" = "backward" then -layers else layers) true invocation

/-- Runs a looks block. -/
def run (block : LooksBlock) (args : Args α) (invocation : Invocation τ α) : BlockResult τ α :=
  match block with
  | .say => (showBubble invocation .say (args.text "MESSAGE")).finish
  | .sayForSeconds => runTimedBubble .say args invocation
  | .think => (showBubble invocation .think (args.text "MESSAGE")).finish
  | .thinkForSeconds => runTimedBubble .think args invocation
  | .showTarget => setVisible true invocation
  | .hideTarget => setVisible false invocation
  | .setSize => setSizeTo (args.number "SIZE") invocation
  | .changeSize => invocation.onTarget fun target =>
    setSizeTo (target.size + args.number "CHANGE") invocation
  | .size => invocation.onTarget fun target =>
    invocation.give (.ofNumber (Scalar.round target.size))
  | .switchCostume => runSwitchCostume args invocation
  | .nextCostume => invocation.onTarget fun target =>
    setCostume (Width.wrap 64 target.costume + 1) invocation
  | .costumeNumber => invocation.onTarget fun target =>
    invocation.give (.int (target.costume + 1))
  | .setEffect => setEffectTo (effectName args) (args.number "VALUE") invocation
  | .changeEffect => invocation.onTarget fun target =>
    let name := effectName args
    let current := (target.effects.find? name).getD Scalar.zero
    setEffectTo name (current + args.number "CHANGE") invocation
  | .clearEffects =>
    (invocation.withStage fun stage => stage.clearEffects invocation.target).finish
  | .goToFrontBack => runGoToFrontBack args invocation
  | .goForwardBackward => runGoForwardBackward args invocation

end LooksBlock

end SpriteMachine
