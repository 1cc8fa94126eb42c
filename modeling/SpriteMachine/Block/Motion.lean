import SpriteMachine.Block.Invocation

/-!
# Motion

Motion blocks place and turn the target they run on. Positions stay on the stage
when a renderer is attached. Answers about a position are cut to eight decimals.
-/

namespace SpriteMachine

variable {τ α : Type} [Scalar α]

namespace MotionBlock

/-- Moves the target of a block. -/
def moveTo (invocation : Invocation τ α) (x y : α) : Invocation τ α :=
  invocation.withStage fun stage => (stage.setPosition invocation.target x y true).2

/-- Turns the target of a block. -/
def point (invocation : Invocation τ α) (angle : α) : Invocation τ α :=
  invocation.withStage fun stage => (stage.setDirection invocation.target angle).2

/-- A coordinate rounded to eight decimals. -/
def snapped (value : α) : Value α :=
  let unit : α := Numeral.tenTo 8
  Value.ofNumber (Scalar.round (value * unit) / unit)

/-- The start of a glide as it is noted: position and moment. -/
def glideStart (notes : FrameNotes α) (x y now : α) : α × α × α :=
  match notes.scratch with
  | some (.list [startX, startY, started]) =>
    (startX.toNumber, startY.toNumber, started.toNumber)
  | _ => (x, y, now)

/-- Moves a glide on to the current moment. -/
def continueGlide (args : Args α) (invocation : Invocation τ α) : BlockResult τ α :=
  let endX := args.number "X"
  let endY := args.number "Y"
  let now := invocation.now
  match glideStart invocation.frame.notes endX endY now with
  | (startX, startY, started) =>
    let elapsed := now - started
    let total := Invocation.millisecondsOf (args.number "SECS")
    if Scalar.less elapsed total then
      let share := elapsed / total
      (moveTo invocation (startX + (endX - startX) * share)
        (startY + (endY - startY) * share)).yieldThread.finish
    else (moveTo invocation endX endY).finish

/-- Glides to a position for a number of seconds. -/
def runGlide (args : Args α) (invocation : Invocation τ α) : BlockResult τ α :=
  if invocation.frame.isFirstRun then
    invocation.onTarget fun target =>
      let seconds := Scalar.maximum (args.number "SECS") Scalar.zero
      let start := Value.list
        [.ofScalar target.x, .ofScalar target.y, .ofScalar invocation.now]
      let noted := (invocation.setDeadline seconds).withNotes fun notes =>
        { notes with scratch := some start }
      if Scalar.less Scalar.zero seconds then noted.yieldThread.finish
      else continueGlide args noted
  else continueGlide args invocation

/-- Chooses how the target turns. -/
def runSetRotationStyle (args : Args α) (invocation : Invocation τ α) : BlockResult τ α :=
  let text := args.text "STYLE"
  match RotationStyle.ofName? text with
  | some style =>
    (invocation.withStage fun stage => (stage.setRotationStyle invocation.target style).2).finish
  | none =>
    invocation.fault (.invalidArgument "STYLE" ("unknown rotation style '" ++ text ++ "'"))

/-- Runs a motion block. -/
def run (block : MotionBlock) (args : Args α) (invocation : Invocation τ α) :
    BlockResult τ α :=
  match block with
  | .moveSteps => invocation.onTarget fun target =>
    let steps := args.number "STEPS"
    match Scalar.heading target.direction with
    | (right, up) =>
      (moveTo invocation (target.x + steps * right) (target.y + steps * up)).finish
  | .goTo => (moveTo invocation (args.number "X") (args.number "Y")).finish
  | .glide => runGlide args invocation
  | .turnRight => invocation.onTarget fun target =>
    (point invocation (target.direction + args.number "DEGREES")).finish
  | .turnLeft => invocation.onTarget fun target =>
    (point invocation (target.direction - args.number "DEGREES")).finish
  | .pointInDirection => (point invocation (args.number "DIRECTION")).finish
  | .changeX => invocation.onTarget fun target =>
    (moveTo invocation (target.x + args.number "DX") target.y).finish
  | .setX => invocation.onTarget fun target =>
    (moveTo invocation (args.number "X") target.y).finish
  | .changeY => invocation.onTarget fun target =>
    (moveTo invocation target.x (target.y + args.number "DY")).finish
  | .setY => invocation.onTarget fun target =>
    (moveTo invocation target.x (args.number "Y")).finish
  | .setRotationStyle => runSetRotationStyle args invocation
  | .xPosition => invocation.onTarget fun target => invocation.give (snapped target.x)
  | .yPosition => invocation.onTarget fun target => invocation.give (snapped target.y)
  | .direction => invocation.onTarget fun target =>
    invocation.give (.ofNumber target.direction)

end MotionBlock

end SpriteMachine
