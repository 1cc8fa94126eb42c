import SpriteMachine.Block.Invocation

/-!
# Sensing

Sensing blocks read the devices and ask about other targets. A question about a
target that does not exist has an answer too: it is not touched, far away, or
has zero for everything.
-/

namespace SpriteMachine

variable {τ α : Type} [Scalar α]

namespace SensingBlock

/-- The option that names the mouse. -/
def mouseOption : String := "_mouse_"

/-- The option that names the edge of the stage. -/
def edgeOption : String := "_edge_"

/-- The option that names the stage. -/
def stageOption : String := "_stage_"

/-- The distance to what does not exist. -/
def farAway : Int := 10000

/-- Whether a target is at the edge of the stage or beyond it. -/
def isAtEdge (target : Target α) : Bool :=
  Scalar.atMost (Scalar.ofInt stageWidth / Scalar.ofInt 2) (Scalar.magnitude target.x) ||
    Scalar.atMost (Scalar.ofInt stageHeight / Scalar.ofInt 2) (Scalar.magnitude target.y)

/-- The drawables of a sprite and its clones, one target left out. -/
def drawablesOf (stage : Stage α) (name : String) (except : TargetId) : List DrawableId :=
  match stage.spriteNamed? name with
  | none => []
  | some sprite =>
    ((stage.instancesOf sprite.id).filter (· ≠ except)).filterMap fun id =>
      (stage.target? id).bind Target.drawable

/-- Whether the drawable of a target touches what an option names. -/
def isTouching (scheduler : Scheduler τ α) (target : Target α) (option : String) : Bool :=
  match scheduler.stage.renderer, target.drawable with
  | some renderer, some drawable =>
    if option = mouseOption then
      let mouse := scheduler.devices.mouse
      renderer.pick mouse.stageX mouse.stageY = some drawable
    else renderer.isTouching drawable (drawablesOf scheduler.stage option target.id)
  | _, _ => false

/-- The position that an option names. -/
def positionOf? (scheduler : Scheduler τ α) (option : String) : Option (α × α) :=
  if option = mouseOption then
    some (scheduler.devices.mouse.stageX, scheduler.devices.mouse.stageY)
  else (scheduler.stage.spriteNamed? option).map fun sprite => (sprite.x, sprite.y)

/-- The distance between two positions. -/
def distance (left right : α × α) : α :=
  let across := left.1 - right.1
  let along := left.2 - right.2
  Scalar.sqrt (across * across + along * along)

/-- A built-in property of a target. -/
def builtIn? (target : Target α) (property : String) : Option (Value α) :=
  if target.isStage then
    if property = "backdrop #" then some (.int (target.costume + 1)) else none
  else
    match property with
    | "x position" => some (.ofNumber target.x)
    | "y position" => some (.ofNumber target.y)
    | "direction" => some (.ofNumber target.direction)
    | "costume #" => some (.int (target.costume + 1))
    | "size" => some (.ofNumber target.size)
    | _ => none

/-- A built-in property, a variable, or zero. -/
def reading (target : Target α) (property : String) : Value α :=
  match builtIn? target property with
  | some value => value
  | none => (target.memory.find? property).getD (.int 0)

/-- The target that an object option names. -/
def objectOf? (stage : Stage α) (object : String) : Option (Target α) :=
  if object = stageOption then stage.stageTarget? else stage.spriteNamed? object

/-- Runs a sensing block. -/
def run (block : SensingBlock) (args : Args α) (invocation : Invocation τ α) :
    BlockResult τ α :=
  let devices := invocation.scheduler.devices
  match block with
  | .timer => invocation.give (.ofNumber devices.clock.timer)
  | .resetTimer =>
    { invocation with
      scheduler := { invocation.scheduler with
        devices := { devices with clock := devices.clock.reset } } }.finish
  | .keyPressed => invocation.give (.bool (devices.keyboard.isPressed (args.text "KEY_OPTION")))
  | .mouseDown => invocation.give (.bool devices.mouse.isDown)
  | .mouseX => invocation.give (.ofNumber devices.mouse.stageX)
  | .mouseY => invocation.give (.ofNumber devices.mouse.stageY)
  | .touchingObject => invocation.onTarget fun target =>
    let option := args.text "TOUCHINGOBJECTMENU"
    invocation.give (.bool (!target.isStage &&
      (if option = edgeOption then isAtEdge target
        else isTouching invocation.scheduler target option)))
  | .distanceTo => invocation.onTarget fun target =>
    if target.isStage then invocation.give (.int farAway)
    else
      match positionOf? invocation.scheduler (args.text "DISTANCETOMENU") with
      | some position => invocation.give (.ofNumber (distance (target.x, target.y) position))
      | none => invocation.give (.int farAway)
  | .attributeOf =>
    match objectOf? invocation.scheduler.stage (args.text "OBJECT") with
    | some target => invocation.give (reading target (args.text "PROPERTY"))
    | none => invocation.give (.int 0)

end SensingBlock

end SpriteMachine
