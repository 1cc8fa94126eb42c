import SpriteMachine.Json.Record
import SpriteMachine.Number.Scalar

/-!
# The mouse and its wheel

The mouse is posted in pixels of the canvas it moves over and is read in units of
the stage, whose middle is the origin. An event over a canvas without extent
does not move it. The wheel acts like the up and down keys.
-/

namespace SpriteMachine

/-- The width of the stage in its own units. -/
def stageWidth : Int := 480

/-- The height of the stage in its own units. -/
def stageHeight : Int := 360

/-- A position on a canvas of a size, and the state of the button if it is told. -/
structure MouseEvent (α : Type) where
  x : α
  y : α
  width : α
  height : α
  isDown : Option Bool

/-- The last position, on the canvas and on the stage, and the button. -/
structure Mouse (α : Type) where
  clientX : α
  clientY : α
  stageX : α
  stageY : α
  isDown : Bool

/-- How far the wheel was turned. -/
structure WheelEvent (α : Type) where
  delta : α

/-- The last turn of the wheel. -/
structure MouseWheel (α : Type) where
  delta : α

variable {α : Type} [Scalar α]

/-- The event of a JSON tree. -/
def MouseEvent.ofJson? (json : Json) : Option (MouseEvent α) := do
  let record ← Record.ofJson? ["x", "y", "canvasWidth", "canvasHeight", "isDown"] json
  let x ← record.required "x" Json.scalar?
  let y ← record.required "y" Json.scalar?
  let width ← record.required "canvasWidth" Json.scalar?
  let height ← record.required "canvasHeight" Json.scalar?
  let isDown ← record.nullableWithDefault "isDown" Json.bool?
  return ⟨x, y, width, height, isDown⟩

/-- The event of a JSON tree. -/
def WheelEvent.ofJson? (json : Json) : Option (WheelEvent α) := do
  let record ← Record.ofJson? ["deltaY"] json
  return ⟨← record.required "deltaY" Json.scalar?⟩

namespace Mouse

/-- The mouse before its first event. -/
def atRest : Mouse α := ⟨Scalar.zero, Scalar.zero, Scalar.zero, Scalar.zero, false⟩

/-- A share of an extent, counted from the middle and kept on the stage. -/
def fromMiddle (extent : Int) (scale share : α) : α :=
  let half : α := Scalar.ofInt extent / Scalar.ofInt 2
  Scalar.clamp (-half) half
    (Scalar.round (scale * (share - Scalar.ofInt 1 / Scalar.ofInt 2)))

/-- Takes an event. -/
def post (mouse : Mouse α) (event : MouseEvent α) : Mouse α :=
  let moved :=
    if Scalar.less Scalar.zero event.width && Scalar.less Scalar.zero event.height then
      { mouse with
        clientX := event.x
        clientY := event.y
        stageX := fromMiddle stageWidth (Scalar.ofInt stageWidth) (event.x / event.width)
        stageY := fromMiddle stageHeight (-Scalar.ofInt stageHeight) (event.y / event.height) }
    else mouse
  { moved with isDown := event.isDown.getD moved.isDown }

end Mouse

namespace MouseWheel

/-- The wheel before its first turn. -/
def atRest : MouseWheel α := ⟨Scalar.zero⟩

/-- Takes a turn, which is signalled as a key. -/
def post (event : WheelEvent α) : Option String × MouseWheel α :=
  (if Scalar.less event.delta Scalar.zero then some "up arrow"
    else if Scalar.less Scalar.zero event.delta then some "down arrow"
    else none, ⟨event.delta⟩)

end MouseWheel

end SpriteMachine
