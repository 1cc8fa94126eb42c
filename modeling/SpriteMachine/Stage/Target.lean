import SpriteMachine.Json.Record
import SpriteMachine.Number.Width
import SpriteMachine.Stage.Renderer
import SpriteMachine.Value.Cast

/-!
# Targets

A target is a sprite, a clone of a sprite, or the stage. Its direction lies in one
turn around the full circle, its size between two bounds, and its costume is one
of those it has. A clone takes over everything from its source but the bubble
and the drawable, and it runs the scripts of the sprite it descends from.
-/

namespace SpriteMachine

/-- How a target turns with its direction. -/
inductive RotationStyle where
  | allAround
  | leftRight
  | dontRotate
deriving DecidableEq, Repr

namespace RotationStyle

/-- The text of a style. -/
def name : RotationStyle → String
  | allAround => "all around"
  | leftRight => "left-right"
  | dontRotate => "don't rotate"

/-- The style of a text. -/
def ofName? : String → Option RotationStyle
  | "all around" => some allAround
  | "left-right" => some leftRight
  | "don't rotate" => some dontRotate
  | _ => none

end RotationStyle

/-- How a bubble is drawn. -/
inductive BubbleKind where
  | say
  | think
deriving DecidableEq, Repr

/-- The name of a kind of bubble. -/
def BubbleKind.name : BubbleKind → String
  | say => "Say"
  | think => "Think"

/-- A bubble beside a target. -/
structure Bubble where
  kind : BubbleKind
  text : String
deriving DecidableEq, Repr

/-- The graphic effects a target can have. -/
def effectNames : List String :=
  ["color", "fisheye", "whirl", "pixelate", "mosaic", "brightness", "ghost"]

/-- The description of a target in a project; `memory` holds its variables. -/
structure TargetSpec (α : Type) where
  id : TargetId
  name : String
  isStage : Bool
  x : α
  y : α
  direction : α
  visible : Bool
  size : α
  costume : Nat
  costumeCount : Option Nat
  rotationStyle : RotationStyle
  memory : OrderedMap String (Value α)

/-- A sprite, a clone or the stage. `cloneOf` names the sprite a clone descends
from, and `memory` holds the variables. -/
structure Target (α : Type) where
  id : TargetId
  name : String
  isStage : Bool
  cloneOf : Option TargetId
  x : α
  y : α
  direction : α
  visible : Bool
  size : α
  costume : Nat
  costumeCount : Nat
  rotationStyle : RotationStyle
  effects : OrderedMap String α
  memory : OrderedMap String (Value α)
  bubble : Option Bubble
  drawable : Option DrawableId

namespace TargetSpec

variable {α : Type} [Scalar α]

/-- The values of variables in a JSON object, none nested deeper than allowed. -/
def memory? (room : Nat) (json : Json) : Option (OrderedMap String (Value α)) :=
  (Json.entriesOf? (fun item => if item.depth ≤ room then Value.ofJson? item else none) json).map
    OrderedMap.ofList

/-- The description of a JSON tree whose variables may nest as deep as allowed. -/
def ofJson? (room : Nat) (json : Json) : Option (TargetSpec α) := do
  let record ← Record.ofJson? ["id", "name", "isStage", "x", "y", "direction", "visible", "size",
    "costume", "costumeCount", "rotationStyle", "variables"] json
  let id ← record.required "id" Json.text?
  let name ← record.required "name" Json.text?
  let isStage ← record.withDefault "isStage" false Json.bool?
  let x ← record.withDefault "x" Scalar.zero Json.scalar?
  let y ← record.withDefault "y" Scalar.zero Json.scalar?
  let direction ← record.withDefault "direction" (Scalar.ofInt 90) Json.scalar?
  let visible ← record.withDefault "visible" true Json.bool?
  let size ← record.withDefault "size" (Scalar.ofInt 100) Json.scalar?
  let costume ← record.withDefault "costume" 0 (Json.nat? Width.last64)
  let costumeCount ← record.nullableWithDefault "costumeCount" (Json.nat? Width.last64)
  let rotationStyle ← record.withDefault "rotationStyle" .allAround fun json =>
    json.choice?.bind RotationStyle.ofName?
  let memory ← record.withDefault "variables" .empty (memory? room)
  return ⟨⟨id⟩, name, isStage, x, y, direction, visible, size, costume, costumeCount,
    rotationStyle, memory⟩

end TargetSpec

namespace Target

variable {α : Type}

/-- Whether a target is a clone. -/
def isClone (target : Target α) : Bool := target.cloneOf.isSome

/-- The target whose scripts a target runs. -/
def scriptOwner (target : Target α) : TargetId := target.cloneOf.getD target.id

/-- A clone of a target under a name. A clone of the stage is a sprite. -/
def clone (target : Target α) (id : TargetId) : Target α :=
  { target with
    id := id
    isStage := false
    cloneOf := some target.scriptOwner
    bubble := none
    drawable := none }

/-- The layer of a target's drawable. -/
def layer (target : Target α) : Layer := if target.isStage then .background else .sprite

variable [Scalar α]

/-- The least size. -/
def minSize : α := Scalar.ofInt 5

/-- The greatest size. -/
def maxSize : α := Scalar.ofInt 535

/-- An angle as a direction: turned by whole turns into the circle from -179 to 180. -/
def wrapDirection (angle : α) : α := Scalar.wrap angle (Scalar.ofInt (-179)) (Scalar.ofInt 180)

/-- A sprite at the middle of the stage. -/
def sprite (id : TargetId) (name : String) : Target α where
  id := id
  name := name
  isStage := false
  cloneOf := none
  x := Scalar.zero
  y := Scalar.zero
  direction := Scalar.ofInt 90
  visible := true
  size := Scalar.ofInt 100
  costume := 0
  costumeCount := 1
  rotationStyle := .allAround
  effects := .empty
  memory := .empty
  bubble := none
  drawable := none

/-- The stage as a target. Its name is fixed. -/
def stage (id : TargetId) : Target α := { sprite id "Stage" with isStage := true }

/-- The target of a description. -/
def ofSpec (spec : TargetSpec α) : Target α :=
  let plain : Target α := if spec.isStage then stage spec.id else sprite spec.id spec.name
  let count := max (spec.costumeCount.getD 1) 1
  { plain with
    x := spec.x
    y := spec.y
    direction := wrapDirection spec.direction
    visible := spec.visible
    size := Scalar.clamp minSize maxSize spec.size
    costumeCount := count
    costume := spec.costume % count
    rotationStyle := spec.rotationStyle
    memory := spec.memory }

/-- The direction and scale a target is drawn with. Only an all-around target is
drawn in its own direction; a left-right one is mirrored while it looks left. -/
def renderedPose (target : Target α) : α × (α × α) :=
  match target.rotationStyle with
  | .allAround => (target.direction, (target.size, target.size))
  | .dontRotate => (Scalar.ofInt 90, (target.size, target.size))
  | .leftRight =>
    (Scalar.ofInt 90,
      (if Scalar.less target.direction Scalar.zero then -target.size else target.size,
        target.size))

/-- Everything that a target's drawable shows. -/
def appearance (target : Target α) : Appearance α where
  position := (target.x, target.y)
  direction := target.renderedPose.1
  scale := target.renderedPose.2
  visible := target.visible
  skin := target.costume
  effects := target.effects

/-- The strength of an effect, held in the range of that effect. -/
def clampEffect (name : String) (strength : α) : α :=
  if name = "ghost" then Scalar.clamp Scalar.zero (Scalar.ofInt 100) strength
  else if name = "brightness" then
    Scalar.clamp (Scalar.ofInt (-100)) (Scalar.ofInt 100) strength
  else strength

end Target

end SpriteMachine
