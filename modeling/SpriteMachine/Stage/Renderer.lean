import SpriteMachine.Device.Mouse
import SpriteMachine.Identifier
import SpriteMachine.Number.Width
import SpriteMachine.OrderedMap

/-!
# The renderer

The renderer keeps one drawable for each target, in paint order from back to
front, and counts what it is asked to do. It paints nothing. A drawable is a
square around its position for the purpose of touching and picking.

Moving a drawable in paint order keeps it in front of every background drawable,
as far as there is room. Places are numbers of 32 bits, and a place that is counted
from another one can overflow.
-/

namespace SpriteMachine

/-- The layer a drawable was made for. -/
inductive Layer where
  | background
  | sprite
deriving DecidableEq, Repr

/-- The name of a layer. -/
def Layer.name : Layer → String
  | background => "Background"
  | sprite => "Sprite"

/-- What a drawable shows. -/
structure Appearance (α : Type) where
  position : α × α
  direction : α
  scale : α × α
  visible : Bool
  skin : Nat
  effects : OrderedMap String α

/-- A change of what a drawable shows; parts that are not given stay. -/
structure AppearanceChange (α : Type) where
  position : Option (α × α)
  direction : Option α
  scale : Option (α × α)
  visible : Option Bool
  skin : Option Nat
  effects : Option (OrderedMap String α)

namespace AppearanceChange

variable {α : Type}

/-- The change that changes nothing. -/
def none : AppearanceChange α := ⟨.none, .none, .none, .none, .none, .none⟩

/-- The change that sets every part. -/
def all (look : Appearance α) : AppearanceChange α :=
  ⟨some look.position, some look.direction, some look.scale, some look.visible, some look.skin,
    some look.effects⟩

/-- Whether no part is given. -/
def isEmpty (change : AppearanceChange α) : Bool :=
  change.position.isNone && change.direction.isNone && change.scale.isNone &&
    change.visible.isNone && change.skin.isNone && change.effects.isNone

/-- What a drawable shows after a change. -/
def apply (change : AppearanceChange α) (look : Appearance α) : Appearance α where
  position := change.position.getD look.position
  direction := change.direction.getD look.direction
  scale := change.scale.getD look.scale
  visible := change.visible.getD look.visible
  skin := change.skin.getD look.skin
  effects := change.effects.getD look.effects

end AppearanceChange

/-- A drawable of the renderer. -/
structure Drawable (α : Type) where
  layer : Layer
  look : Appearance α

/-- The drawables from back to front, the number of the next one, and how often
the renderer was asked to draw and to change a drawable. -/
structure Renderer (α : Type) where
  drawables : OrderedMap DrawableId (Drawable α)
  nextNumber : Nat
  draws : Nat
  updates : Nat

namespace Renderer

variable {α : Type}

/-- A renderer without drawables. -/
def fresh : Renderer α := ⟨.empty, 0, 0, 0⟩

/-- Draws once. -/
def draw (renderer : Renderer α) : Renderer α := { renderer with draws := renderer.draws + 1 }

/-- Removes a drawable. -/
def destroy (renderer : Renderer α) (id : DrawableId) : Renderer α :=
  { renderer with drawables := renderer.drawables.erase id }

/-- Changes a drawable. The change is counted even when there is no such drawable. -/
def update (renderer : Renderer α) (id : DrawableId) (change : AppearanceChange α) :
    Renderer α :=
  { renderer with
    updates := renderer.updates + 1
    drawables := renderer.drawables.modify id fun drawable =>
      { drawable with look := change.apply drawable.look } }

/-- The place of a drawable in paint order. -/
def order? (renderer : Renderer α) (id : DrawableId) : Option Nat :=
  renderer.drawables.keys.idxOf? id

/-- How many drawables belong to the background. -/
def backgroundCount (renderer : Renderer α) : Nat :=
  renderer.drawables.values.countP fun drawable => drawable.layer = .background

/-- Whether the place overflows that a drawable would be moved to. -/
def orderOverflows (renderer : Renderer α) (id : DrawableId) (position : Int) (relative : Bool) :
    Bool :=
  (renderer.order? id).any fun current => relative && !Width.holds 32 (current + position)

/-- Moves a drawable to a place in paint order, or by a number of places, and tells
the place it has then. -/
def setOrder (renderer : Renderer α) (id : DrawableId) (position : Int) (relative : Bool) :
    Option Int × Renderer α :=
  match renderer.order? id with
  | none => (none, renderer)
  | some current =>
    let last : Int := (renderer.drawables.size : Int) - 1
    let first : Int := min renderer.backgroundCount last
    let wanted : Int := if relative then Width.wrap 32 (current + position) else position
    let place := max first (min last wanted)
    (some place,
      { renderer with drawables := renderer.drawables.move current place.toNat })

variable [Scalar α]

/-- What a new drawable shows. -/
def initialLook : Appearance α where
  position := (Scalar.zero, Scalar.zero)
  direction := Scalar.ofInt 90
  scale := (Scalar.ofInt 100, Scalar.ofInt 100)
  visible := true
  skin := 0
  effects := .empty

/-- Adds a drawable in front of all others. -/
def create (renderer : Renderer α) (layer : Layer) : DrawableId × Renderer α :=
  let id : DrawableId := ⟨renderer.nextNumber⟩
  (id, { renderer with
    nextNumber := renderer.nextNumber + 1
    drawables := renderer.drawables.insert id ⟨layer, initialLook⟩ })

/-- Half the side of a drawable's square at full scale. -/
def radius : α := Scalar.ofInt 24

/-- Whether two positions differ by at most a reach in both coordinates. -/
def within (reach : α) (left right : α × α) : Bool :=
  Scalar.atMost (Scalar.magnitude (left.1 - right.1)) reach &&
    Scalar.atMost (Scalar.magnitude (left.2 - right.2)) reach

/-- The frontmost visible sprite drawable whose scaled square holds a point. -/
def pick (renderer : Renderer α) (x y : α) : Option DrawableId :=
  (renderer.drawables.entries.reverse.find? fun (_, drawable) =>
    drawable.look.visible && drawable.layer = .sprite &&
      within (radius * Scalar.magnitude drawable.look.scale.1 / Scalar.ofInt 100) (x, y)
        drawable.look.position).map Prod.fst

/-- Whether the square of a drawable meets that of a visible one among others. -/
def isTouching (renderer : Renderer α) (id : DrawableId) (others : List DrawableId) : Bool :=
  match renderer.drawables.find? id with
  | none => false
  | some drawable =>
    others.any fun other =>
      match renderer.drawables.find? other with
      | none => false
      | some second =>
        second.look.visible &&
          within (radius + radius) drawable.look.position second.look.position

/-- Whether a drawable touches a color. Nothing is painted, so it never does. -/
def isTouchingColor (_renderer : Renderer α) (_id : DrawableId) : Bool := false

/-- The nearest position on the stage. -/
def fenced (x y : α) : α × α :=
  let halfWidth : α := Scalar.ofInt stageWidth / Scalar.ofInt 2
  let halfHeight : α := Scalar.ofInt stageHeight / Scalar.ofInt 2
  (Scalar.clamp (-halfWidth) halfWidth x, Scalar.clamp (-halfHeight) halfHeight y)

end Renderer

end SpriteMachine
