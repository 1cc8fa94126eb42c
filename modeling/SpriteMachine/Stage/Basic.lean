import SpriteMachine.Number.Width
import SpriteMachine.Stage.Target

/-!
# The stage

The stage holds the targets in the order in which they were added, counts the
clones among them and forwards every change of a target to the renderer, if one
is attached. A change that can be seen asks for a redraw. Setters tell whether
they took effect; none of them moves, turns, scales or hides the stage target.

Costume numbers and places in paint order are held in words. Where arithmetic on them
overflows the program panics: every build when a remainder does, and otherwise the
builds that check for it, while the others count around. The stage keeps a mark of the
overflow and counts around.
-/

namespace SpriteMachine

/-- The targets and everything that is kept about them as a whole, and whether
arithmetic has overflowed. -/
structure Stage (α : Type) where
  targets : OrderedMap TargetId (Target α)
  renderer : Option (Renderer α)
  cloneCount : Nat
  maxClones : Nat
  editing : Option TargetId
  redrawRequested : Bool
  overflowed : Bool

namespace Stage

variable {α : Type}

/-- How many clones there may be unless a limit is configured. -/
def defaultMaxClones : Nat := 300

/-- A stage without targets and renderer. -/
def empty (maxClones : Nat) : Stage α := ⟨.empty, none, 0, maxClones, none, false, false⟩

/-- The target of a name. -/
def target? (stage : Stage α) (id : TargetId) : Option (Target α) := stage.targets.find? id

/-- Whether there is a target of a name. -/
def contains (stage : Stage α) (id : TargetId) : Bool := stage.targets.contains id

/-- The first sprite with a display name; clones and the stage do not count. -/
def spriteNamed? (stage : Stage α) (name : String) : Option (Target α) :=
  stage.targets.values.find? fun target =>
    !target.isStage && !target.isClone && target.name = name

/-- The target that a drawable shows. -/
def targetOf? (stage : Stage α) (drawable : DrawableId) : Option (Target α) :=
  stage.targets.values.find? fun target => target.drawable = some drawable

/-- The stage target. -/
def stageTarget? (stage : Stage α) : Option (Target α) :=
  stage.targets.values.find? Target.isStage

/-- The target being edited. -/
def editingTarget? (stage : Stage α) : Option (Target α) := stage.editing.bind stage.target?

/-- A sprite and its clones, in order. -/
def instancesOf (stage : Stage α) (owner : TargetId) : List TargetId :=
  (stage.targets.values.filter fun target => target.scriptOwner = owner).map Target.id

/-- Whether another clone may be made. -/
def hasRoom (stage : Stage α) : Bool := stage.cloneCount < stage.maxClones

/-- Chooses the target being edited; it has to exist. -/
def setEditing (stage : Stage α) (id : TargetId) : Bool × Stage α :=
  if stage.contains id then (true, { stage with editing := some id }) else (false, stage)

/-- Asks for a redraw. -/
def requestRedraw (stage : Stage α) : Stage α := { stage with redrawRequested := true }

/-- Answers whether a redraw was asked for, and forgets it. -/
def takeRedraw (stage : Stage α) : Bool × Stage α :=
  (stage.redrawRequested, { stage with redrawRequested := false })

/-- Marks the stage if arithmetic overflowed. -/
def mark (stage : Stage α) (overflows : Bool) : Stage α :=
  { stage with overflowed := stage.overflowed || overflows }

/-- Lets the renderer draw. -/
def draw (stage : Stage α) : Stage α :=
  { stage with renderer := stage.renderer.map Renderer.draw }

/-- The clone counter moved by an amount, held between zero and the greatest
number of 64 bits. -/
def changeCloneCount (stage : Stage α) (amount : Int) : Stage α :=
  { stage with
    cloneCount := (max 0 (min ((stage.cloneCount : Int) + amount) Width.last64)).toNat }

/-- A target changed in place. -/
def modify (stage : Stage α) (id : TargetId) (change : Target α → Target α) : Stage α :=
  { stage with targets := stage.targets.modify id change }

/-- Removes a target with its drawable. -/
def dispose (stage : Stage α) (id : TargetId) : Option (Target α) × Stage α :=
  match stage.target? id with
  | none => (none, stage)
  | some target =>
    let removed := { stage with
      targets := stage.targets.erase id
      editing := if stage.editing = some id then none else stage.editing }
    let counted := if target.isClone then removed.changeCloneCount (-1) else removed
    match stage.renderer, target.drawable with
    | some renderer, some drawable =>
      (some target, { counted with
        renderer := some (renderer.destroy drawable)
        redrawRequested := counted.redrawRequested || target.visible })
    | _, _ => (some target, counted)

/-- Removes targets one after another and lists those that were there. -/
def disposeAll : Stage α → List TargetId → List (Target α) × Stage α
  | stage, [] => ([], stage)
  | stage, id :: rest =>
    match stage.dispose id with
    | (removed, stage) =>
      match disposeAll stage rest with
      | (others, stage) => (removed.toList ++ others, stage)

/-- The names of the clones in order. -/
def cloneIds (stage : Stage α) : List TargetId :=
  (stage.targets.values.filter Target.isClone).map Target.id

/-- Removes every clone. -/
def disposeClones (stage : Stage α) : List (Target α) × Stage α :=
  stage.disposeAll stage.cloneIds

/-- Forwards a change of a target to its drawable, and asks for a redraw when the
target can be seen. -/
def forward (stage : Stage α) (id : TargetId) (change : AppearanceChange α) : Stage α :=
  match stage.target? id with
  | none => stage
  | some target =>
    match stage.renderer, target.drawable with
    | some renderer, some drawable =>
      { stage with
        renderer := some (renderer.update drawable change)
        redrawRequested := stage.redrawRequested || target.visible }
    | _, _ => stage

/-- Gives a target a bubble or takes it away. A bubble without text is none. -/
def setBubble (stage : Stage α) (id : TargetId) (bubble : Option Bubble) : Bool × Stage α :=
  match stage.target? id with
  | none => (false, stage)
  | some target =>
    let changed := stage.modify id fun target =>
      { target with bubble := bubble.filter fun bubble => bubble.text ≠ "" }
    (true, { changed with redrawRequested := stage.redrawRequested || target.visible })

/-- Removes all effects of a target. -/
def clearEffects (stage : Stage α) (id : TargetId) : Stage α :=
  if stage.contains id then
    (stage.modify id fun target => { target with effects := .empty }).forward id
      { AppearanceChange.none with effects := some .empty }
  else stage

/-- Shows or hides a target. Hiding asks for a redraw too. -/
def setVisible (stage : Stage α) (id : TargetId) (visible : Bool) : Bool × Stage α :=
  match stage.target? id with
  | none => (false, stage)
  | some target =>
    if target.isStage then (false, stage)
    else
      let changed := stage.modify id fun target => { target with visible := visible }
      match stage.renderer, target.drawable with
      | some renderer, some drawable =>
        (true, { changed with
          renderer := some (renderer.update drawable
            { AppearanceChange.none with visible := some visible })
          redrawRequested := true })
      | _, _ => (true, changed)

/-- The count of costumes as a signed number of 64 bits. There is one at least. -/
def costumeModulus (count : Nat) : Int := Width.wrap 64 (max count 1)

/-- The costume congruent to a number, modulo the count of costumes. -/
def costumeAt (count : Nat) (number : Int) : Nat := (number % costumeModulus count).toNat

/-- Whether the division overflows that leaves the costume congruent to a number. -/
def costumeOverflows (count : Nat) (number : Int) : Bool :=
  !Width.holds 64 (number / costumeModulus count)

/-- Chooses a costume, counting around in either direction. -/
def setCostume (stage : Stage α) (id : TargetId) (number : Int) : Bool × Stage α :=
  match stage.target? id with
  | none => (false, stage)
  | some target =>
    let costume := costumeAt target.costumeCount number
    let marked := stage.mark (costumeOverflows target.costumeCount number)
    (true, (marked.modify id fun target => { target with costume := costume }).forward id
      { AppearanceChange.none with skin := some costume })

/-- Moves a target in paint order and tells its place. -/
def setLayerOrder (stage : Stage α) (id : TargetId) (position : Int) (relative : Bool) :
    Option Int × Stage α :=
  match (stage.target? id).bind Target.drawable, stage.renderer with
  | some drawable, some renderer =>
    let marked := stage.mark (renderer.orderOverflows drawable position relative)
    match renderer.setOrder drawable position relative with
    | (order, renderer) =>
      (order, { marked with renderer := some renderer, redrawRequested := true })
  | _, _ => (none, stage)

/-- Removes the effects of every target. -/
def onGreenFlag (stage : Stage α) : Stage α :=
  stage.targets.keys.foldl clearEffects stage

/-- Removes the bubbles and effects of every target. -/
def onStopAll (stage : Stage α) : Stage α :=
  stage.targets.keys.foldl (fun stage id => (stage.setBubble id none).2.clearEffects id) stage

variable [Scalar α]

/-- A target with a drawable of its own. -/
def present (renderer : Renderer α) (target : Target α) : Target α × Renderer α :=
  match renderer.create target.layer with
  | (drawable, renderer) =>
    ({ target with drawable := some drawable },
      renderer.update drawable (.all target.appearance))

/-- Targets with drawables of their own, made in order. -/
def presentAll : Renderer α → List (Target α) → List (Target α) × Renderer α
  | renderer, [] => ([], renderer)
  | renderer, target :: rest =>
    match present renderer target with
    | (target, renderer) =>
      match presentAll renderer rest with
      | (others, renderer) => (target :: others, renderer)

/-- Attaches a renderer, which gets a drawable for each target. -/
def attach (stage : Stage α) (renderer : Renderer α) : Stage α :=
  match presentAll renderer stage.targets.values with
  | (targets, renderer) =>
    { stage with
      targets := stage.targets.insertAll (stage.targets.keys.zip targets)
      renderer := some renderer }

/-- Adds a target in front of all others. One of the same name is removed first. -/
def add (stage : Stage α) (target : Target α) : Stage α :=
  let cleared := if stage.contains target.id then (stage.dispose target.id).2 else stage
  let counted :=
    if target.isClone then { cleared with cloneCount := cleared.cloneCount + 1 }
    else cleared
  match cleared.renderer with
  | some renderer =>
    match present renderer target with
    | (target, renderer) =>
      { counted with
        targets := counted.targets.insert target.id target
        renderer := some renderer }
  | none => { counted with targets := counted.targets.insert target.id target }

/-- Moves a sprite. A fenced move with a renderer stays on the stage. -/
def setPosition (stage : Stage α) (id : TargetId) (x y : α) (fenced : Bool) :
    Bool × Stage α :=
  match stage.target? id with
  | none => (false, stage)
  | some target =>
    if target.isStage then (false, stage)
    else
      let place :=
        if fenced && stage.renderer.isSome && target.drawable.isSome then Renderer.fenced x y
        else (x, y)
      (true, (stage.modify id fun target => { target with x := place.1, y := place.2 }).forward id
        { AppearanceChange.none with position := some place })

/-- Forwards the direction and scale that a target is drawn with. -/
def forwardPose (stage : Stage α) (id : TargetId) : Stage α :=
  match stage.target? id with
  | none => stage
  | some target =>
    stage.forward id { AppearanceChange.none with
      direction := some target.renderedPose.1
      scale := some target.renderedPose.2 }

/-- Turns a sprite to an angle. An infinite or undefined angle has no effect. -/
def setDirection (stage : Stage α) (id : TargetId) (angle : α) : Bool × Stage α :=
  match stage.target? id with
  | none => (false, stage)
  | some target =>
    if target.isStage || !Scalar.isFinite angle then (false, stage)
    else
      (true, (stage.modify id fun target =>
        { target with direction := Target.wrapDirection angle }).forwardPose id)

/-- Chooses how a target turns. -/
def setRotationStyle (stage : Stage α) (id : TargetId) (style : RotationStyle) :
    Bool × Stage α :=
  if stage.contains id then
    (true, (stage.modify id fun target => { target with rotationStyle := style }).forwardPose id)
  else (false, stage)

/-- Scales a sprite. -/
def setSize (stage : Stage α) (id : TargetId) (size : α) : Bool × Stage α :=
  match stage.target? id with
  | none => (false, stage)
  | some target =>
    if target.isStage then (false, stage)
    else
      let scaled := { target with size := Scalar.clamp Target.minSize Target.maxSize size }
      (true, (stage.modify id fun target =>
        { target with size := Scalar.clamp Target.minSize Target.maxSize size }).forward id
          { AppearanceChange.none with scale := some scaled.renderedPose.2 })

/-- Sets the strength of one of the known effects. -/
def setEffect (stage : Stage α) (id : TargetId) (effect : String) (strength : α) :
    Bool × Stage α :=
  if effect ∉ effectNames then (false, stage)
  else
    match stage.target? id with
    | none => (false, stage)
    | some target =>
      let effects := target.effects.insert effect (Target.clampEffect effect strength)
      (true, (stage.modify id fun target => { target with effects := effects }).forward id
        { AppearanceChange.none with effects := some effects })

end Stage

end SpriteMachine
