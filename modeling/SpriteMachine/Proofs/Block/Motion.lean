import SpriteMachine.Block.Run
import SpriteMachine.Proofs.Block.Registry
import SpriteMachine.Proofs.Stage

/-!
# Motion without a sprite

The stage target does not move or turn: its setters refuse, each for itself. So no motion block
changes anything on the stage when it runs on the stage target, but for the one that chooses how
a target turns. Its setter refuses nobody, and so the stage target gets the style, and its
drawable the pose that goes with it.
-/

namespace SpriteMachine

variable {τ α : Type}

/-- No sprite stands under a name: it is that of the stage target, or nobody's. -/
def Stage.Spriteless (stage : Stage α) (id : TargetId) : Prop :=
  ∀ target, stage.target? id = some target → target.isStage = true

variable [Scalar α]

namespace Stage

variable {stage : Stage α} {id : TargetId}

/-- Nobody moves but sprites. -/
theorem Spriteless.setPosition (spriteless : stage.Spriteless id) (x y : α) (fenced : Bool) :
    stage.setPosition id x y fenced = (false, stage) := by
  unfold Stage.setPosition
  split
  case h_1 => rfl
  case h_2 target found => rw [if_pos (spriteless target found)]

/-- Nobody turns but sprites. -/
theorem Spriteless.setDirection (spriteless : stage.Spriteless id) (angle : α) :
    stage.setDirection id angle = (false, stage) := by
  unfold Stage.setDirection
  split
  case h_1 => rfl
  case h_2 target found => rw [spriteless target found, Bool.true_or, if_pos rfl]

/-- A renderer that shows a target in its pose, if the target has a drawable. -/
def posed (renderer : Renderer α) (target : Target α) : Renderer α :=
  target.drawable.elim renderer fun drawable =>
    renderer.update drawable { AppearanceChange.none with
      direction := some target.renderedPose.1
      scale := some target.renderedPose.2 }

/-- A target gets another style and is shown so. Nothing else of it changes, no other target does,
and no other drawable. -/
structure Restyled (before after : Stage α) (id : TargetId) (style : RotationStyle) : Prop where
  targets : after.targets =
    before.targets.modify id fun target => { target with rotationStyle := style }
  renderer : ∀ target, before.target? id = some target →
    after.renderer = before.renderer.map fun renderer =>
      posed renderer { target with rotationStyle := style }
  count : after.cloneCount = before.cloneCount
  limit : after.maxClones = before.maxClones
  editing : after.editing = before.editing

omit [Scalar α] in
/-- A change that is forwarded reaches the drawable of its target and nothing else. -/
theorem forward_reaches {target : Target α} (found : stage.target? id = some target)
    (change : AppearanceChange α) : (stage.forward id change).targets = stage.targets ∧
      (stage.forward id change).renderer = stage.renderer.map fun renderer =>
        target.drawable.elim renderer fun drawable => renderer.update drawable change := by
  rw [forward, found]
  cases shown : stage.renderer with
  | none => simp [shown]
  | some renderer => cases drawn : target.drawable <;> simp [shown, drawn]

/-- Whoever is there gets the style, the stage target too. -/
theorem setRotationStyle_restyled {target : Target α} (found : stage.target? id = some target)
    (style : RotationStyle) : Restyled stage (stage.setRotationStyle id style).2 id style := by
  have renews := Renews.setRotationStyle stage id style
  have known : stage.contains id = true := by
    rw [contains_eq_isSome, found, Option.isSome_some]
  have styled : (stage.modify id fun target => { target with rotationStyle := style }).target? id =
      some { target with rotationStyle := style } := by
    rw [target_modify, if_pos rfl, found, Option.map_some]
  rw [setRotationStyle, if_pos known, forwardPose, styled] at renews ⊢
  obtain ⟨targets, renderer⟩ := forward_reaches styled { AppearanceChange.none with
    direction := some ({ target with rotationStyle := style } : Target α).renderedPose.1
    scale := some ({ target with rotationStyle := style } : Target α).renderedPose.2 }
  refine ⟨targets, ?_, renews.count, renews.limit, renews.editing⟩
  intro other same
  obtain rfl := Option.some.inj (found.symm.trans same)
  exact renderer

/-- Nobody gets it who is not there. -/
theorem setRotationStyle_absent (absent : stage.target? id = none) (style : RotationStyle) :
    (stage.setRotationStyle id style).2 = stage := by
  have unknown : ¬stage.contains id = true := by
    rw [contains_eq_isSome, absent]
    exact Bool.false_ne_true
  rw [setRotationStyle, if_neg unknown]

end Stage

namespace Invocation

variable {invocation : Invocation τ α}

omit [Scalar α] in
/-- Looking up the target of an invocation leaves the stage to what is done with it. -/
theorem stage_onTarget {continue_ : Target α → BlockResult τ α}
    (continues : ∀ target, (continue_ target).2.scheduler.stage = invocation.scheduler.stage) :
    (invocation.onTarget continue_).2.scheduler.stage = invocation.scheduler.stage := by
  unfold onTarget
  split
  case h_1 => exact continues _
  case h_2 => rfl

end Invocation

namespace MotionBlock

variable {invocation : Invocation τ α} {args : Args α}

/-- The style that a block gives its target. -/
def style? (block : MotionBlock) (args : Args α) : Option RotationStyle :=
  match block with
  | .setRotationStyle => RotationStyle.ofName? (args.text "STYLE")
  | _ => none

section Spriteless

variable (spriteless : invocation.scheduler.stage.Spriteless invocation.target)

include spriteless

/-- Where there is no sprite to move, nothing moves. -/
theorem moveTo_spriteless (x y : α) : moveTo invocation x y = invocation := by
  rw [moveTo, Invocation.withStage, spriteless.setPosition]

/-- Where there is no sprite to turn, nothing turns. -/
theorem point_spriteless (angle : α) : point invocation angle = invocation := by
  rw [point, Invocation.withStage, spriteless.setDirection]

/-- A glide that goes on moves nobody, and asks to be invoked again at most. -/
theorem continueGlide_spriteless (args : Args α) :
    (continueGlide args invocation).2.scheduler = invocation.scheduler := by
  unfold continueGlide
  dsimp only
  split
  case isTrue =>
    rw [moveTo_spriteless spriteless]
    rfl
  case isFalse =>
    rw [moveTo_spriteless spriteless]
    rfl

/-- Where there is no sprite to move, a glide leaves the stage as it is. -/
theorem runGlide_spriteless (args : Args α) :
    (runGlide args invocation).2.scheduler.stage = invocation.scheduler.stage := by
  unfold runGlide
  split
  case isTrue =>
    apply Invocation.stage_onTarget
    intro target
    dsimp only
    split
    case isTrue => rfl
    case isFalse =>
      refine congrArg Scheduler.stage (continueGlide_spriteless ?_ args)
      exact spriteless
  case isFalse => exact congrArg Scheduler.stage (continueGlide_spriteless spriteless args)

/-- A motion block that gives no style changes nothing on the stage. -/
theorem run_spriteless {block : MotionBlock} (plain : block.style? args = none) :
    (block.run args invocation).2.scheduler.stage = invocation.scheduler.stage := by
  have moved : ∀ x y, (moveTo invocation x y).finish.2.scheduler.stage =
      invocation.scheduler.stage := by
    intro x y
    rw [moveTo_spriteless spriteless]
    rfl
  have pointed : ∀ angle, (point invocation angle).finish.2.scheduler.stage =
      invocation.scheduler.stage := by
    intro angle
    rw [point_spriteless spriteless]
    rfl
  cases block with
  | moveSteps => exact Invocation.stage_onTarget fun target => moved _ _
  | goTo => exact moved _ _
  | glide => exact runGlide_spriteless spriteless args
  | turnRight => exact Invocation.stage_onTarget fun target => pointed _
  | turnLeft => exact Invocation.stage_onTarget fun target => pointed _
  | pointInDirection => exact pointed _
  | changeX => exact Invocation.stage_onTarget fun target => moved _ _
  | setX => exact Invocation.stage_onTarget fun target => moved _ _
  | changeY => exact Invocation.stage_onTarget fun target => moved _ _
  | setY => exact Invocation.stage_onTarget fun target => moved _ _
  | setRotationStyle =>
    have unknown : RotationStyle.ofName? (args.text "STYLE") = none := plain
    rw [run, runSetRotationStyle, unknown]
    rfl
  | _ => exact Invocation.stage_onTarget fun target => rfl

end Spriteless

/-- A motion block that gives a style gives it to its target and does nothing else to the
stage. -/
theorem run_styles {block : MotionBlock} {style : RotationStyle}
    (styles : block.style? args = some style) :
    (block.run args invocation).2.scheduler.stage =
      (invocation.scheduler.stage.setRotationStyle invocation.target style).2 := by
  cases block with
  | setRotationStyle =>
    have known : RotationStyle.ofName? (args.text "STYLE") = some style := styles
    rw [run, runSetRotationStyle, known]
    rfl
  | _ => cases styles

end MotionBlock

/-- An opcode of the motion package names the same block in every registry that knows it. -/
theorem Registry.block_of_motion {registry : Registry} {opcode : String} {motion block : Block}
    (offered : (opcode, motion) ∈ Package.motion.blocks)
    (known : registry.block? opcode = some block) : block = motion := by
  obtain ⟨package, -, entry⟩ := exists_of_block known
  have alone : ∀ package : Package, ∀ entry ∈ package.blocks, ∀ own ∈ Package.motion.blocks,
      entry.1 = own.1 → entry.2 = own.2 := by
    intro package
    cases package <;> decide
  exact alone package _ entry _ offered rfl

end SpriteMachine
