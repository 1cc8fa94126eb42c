import SpriteMachine.Block.Run
import SpriteMachine.Proofs.Stage

/-!
# Blocks that do little

Motion, looks, sensing and motor blocks renew targets in place or move devices and motors, and
leave all else alone: threads, worker, scripts, names and notices. Only gliding and bubbles
that stand for a time ask to be invoked again.

The blocks that do more hand the scheduler on to one of its own operations. What they leave of
an invocation is told first, whatever that operation answers.
-/

namespace SpriteMachine

variable {τ α : Type}

/-! ## What is left of an invocation -/

section Left

variable [Transport τ α]

/-- Starting hats leaves an invocation with the scheduler that started them. -/
theorem Invocation.startHats_left (invocation : Invocation τ α) (hat : String)
    (filter : HatFilter) : (invocation.startHats hat filter).2 =
      { invocation with scheduler := (invocation.scheduler.startHats hat filter).2 } := by
  unfold startHats
  split
  case h_1 result => rw [result]
  case h_2 result => rw [result]

variable [Scalar α]

/-- Removing the clone it runs for leaves an invocation with the scheduler that removed it. -/
theorem Invocation.disposeThisClone_left (invocation : Invocation τ α) :
    invocation.disposeThisClone.2 = { invocation with
      scheduler := (invocation.scheduler.disposeClone invocation.target).2 } := by
  unfold disposeThisClone
  split
  case h_1 result => rw [result]
  case h_2 result => rw [result]

/-- Making a clone leaves an invocation with the scheduler that made it. -/
theorem ControlBlock.runCreateClone_left {args : Args α} {invocation : Invocation τ α}
    {source : TargetId} (named : cloneSource? args invocation = some source) :
    (runCreateClone args invocation).2 =
      { invocation with scheduler := (invocation.scheduler.makeClone source).2 } := by
  unfold runCreateClone
  rw [named]
  dsimp only
  split
  case h_1 result => rw [result]; rfl
  case h_2 result => rw [result]; rfl
  case h_3 result => rw [result]; rfl

/-- A broadcast does what starting its hats does. -/
theorem EventBlock.broadcast_left (args : Args α) (invocation : Invocation τ α) :
    (EventBlock.broadcast.run args invocation).2 = (invocation.startHats broadcastHat
      ⟨some (args.text "BROADCAST_OPTION"), none⟩).2 := by
  unfold EventBlock.run
  dsimp only
  split
  case h_1 result => rw [result]; rfl
  case h_2 result => rw [result]; rfl

/-- A broadcast that waits does what awaiting its hats does. -/
theorem EventBlock.broadcastAndWait_left (args : Args α) (invocation : Invocation τ α) :
    (EventBlock.broadcastAndWait.run args invocation).2 = (invocation.awaitHats broadcastHat
      ⟨some (args.text "BROADCAST_OPTION"), none⟩).2 := by
  unfold EventBlock.run
  dsimp only
  split
  case h_1 result => rw [result]; rfl
  case h_2 result => rw [result]; rfl

/-- A call of a procedure does what calling its definitions does. -/
theorem ProcedureBlock.call_left (args : Args α) (invocation : Invocation τ α) :
    (ProcedureBlock.call.run args invocation).2 =
      (callUnder procedureHat args invocation).2 := by
  unfold ProcedureBlock.run
  dsimp only
  split
  case h_1 result => rw [result]; rfl
  case h_2 result => rw [result]; rfl

/-- The probe that starts hats does what starting them does. -/
theorem ProbeBlock.runStart_left (args : Args α) (invocation : Invocation τ α) :
    (runStart args invocation).2 = (invocation.startHats (args.text "HAT")
      ⟨(args.find? "OPTION").map fun _ => args.text "OPTION",
        (args.find? "TARGET").map fun _ => TargetId.mk (args.text "TARGET")⟩).2 := by
  unfold runStart
  dsimp only
  split
  case h_1 result => rw [result]; rfl
  case h_2 result => rw [result]; rfl

end Left

/-! ## Blocks that touch stage, devices and motors only -/

/-- What a block makes of it that touches stage, devices and motors only. -/
structure Local (before after : Invocation τ α) : Prop where
  scheduler : ∃ stage devices motors, Stage.Renews before.scheduler.stage stage ∧
    after.scheduler =
      { before.scheduler with stage := stage, devices := devices, motors := motors }
  thread : after.thread = before.thread
  target : after.target = before.target
  opcode : after.frame.opcode = before.frame.opcode
  args : after.frame.args = before.frame.args
  token : after.frame.token = before.frame.token
  state : after.frame.state = before.frame.state
  spawned : after.frame.notes.spawned = before.frame.notes.spawned

/-- Such a block that does not ask to be invoked again. -/
structure Swift (before after : Invocation τ α) : Prop extends Local before after where
  yielded : after.yielded = before.yielded

namespace Local

variable {first second third invocation : Invocation τ α}

/-- A block that does nothing is local. -/
theorem refl (invocation : Invocation τ α) : Local invocation invocation :=
  ⟨⟨_, _, _, .refl _, rfl⟩, rfl, rfl, rfl, rfl, rfl, rfl, rfl⟩

/-- What is local twice is local. -/
theorem trans (before : Local first second) (after : Local second third) : Local first third where
  scheduler := by
    obtain ⟨stage, devices, motors, renews, same⟩ := before.scheduler
    obtain ⟨later, afterDevices, afterMotors, renewsLater, sameLater⟩ := after.scheduler
    rw [same] at renewsLater sameLater
    exact ⟨later, afterDevices, afterMotors, renews.trans renewsLater, sameLater⟩
  thread := after.thread.trans before.thread
  target := after.target.trans before.target
  opcode := after.opcode.trans before.opcode
  args := after.args.trans before.args
  token := after.token.trans before.token
  state := after.state.trans before.state
  spawned := after.spawned.trans before.spawned

/-- A block that notes something else than a thread. -/
theorem withNotes {change : FrameNotes α → FrameNotes α}
    (kept : ∀ notes, (change notes).spawned = notes.spawned) :
    Local invocation (invocation.withNotes change) :=
  ⟨⟨_, _, _, .refl _, rfl⟩, rfl, rfl, rfl, rfl, rfl, rfl, kept _⟩

/-- Asking to be invoked again is local. -/
theorem yieldThread : Local invocation invocation.yieldThread :=
  ⟨⟨_, _, _, .refl _, rfl⟩, rfl, rfl, rfl, rfl, rfl, rfl, rfl⟩

section Timing

variable [Scalar α]

/-- A deadline is noted in the frame only. -/
theorem setDeadline (invocation : Invocation τ α) (seconds : α) :
    Local invocation (invocation.setDeadline seconds) :=
  withNotes fun _ => rfl

/-- A wait notes its deadline and asks to be invoked again. -/
theorem waitFor (invocation : Invocation τ α) (seconds : α) :
    Local invocation (invocation.waitFor seconds).2 := by
  unfold Invocation.waitFor
  dsimp only
  split
  case isTrue =>
    refine trans (withNotes ?_) yieldThread
    exact fun _ => rfl
  case isFalse =>
    dsimp only
    exact withNotes fun _ => rfl

end Timing

/-- Looking up the target of an invocation is as local as what is done with it. -/
theorem onTarget {continue_ : Target α → BlockResult τ α}
    (continues : ∀ target, Local invocation (continue_ target).2) :
    Local invocation (invocation.onTarget continue_).2 := by
  unfold Invocation.onTarget
  split
  case h_1 => exact continues _
  case h_2 => exact refl invocation

end Local

namespace Swift

variable {invocation : Invocation τ α}

/-- A block that does nothing does not ask to be invoked again. -/
theorem refl (invocation : Invocation τ α) : Swift invocation invocation := ⟨.refl invocation, rfl⟩

/-- A block that changes the stage only. -/
theorem ofStage {stage : Stage α} (renews : Stage.Renews invocation.scheduler.stage stage) :
    Swift invocation { invocation with
      scheduler := { invocation.scheduler with stage := stage } } :=
  ⟨⟨⟨_, _, _, renews, rfl⟩, rfl, rfl, rfl, rfl, rfl, rfl, rfl⟩, rfl⟩

/-- Looking up the target of an invocation is as swift as what is done with it. -/
theorem onTarget {continue_ : Target α → BlockResult τ α}
    (continues : ∀ target, Swift invocation (continue_ target).2) :
    Swift invocation (invocation.onTarget continue_).2 := by
  unfold Invocation.onTarget
  split
  case h_1 => exact continues _
  case h_2 => exact refl invocation

end Swift

variable [Scalar α]

/-! ## Motion -/

namespace MotionBlock

variable {invocation : Invocation τ α}

/-- Moving a target takes one invocation. -/
theorem moveTo_swift (x y : α) : Swift invocation (moveTo invocation x y) :=
  .ofStage (.setPosition _ _ _ _ _)

/-- Turning a target takes one invocation. -/
theorem point_swift (angle : α) : Swift invocation (point invocation angle) :=
  .ofStage (.setDirection _ _ _)

/-- A glide that goes on moves its target and may ask to be invoked again. -/
theorem continueGlide_local (args : Args α) :
    Local invocation (continueGlide args invocation).2 := by
  unfold continueGlide
  dsimp only
  split
  case isTrue => exact (moveTo_swift _ _).toLocal.trans .yieldThread
  case isFalse => exact (moveTo_swift _ _).toLocal

/-- A glide notes its start, moves its target and may ask to be invoked again. -/
theorem runGlide_local (args : Args α) : Local invocation (runGlide args invocation).2 := by
  unfold runGlide
  split
  case isTrue =>
    refine .onTarget fun target => ?_
    dsimp only
    have noted : Local invocation ((invocation.setDeadline
        (Scalar.maximum (args.number "SECS") Scalar.zero)).withNotes fun notes =>
          { notes with scratch := some (.list
            [.ofScalar target.x, .ofScalar target.y, .ofScalar invocation.now]) }) :=
      (Local.setDeadline _ _).trans (.withNotes fun _ => rfl)
    split
    case isTrue => exact noted.trans .yieldThread
    case isFalse => exact noted.trans (continueGlide_local args)
  case isFalse => exact continueGlide_local args

/-- Choosing a rotation style takes one invocation. -/
theorem runSetRotationStyle_swift (args : Args α) :
    Swift invocation (runSetRotationStyle args invocation).2 := by
  unfold runSetRotationStyle
  dsimp only
  split
  case h_1 => exact .ofStage (.setRotationStyle _ _ _)
  case h_2 => exact .refl invocation

/-- All motion but gliding is done at once. -/
theorem run_swift {block : MotionBlock} (prompt : block ≠ .glide) (args : Args α) :
    Swift invocation (block.run args invocation).2 := by
  cases block with
  | moveSteps => exact .onTarget fun _ => moveTo_swift _ _
  | goTo => exact moveTo_swift _ _
  | glide => exact absurd rfl prompt
  | turnRight => exact .onTarget fun _ => point_swift _
  | turnLeft => exact .onTarget fun _ => point_swift _
  | pointInDirection => exact point_swift _
  | changeX => exact .onTarget fun _ => moveTo_swift _ _
  | setX => exact .onTarget fun _ => moveTo_swift _ _
  | changeY => exact .onTarget fun _ => moveTo_swift _ _
  | setY => exact .onTarget fun _ => moveTo_swift _ _
  | setRotationStyle => exact runSetRotationStyle_swift args
  | _ => exact .onTarget fun _ => .refl invocation

/-- Every motion block is local. -/
theorem run_local (block : MotionBlock) (args : Args α) :
    Local invocation (block.run args invocation).2 := by
  by_cases glides : block = .glide
  · subst glides
    exact runGlide_local args
  · exact (run_swift glides args).toLocal

end MotionBlock

/-! ## Looks -/

namespace LooksBlock

variable {invocation : Invocation τ α}

omit [Scalar α] in
/-- Showing a bubble takes one invocation. -/
theorem showBubble_swift (kind : BubbleKind) (text : String) :
    Swift invocation (showBubble invocation kind text) :=
  .ofStage (.setBubble _ _ _)

omit [Scalar α] in
/-- Clearing a bubble takes one invocation, whether or not it is the one that is shown. -/
theorem clearBubble_swift (kind : BubbleKind) (text : String) :
    Swift invocation (clearBubble invocation kind text) := by
  unfold clearBubble
  split
  case isTrue => exact .ofStage (.setBubble _ _ _)
  case isFalse => exact .refl invocation

/-- A timed bubble shows and clears its text and may ask to be invoked again. -/
theorem runTimedBubble_local (kind : BubbleKind) (args : Args α) :
    Local invocation (runTimedBubble kind args invocation).2 := by
  have waits := Local.waitFor invocation (args.number "SECS")
  unfold runTimedBubble
  dsimp only
  split
  case isTrue =>
    exact (showBubble_swift kind _).toLocal.trans ((Local.setDeadline _ _).trans .yieldThread)
  case isFalse =>
    split
    case h_1 left result =>
      rw [result] at waits
      exact waits.trans (clearBubble_swift kind _).toLocal
    case h_2 left result =>
      rw [result] at waits
      exact waits

/-- Setting a size takes one invocation. -/
theorem setSizeTo_swift (size : α) : Swift invocation (setSizeTo size invocation).2 :=
  .ofStage (.setSize _ _ _)

omit [Scalar α] in
/-- Putting on a costume takes one invocation. -/
theorem setCostume_swift (number : Int) : Swift invocation (setCostume number invocation).2 :=
  .ofStage ((Stage.Renews.mark _ _).trans (.setCostume _ _ _))

/-- Setting an effect takes one invocation. -/
theorem setEffectTo_swift (name : String) (strength : α) :
    Swift invocation (setEffectTo name strength invocation).2 :=
  .ofStage (.setEffect _ _ _ _)

omit [Scalar α] in
/-- Moving a drawable to another layer takes one invocation. -/
theorem setLayer_swift (position : Int) (relative : Bool) :
    Swift invocation (setLayer position relative invocation).2 :=
  .ofStage ((Stage.Renews.mark _ _).trans (.setLayerOrder _ _ _ _))

/-- Switching the costume takes one invocation, by name or by number. -/
theorem runSwitchCostume_swift (args : Args α) :
    Swift invocation (runSwitchCostume args invocation).2 := by
  unfold runSwitchCostume
  dsimp only
  split
  case isTrue => exact setCostume_swift _
  case isFalse => exact .refl invocation

/-- Going to the front or the back takes one invocation. -/
theorem runGoToFrontBack_swift (args : Args α) :
    Swift invocation (runGoToFrontBack args invocation).2 := by
  unfold runGoToFrontBack
  split
  case h_1 => exact setLayer_swift _ _
  case h_2 => exact setLayer_swift _ _
  case h_3 => exact .refl invocation

/-- A bubble that stands for a time. -/
def IsTimed : LooksBlock → Prop
  | .sayForSeconds => True
  | .thinkForSeconds => True
  | _ => False

/-- All looks but timed bubbles are done at once. -/
theorem run_swift {block : LooksBlock} (prompt : ¬ block.IsTimed) (args : Args α) :
    Swift invocation (block.run args invocation).2 := by
  cases block with
  | say => exact showBubble_swift _ _
  | think => exact showBubble_swift _ _
  | sayForSeconds => exact absurd trivial prompt
  | thinkForSeconds => exact absurd trivial prompt
  | showTarget => exact .ofStage (.setVisible _ _ _)
  | hideTarget => exact .ofStage (.setVisible _ _ _)
  | setSize => exact setSizeTo_swift _
  | changeSize => exact .onTarget fun _ => setSizeTo_swift _
  | size => exact .onTarget fun _ => .refl invocation
  | switchCostume => exact runSwitchCostume_swift args
  | nextCostume => exact .onTarget fun _ => setCostume_swift _
  | costumeNumber => exact .onTarget fun _ => .refl invocation
  | setEffect => exact setEffectTo_swift _ _
  | changeEffect => exact .onTarget fun _ => setEffectTo_swift _ _
  | clearEffects => exact .ofStage (.clearEffects _ _)
  | goToFrontBack => exact runGoToFrontBack_swift args
  | goForwardBackward => exact setLayer_swift _ _

/-- Every looks block is local. -/
theorem run_local (block : LooksBlock) (args : Args α) :
    Local invocation (block.run args invocation).2 := by
  cases block with
  | sayForSeconds => exact runTimedBubble_local _ args
  | thinkForSeconds => exact runTimedBubble_local _ args
  | _ =>
    refine (run_swift ?_ args).toLocal
    exact fun timed => timed

end LooksBlock

/-! ## Sensing, motors and control -/

/-- Every sensing block takes one invocation. -/
theorem SensingBlock.run_swift (block : SensingBlock) (args : Args α)
    (invocation : Invocation τ α) : Swift invocation (block.run args invocation).2 := by
  cases block with
  | resetTimer => exact ⟨⟨⟨_, _, _, .refl _, rfl⟩, rfl, rfl, rfl, rfl, rfl, rfl, rfl⟩, rfl⟩
  | touchingObject => exact .onTarget fun _ => .refl invocation
  | distanceTo =>
    refine .onTarget fun target => ?_
    split
    case isTrue => exact .refl invocation
    case isFalse => split <;> exact .refl invocation
  | attributeOf =>
    simp only [SensingBlock.run]
    split <;> exact .refl invocation
  | _ => exact .refl invocation

/-- Every motor block takes one invocation. -/
theorem MotorBlock.run_swift [Transport τ α] (block : MotorBlock) (args : Args α)
    (invocation : Invocation τ α) :
    Swift invocation (block.run args invocation).2 :=
  ⟨⟨⟨_, _, _, .refl _, rfl⟩, rfl, rfl, rfl, rfl, rfl, rfl, rfl⟩, rfl⟩

/-! ## All blocks that are done at once -/

/-- All motion but gliding, all looks but timed bubbles, sensing and motors: blocks that neither
ask to be invoked again nor start or stop threads. -/
def Block.IsSwift : Block → Prop
  | .motion block => block ≠ .glide
  | .looks block => ¬ block.IsTimed
  | .sensing _ => True
  | .motor _ => True
  | _ => False

/-- An opcode names such a block. -/
def Registry.OffersSwift (registry : Registry) (opcode : String) : Prop :=
  ∃ block, registry.block? opcode = some block ∧ block.IsSwift

/-- A swift block takes one invocation. -/
theorem Block.run_swift [Transport τ α] {block : Block} (swift : block.IsSwift) (args : Args α)
    (invocation : Invocation τ α) : Swift invocation (block.run args invocation).2 := by
  cases block with
  | motion block => exact MotionBlock.run_swift swift args
  | looks block => exact LooksBlock.run_swift swift args
  | sensing block => exact block.run_swift args invocation
  | motor block => exact block.run_swift args invocation
  | _ => exact swift.elim

end SpriteMachine
