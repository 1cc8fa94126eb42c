import SpriteMachine.Proofs.Block.Effect
import SpriteMachine.Proofs.Scheduler.Devices

/-!
# Blocks and the devices

Blocks read the devices. The only block that changes them is the one that resets the timer.
-/

namespace SpriteMachine

variable {τ α : Type} {invocation : Invocation τ α}

namespace Invocation

/-- Looking up the target of an invocation leaves the devices to what is done with it. -/
theorem devices_onTarget {continue_ : Target α → BlockResult τ α}
    (continues : ∀ target,
      (continue_ target).2.scheduler.devices = invocation.scheduler.devices) :
    (invocation.onTarget continue_).2.scheduler.devices = invocation.scheduler.devices := by
  unfold onTarget
  split
  case h_1 => exact continues _
  case h_2 => rfl

variable [Scalar α]

/-- A wait leaves the devices as they are. -/
theorem devices_waitFor (invocation : Invocation τ α) (seconds : α) :
    (invocation.waitFor seconds).2.scheduler.devices = invocation.scheduler.devices := by
  unfold waitFor
  dsimp only
  split <;> rfl

variable [Transport τ α]

/-- Removing the clone a block runs for leaves the devices as they are. -/
theorem devices_disposeThisClone (invocation : Invocation τ α) :
    invocation.disposeThisClone.2.scheduler.devices = invocation.scheduler.devices := by
  rw [disposeThisClone_left]
  exact Scheduler.devices_disposeClone invocation.scheduler invocation.target

omit [Scalar α] in
/-- Starting hats leaves the devices as they are. -/
theorem devices_startHats (invocation : Invocation τ α) (hat : String) (filter : HatFilter) :
    (invocation.startHats hat filter).2.scheduler.devices = invocation.scheduler.devices := by
  rw [startHats_left]
  exact Scheduler.devices_startHats invocation.scheduler hat filter

omit [Scalar α] in
/-- Waiting for hats leaves the devices as they are. -/
theorem devices_awaitHats (invocation : Invocation τ α) (hat : String) (filter : HatFilter) :
    (invocation.awaitHats hat filter).2.scheduler.devices = invocation.scheduler.devices := by
  have started := devices_startHats invocation hat filter
  unfold awaitHats
  dsimp only
  split
  case isTrue =>
    split
    case h_1 result =>
      rw [result] at started
      exact started
    case h_2 result =>
      rw [result] at started
      split <;> exact started
  case isFalse => split <;> rfl

end Invocation

variable [Scalar α]

section Confined

/-- A glide that goes on leaves the devices as they are. -/
theorem MotionBlock.devices_continueGlide (args : Args α) (invocation : Invocation τ α) :
    (continueGlide args invocation).2.scheduler.devices = invocation.scheduler.devices := by
  unfold continueGlide
  dsimp only
  split <;> rfl

/-- No motion block touches the devices. -/
theorem MotionBlock.devices_run (block : MotionBlock) (args : Args α)
    (invocation : Invocation τ α) :
    (block.run args invocation).2.scheduler.devices = invocation.scheduler.devices := by
  cases block with
  | goTo => rfl
  | pointInDirection => rfl
  | glide =>
    change (runGlide args invocation).2.scheduler.devices = _
    unfold runGlide
    split
    case isTrue =>
      refine Invocation.devices_onTarget fun target => ?_
      dsimp only
      split
      case isTrue => rfl
      case isFalse => exact devices_continueGlide args _
    case isFalse => exact devices_continueGlide args invocation
  | setRotationStyle =>
    change (runSetRotationStyle args invocation).2.scheduler.devices = _
    unfold runSetRotationStyle
    dsimp only
    split <;> rfl
  | _ => exact Invocation.devices_onTarget fun target => rfl

/-- A bubble shown for a time leaves the devices as they are. -/
theorem LooksBlock.devices_runTimedBubble (kind : BubbleKind) (args : Args α)
    (invocation : Invocation τ α) :
    (runTimedBubble kind args invocation).2.scheduler.devices = invocation.scheduler.devices := by
  have waited := Invocation.devices_waitFor invocation (args.number "SECS")
  unfold runTimedBubble
  dsimp only
  split
  case isTrue => rfl
  case isFalse =>
    split
    case h_1 result =>
      rw [result] at waited
      refine Eq.trans ?_ waited
      unfold clearBubble
      split <;> rfl
    case h_2 result =>
      rw [result] at waited
      exact waited

/-- No looks block touches the devices. -/
theorem LooksBlock.devices_run (block : LooksBlock) (args : Args α)
    (invocation : Invocation τ α) :
    (block.run args invocation).2.scheduler.devices = invocation.scheduler.devices := by
  cases block with
  | sayForSeconds => exact devices_runTimedBubble .say args invocation
  | thinkForSeconds => exact devices_runTimedBubble .think args invocation
  | changeSize => exact Invocation.devices_onTarget fun target => rfl
  | size => exact Invocation.devices_onTarget fun target => rfl
  | nextCostume => exact Invocation.devices_onTarget fun target => rfl
  | costumeNumber => exact Invocation.devices_onTarget fun target => rfl
  | changeEffect => exact Invocation.devices_onTarget fun target => rfl
  | switchCostume =>
    change (runSwitchCostume args invocation).2.scheduler.devices = _
    unfold runSwitchCostume
    dsimp only
    split <;> rfl
  | goToFrontBack =>
    change (runGoToFrontBack args invocation).2.scheduler.devices = _
    unfold runGoToFrontBack
    split <;> rfl
  | _ => rfl

/-- Of the sensing blocks only the one that resets the timer touches the devices. -/
theorem SensingBlock.devices_run {block : SensingBlock} (keeps : block ≠ .resetTimer)
    (args : Args α) (invocation : Invocation τ α) :
    (block.run args invocation).2.scheduler.devices = invocation.scheduler.devices := by
  cases block with
  | resetTimer => exact absurd rfl keeps
  | touchingObject => exact Invocation.devices_onTarget fun target => rfl
  | distanceTo =>
    refine Invocation.devices_onTarget fun target => ?_
    split
    case isTrue => rfl
    case isFalse => split <;> rfl
  | attributeOf =>
    simp only [SensingBlock.run]
    split <;> rfl
  | _ => rfl

end Confined

variable [Transport τ α]

/-- No control block touches the devices. -/
theorem ControlBlock.devices_run (block : ControlBlock) (args : Args α)
    (invocation : Invocation τ α) :
    (block.run args invocation).2.scheduler.devices = invocation.scheduler.devices := by
  cases block with
  | wait =>
    change (runWait args invocation).2.scheduler.devices = _
    unfold runWait
    dsimp only
    split
    case isTrue => rfl
    case isFalse => exact Invocation.devices_waitFor invocation _
  | stop =>
    change (runStop args invocation).2.scheduler.devices = _
    unfold runStop
    split
    case h_1 => exact Scheduler.devices_stopAll _
    case h_2 => exact Scheduler.devices_stopThread _ _
    case h_3 => exact Scheduler.devices_stopForTarget _ _ _
    case h_4 => exact Scheduler.devices_stopForTarget _ _ _
    case h_5 => rfl
  | createClone =>
    change (runCreateClone args invocation).2.scheduler.devices = _
    cases named : cloneSource? args invocation with
    | none =>
      rw [runCreateClone, named]
      rfl
    | some source =>
      rw [runCreateClone_left named]
      exact Scheduler.devices_makeClone invocation.scheduler source
  | deleteClone => exact Invocation.devices_disposeThisClone invocation

/-- No event block touches the devices. -/
theorem EventBlock.devices_run (block : EventBlock) (args : Args α)
    (invocation : Invocation τ α) :
    (block.run args invocation).2.scheduler.devices = invocation.scheduler.devices := by
  cases block with
  | broadcast =>
    rw [broadcast_left]
    exact Invocation.devices_startHats invocation _ _
  | broadcastAndWait =>
    rw [broadcastAndWait_left]
    exact Invocation.devices_awaitHats invocation _ _

namespace ProcedureBlock

omit [Scalar α] [Transport τ α] in
/-- Collecting the values of callees leaves the devices as they are. -/
theorem devices_collect (found : Option (Value α)) (callees : List ThreadId)
    (invocation : Invocation τ α) :
    (collect invocation found callees).2.scheduler.devices = invocation.scheduler.devices := by
  induction callees generalizing invocation found with
  | nil => rfl
  | cons first rest inductionHypothesis => exact inductionHypothesis _ _

/-- No procedure block touches the devices. -/
theorem devices_run (block : ProcedureBlock) (args : Args α) (invocation : Invocation τ α) :
    (block.run args invocation).2.scheduler.devices = invocation.scheduler.devices := by
  have awaited : ∀ hat,
      (callUnder hat args invocation).2.scheduler.devices = invocation.scheduler.devices :=
    fun hat => Invocation.devices_awaitHats invocation hat _
  cases block with
  | call =>
    rw [call_left]
    exact awaited procedureHat
  | callForValue =>
    have called := awaited reportingProcedureHat
    unfold ProcedureBlock.run
    dsimp only
    split
    case h_1 result =>
      rw [result] at called
      exact called
    case h_2 result =>
      rw [result] at called
      exact called
    case h_3 result =>
      rw [result] at called
      exact (devices_collect none _ _).trans called
  | report => exact Scheduler.devices_stopThread _ _

end ProcedureBlock

/-- No probe touches the devices. -/
theorem ProbeBlock.devices_run (block : ProbeBlock) (args : Args α)
    (invocation : Invocation τ α) :
    (block.run args invocation).2.scheduler.devices = invocation.scheduler.devices := by
  cases block with
  | yieldTimes =>
    change (runYieldTimes args invocation).2.scheduler.devices = _
    unfold runYieldTimes
    dsimp only
    split <;> rfl
  | fail =>
    change (runFail args invocation).2.scheduler.devices = _
    unfold runFail
    split
    case isTrue => rfl
    case isFalse => split <;> rfl
  | later =>
    change (runLater args invocation).2.scheduler.devices = _
    unfold runLater
    split
    case isTrue => rfl
    case isFalse =>
      split
      case h_1 => exact Scheduler.devices_stopAll _
      case h_2 => exact Scheduler.devices_stopForTarget _ _ _
      case h_3 => exact Scheduler.devices_stopThread _ _
      case h_4 => exact Invocation.devices_disposeThisClone invocation
      case h_5 => rfl
      case h_6 => rfl
      case h_7 => rfl
      case h_8 => rfl
  | start =>
    change (runStart args invocation).2.scheduler.devices = _
    rw [runStart_left]
    exact Invocation.devices_startHats invocation _ _
  | _ => rfl

/-- Every block but one leaves the devices alone. -/
theorem Block.devices_run {block : Block} (keeps : block ≠ .sensing .resetTimer) (args : Args α)
    (invocation : Invocation τ α) :
    (block.run args invocation).2.scheduler.devices = invocation.scheduler.devices := by
  cases block with
  | event block => exact block.devices_run args invocation
  | control block => exact block.devices_run args invocation
  | motion block => exact block.devices_run args invocation
  | looks block => exact block.devices_run args invocation
  | sensing block =>
    refine SensingBlock.devices_run ?_ args invocation
    exact fun resets => keeps (congrArg Block.sensing resets)
  | procedure block => exact block.devices_run args invocation
  | motor block => rfl
  | probe block => exact block.devices_run args invocation
  | overriddenSay => rfl

/-- That one resets the clock. -/
theorem SensingBlock.devices_resetTimer (args : Args α) (invocation : Invocation τ α) :
    ((Block.sensing .resetTimer).run args invocation).2.scheduler.devices =
      { invocation.scheduler.devices with
        clock := invocation.scheduler.devices.clock.reset } := rfl

end SpriteMachine
