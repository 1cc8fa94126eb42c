import Mathlib.Algebra.Order.Floor.Ring
import Mathlib.Data.Rat.Floor
import Mathlib.Tactic.Linarith
import SpriteMachine.Block.Motion
import SpriteMachine.Number.Exact
import SpriteMachine.Proofs.Stage.Ranges

/-!
# Where targets look

A direction is the angle that was asked for, turned by whole turns. The range into which it is
turned begins at -179 and is one full circle long, so it ends just below 181: an angle between
180 and 181 stays as it is, and every other one comes to lie at 180 or below. With exact
arithmetic this holds of every target of a stage, however the target was made and turned.
-/

namespace SpriteMachine

namespace Target

/-- An angle is turned by as many whole turns as bring it behind -179. -/
theorem wrapDirection_eq (angle : Rat) :
    wrapDirection angle = angle - ⌊(angle + 179) / 360⌋ * 360 := by
  have range : ((180 : Int) : Rat) - ((-179 : Int) : Rat) + ((1 : Int) : Rat) = 360 := by norm_num
  change angle - ((angle - ((-179 : Int) : Rat)) / (((180 : Int) : Rat) - ((-179 : Int) : Rat) +
    ((1 : Int) : Rat))).floor * (((180 : Int) : Rat) - ((-179 : Int) : Rat) + ((1 : Int) : Rat)) = _
  rw [range]
  norm_num
  rfl

/-- The directions make up one full circle, from -179 to just below 181. -/
theorem wrapDirection_range (angle : Rat) :
    -179 ≤ wrapDirection angle ∧ wrapDirection angle < 181 := by
  have below := Int.floor_le ((angle + 179) / 360)
  have above := Int.lt_floor_add_one ((angle + 179) / 360)
  rw [wrapDirection_eq]
  constructor <;> linarith

/-- A direction is the angle up to whole turns. -/
theorem wrapDirection_turns (angle : Rat) :
    ∃ turns : Int, wrapDirection angle = angle + 360 * turns :=
  ⟨-⌊(angle + 179) / 360⌋, by rw [wrapDirection_eq]; push_cast; ring⟩

/-- Only one turn of an angle is a direction. -/
theorem eq_wrapDirection {angle turned : Rat} (low : -179 ≤ turned) (high : turned < 181)
    {turns : Int} (same : turned = angle + 360 * turns) : turned = wrapDirection angle := by
  have whole : ⌊(angle + 179) / 360⌋ = -turns := by
    rw [Int.floor_eq_iff]
    push_cast
    constructor <;> linarith
  rw [wrapDirection_eq, whole, same]
  push_cast
  ring

/-- A direction is beyond 180 just when the angle looks between 180 and 181. -/
theorem wrapDirection_le_iff (angle : Rat) : wrapDirection angle ≤ 180 ↔
    ∀ turns : Int, ¬(180 < angle + 360 * turns ∧ angle + 360 * turns < 181) := by
  refine ⟨fun low turns between => ?_, fun outside => ?_⟩
  · have same : angle + 360 * turns = wrapDirection angle :=
      eq_wrapDirection (by linarith) between.2 rfl
    linarith
  · obtain ⟨turns, same⟩ := wrapDirection_turns angle
    have below := (wrapDirection_range angle).2
    rw [same] at below ⊢
    exact not_lt.mp fun above => outside turns ⟨above, below⟩

/-- The direction of a new sprite needs no turning. -/
theorem wrapDirection_ninety : wrapDirection (90 : Rat) = 90 := by
  have unturned : (90 : Rat) = 90 + 360 * (0 : Int) := by norm_num
  exact (eq_wrapDirection (by norm_num) (by norm_num) unturned).symm

end Target

/-- An operation that brings no target and turns none. -/
def StageOperation.LeavesDirections {α : Type} : StageOperation α → Prop
  | .add _ | .setDirection .. => False
  | _ => True

/-- Only the setter of directions turns a target. -/
theorem Target.Retouched.direction {α : Type} [Scalar α] {operation : StageOperation α}
    {before after : Target α} (retouched : Target.Retouched operation before after)
    (leaves : operation.LeavesDirections) : before.direction = after.direction := by
  cases retouched with
  | drawn same => exact (congrArg Target.direction same).symm
  | turned => exact leaves.elim
  | _ => rfl

namespace Stage

/-- Whoever stands on a stage behind such an operation was there before, and looked in the same
direction. -/
theorem direction_left {α : Type} [Scalar α] {stage : Stage α} {operation : StageOperation α}
    (leaves : operation.LeavesDirections) {id : TargetId} {target : Target α}
    (found : (stage.perform operation).target? id = some target) :
    ∃ was, stage.target? id = some was ∧ was.direction = target.direction := by
  by_cases setter : operation.isSetter = true
  · obtain ⟨was, present, retouched⟩ := (perform_retouches stage setter).earlier found
    exact ⟨was, present, retouched.direction leaves⟩
  · cases operation with
    | add => exact leaves.elim
    | dispose other =>
      rw [perform, target_dispose] at found
      by_cases gone : id = other
      · rw [if_pos gone] at found
        cases found
      · rw [if_neg gone] at found
        exact ⟨target, found, rfl⟩
    | disposeClones =>
      rw [perform, disposeClones, target_disposeAll] at found
      by_cases gone : id ∈ stage.cloneIds
      · rw [if_pos gone] at found
        cases found
      · rw [if_neg gone] at found
        exact ⟨target, found, rfl⟩
    | _ => exact absurd rfl setter

/-- Whoever is added looks where it looked, and so do the others. -/
theorem direction_add {α : Type} [Scalar α] (stage : Stage α) (target : Target α) (id : TargetId) :
    ((stage.add target).target? id).map Target.direction =
      if id = target.id then some target.direction
      else (stage.target? id).map Target.direction := by
  obtain ⟨drawable, joins⟩ := add_vacant (vacant_dispose stage target.id)
  rw [add_eq, joins.find, target_dispose]
  by_cases new : id = target.id
  · rw [if_pos new, if_pos new, Option.map_some]
  · rw [if_neg new, if_neg new, if_neg new]

/-- A setter that takes an angle turns its target and no other; one that does not changes
nothing. -/
theorem target_setDirection {α : Type} [Scalar α] (stage : Stage α) (id : TargetId) (angle : α)
    (other : TargetId) : (stage.setDirection id angle).2.target? other =
      if other = id ∧ (stage.setDirection id angle).1 = true then
        (stage.target? other).map ({ · with direction := Target.wrapDirection angle })
      else stage.target? other := by
  unfold setDirection
  split
  case h_1 => simp
  case h_2 =>
    split
    case isTrue => simp
    case isFalse =>
      rw [target_forwardPose, target_modify]
      simp

end Stage

mutual

/-- A target that was last asked to look at an angle: made of a description, plain, a clone of
such a target, or one that has been on a stage. -/
inductive Target.Asked : Target Rat → Rat → Prop where
  | ofSpec (spec : TargetSpec Rat) : Target.Asked (.ofSpec spec) spec.direction
  | sprite (id : TargetId) (name : String) : Target.Asked (.sprite id name) 90
  | stage (id : TargetId) : Target.Asked (.stage id) 90
  | clone {target : Target Rat} {angle : Rat} (asked : Target.Asked target angle) (id : TargetId) :
      Target.Asked (target.clone id) angle
  | found {stage : Stage Rat} {angles : TargetId → Rat} (pointed : Stage.Pointed stage angles)
      {id : TargetId} {target : Target Rat} {angle : Rat} (found : stage.target? id = some target)
      (last : angles id = angle) : Target.Asked target angle

/-- A stage that operations lead to, with the angles at which its targets were last asked to
look. An angle that a setter does not take was not asked for. -/
inductive Stage.Pointed : Stage Rat → (TargetId → Rat) → Prop where
  | empty (maxClones : Nat) (angles : TargetId → Rat) : Stage.Pointed (.empty maxClones) angles
  | add {stage : Stage Rat} {angles : TargetId → Rat} (pointed : Stage.Pointed stage angles)
      {target : Target Rat} {angle : Rat} (asked : Target.Asked target angle) :
      Stage.Pointed (stage.perform (.add target)) (Function.update angles target.id angle)
  | turn {stage : Stage Rat} {angles : TargetId → Rat} (pointed : Stage.Pointed stage angles)
      (id : TargetId) (angle : Rat) : Stage.Pointed (stage.perform (.setDirection id angle))
        (if (stage.setDirection id angle).1 then Function.update angles id angle else angles)
  | leave {stage : Stage Rat} {angles : TargetId → Rat} (pointed : Stage.Pointed stage angles)
      {operation : StageOperation Rat} (leaves : operation.LeavesDirections) :
      Stage.Pointed (stage.perform operation) angles

end

mutual

/-- A target looks at the angle it was asked to, up to whole turns. -/
theorem Target.Asked.direction {target : Target Rat} {angle : Rat} :
    target.Asked angle → target.direction = Target.wrapDirection angle
  | .ofSpec spec => rfl
  | .sprite id name => Target.wrapDirection_ninety.symm
  | .stage id => Target.wrapDirection_ninety.symm
  | .clone asked id => asked.direction
  | .found pointed found last => last ▸ pointed.direction _ _ found

/-- So do the targets of a stage. -/
theorem Stage.Pointed.direction {stage : Stage Rat} {angles : TargetId → Rat} :
    stage.Pointed angles → ∀ id target, stage.target? id = some target →
      target.direction = Target.wrapDirection (angles id)
  | .empty _ _ => fun _ _ none => by cases none
  | @Stage.Pointed.add stage angles pointed added angle asked => fun id target found => by
    have looks := Stage.direction_add stage added id
    rw [Stage.perform] at found
    rw [found, Option.map_some] at looks
    rw [Function.update_apply]
    split at looks
    case isTrue new =>
      rw [if_pos new, Option.some.inj looks]
      exact asked.direction
    case isFalse other =>
      obtain ⟨was, present, same⟩ := Option.map_eq_some_iff.mp looks.symm
      rw [if_neg other, ← same]
      exact pointed.direction id was present
  | @Stage.Pointed.turn stage angles pointed id angle => fun other target found => by
    rw [Stage.perform, Stage.target_setDirection] at found
    split at found
    case isTrue taken =>
      obtain ⟨rfl, taken⟩ := taken
      obtain ⟨was, -, rfl⟩ := Option.map_eq_some_iff.mp found
      rw [if_pos taken, Function.update_self]
    case isFalse spared =>
      have kept : (if (stage.setDirection id angle).1 then Function.update angles id angle
          else angles) other = angles other := by
        split
        case isTrue taken => exact Function.update_of_ne (fun same => spared ⟨same, taken⟩) _ _
        case isFalse => rfl
      rw [kept]
      exact pointed.direction other target found
  | .leave pointed leaves => fun id target found => by
    obtain ⟨was, present, same⟩ := Stage.direction_left leaves found
    rw [← same]
    exact pointed.direction id was present

end

/-- The angle at which a block asks a target to look that looks in a direction. -/
def MotionBlock.asks {α : Type} [Scalar α] (block : MotionBlock) (args : Args α) (direction : α) :
    Option α :=
  match block with
  | .turnRight => some (direction + args.number "DEGREES")
  | .turnLeft => some (direction - args.number "DEGREES")
  | .pointInDirection => some (args.number "DIRECTION")
  | _ => none

/-- A block that asks its target to look at an angle sets its direction and does nothing else to
the stage. -/
theorem MotionBlock.stage_run {τ α : Type} [Scalar α] {block : MotionBlock} {args : Args α}
    {invocation : Invocation τ α} {target : Target α} {angle : α}
    (found : invocation.target? = some target)
    (asks : block.asks args target.direction = some angle) :
    (block.run args invocation).2.scheduler.stage =
      invocation.scheduler.stage.perform (.setDirection invocation.target angle) := by
  have goesOn : ∀ continue_ : Target α → BlockResult τ α,
      invocation.onTarget continue_ = continue_ target := fun continue_ => by
    rw [Invocation.onTarget, found]
  cases block with
  | turnRight =>
    obtain rfl := Option.some.inj asks
    rw [MotionBlock.run, goesOn]
    rfl
  | turnLeft =>
    obtain rfl := Option.some.inj asks
    rw [MotionBlock.run, goesOn]
    rfl
  | pointInDirection =>
    obtain rfl := Option.some.inj asks
    rfl
  | _ => cases asks

namespace Stage

/-- Directions make up one full turn, which begins at -179 and ends below 181. On every stage that
operations lead to, each target looks at the angle it was last asked to, turned by whole turns into
that range; it looks beyond 180 just when the angle comes to lie between 180 and 181, which no
whole angle does. Turning and pointing blocks ask for angles in the same way. -/
theorem directions_make_one_turn {stage : Stage Rat} {angles : TargetId → Rat}
    (pointed : stage.Pointed angles) :
    (∀ id target, stage.target? id = some target →
      (-179 ≤ target.direction ∧ target.direction < 181) ∧
      (∃ turns : Int, target.direction = angles id + 360 * turns) ∧
      (target.direction ≤ 180 ↔
        ∀ turns : Int, ¬(180 < angles id + 360 * turns ∧ angles id + 360 * turns < 181))) ∧
    ∀ {τ : Type} (invocation : Invocation τ Rat), invocation.scheduler.stage = stage →
      ∀ (block : MotionBlock) args target angle, invocation.target? = some target →
        block.asks args target.direction = some angle →
          (block.run args invocation).2.scheduler.stage.Pointed
            (if (stage.setDirection invocation.target angle).1 then
              Function.update angles invocation.target angle
            else angles) := by
  constructor
  · intro id target found
    rw [pointed.direction id target found]
    exact ⟨Target.wrapDirection_range _, Target.wrapDirection_turns _,
      Target.wrapDirection_le_iff _⟩
  · intro τ invocation here block args target angle found asks
    rw [MotionBlock.stage_run found asks, here]
    exact pointed.turn invocation.target angle

/-- A cat that is described as looking at half a degree behind three turns. -/
def dizzy : TargetSpec Rat where
  id := ⟨"cat"⟩
  name := "Cat"
  isStage := false
  x := 0
  y := 0
  direction := 2161 / 2
  visible := true
  size := 100
  costume := 0
  costumeCount := none
  rotationStyle := .allAround
  memory := .empty

/-- The dizzy cat and a clone of it, which is turned to look down. -/
def dizzyPair : Stage Rat :=
  (((empty defaultMaxClones).perform (.add (.ofSpec dizzy))).perform
    (.add ((Target.ofSpec dizzy).clone ⟨"copy"⟩))).perform (.setDirection ⟨"copy"⟩ (-180))

/-- The clone, asked to look at -180, looks at 180; the cat looks at the half degree that three
turns leave. -/
theorem dizzyPair_turned :
    ∃ angles, dizzyPair.Pointed angles ∧ angles ⟨"cat"⟩ = 2161 / 2 ∧ angles ⟨"copy"⟩ = -180 ∧
      (dizzyPair.target? ⟨"copy"⟩).map Target.direction = some 180 ∧
      ∃ target, dizzyPair.target? ⟨"cat"⟩ = some target ∧ target.direction = 1 / 2 ∧
        (∃ turns : Int, target.direction = 2161 / 2 + 360 * turns) ∧
        ∀ turns : Int, ¬(180 < (2161 / 2 + 360 * turns : Rat) ∧
          (2161 / 2 + 360 * turns : Rat) < 181) := by
  have pointed := (((Pointed.empty defaultMaxClones fun _ => 0).add (.ofSpec dizzy)).add
    (.clone (.ofSpec dizzy) ⟨"copy"⟩)).turn ⟨"copy"⟩ (-180)
  rw [if_pos (show (Stage.setDirection _ _ _).1 = true by decide +kernel)] at pointed
  have looks : (dizzyPair.target? ⟨"cat"⟩).map Target.direction = some (1 / 2) := by
    decide +kernel
  obtain ⟨target, found, direction⟩ := Option.map_eq_some_iff.mp looks
  obtain ⟨-, turned, low⟩ := (directions_make_one_turn pointed).1 _ target found
  refine ⟨_, pointed, rfl, rfl, by decide +kernel, target, found, direction, turned, low.mp ?_⟩
  rw [direction]
  norm_num

/-- A cat is asked to look half a degree beyond 180. -/
def overturned : Stage Rat :=
  ((empty defaultMaxClones).perform (.add (.sprite ⟨"cat"⟩ "Cat"))).perform
    (.setDirection ⟨"cat"⟩ (361 / 2))

/-- The direction stays beyond the end of the range. -/
theorem half_degree_overshoots :
    (∃ angles, overturned.Pointed angles) ∧ ∃ target, overturned.target? ⟨"cat"⟩ = some target ∧
      target.direction = 361 / 2 ∧ ¬ target.direction ≤ 180 := by
  have looks : (overturned.target? ⟨"cat"⟩).map Target.direction = some (361 / 2) := by
    decide +kernel
  obtain ⟨target, found, direction⟩ := Option.map_eq_some_iff.mp looks
  refine ⟨⟨_, ((Pointed.empty _ fun _ => 0).add (.sprite ⟨"cat"⟩ "Cat")).turn ⟨"cat"⟩ _⟩,
    target, found, direction, ?_⟩
  rw [direction]
  norm_num

end Stage

end SpriteMachine
