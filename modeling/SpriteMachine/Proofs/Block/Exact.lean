import SpriteMachine.Proofs.Block.Local
import SpriteMachine.Proofs.Block.Registry
import SpriteMachine.Proofs.Stage.Operation

/-!
# Arithmetic that stays exact

Arithmetic of a stage is done with costume numbers and with places in paint order. As long as
every target wears one of its costumes and a word with a sign counts these, the costume behind
the last one has a number, and the way around is exact. What can overflow then is a costume that
is asked for by its number and a place that is counted from another one. So a script that does
neither never marks the stage, however it moves, turns, scales, dresses and paints its targets.
-/

namespace SpriteMachine

variable {τ α : Type}

namespace Width

/-- A word of 64 bits with a sign holds every number between its bounds. -/
theorem wrap_of_between {number : Int} (low : low64 ≤ number) (high : number ≤ high64) :
    wrap 64 number = number := by
  have least : -9223372036854775808 ≤ number := low
  have greatest : number ≤ 9223372036854775807 := high
  rw [wrap, BitVec.toInt_ofInt, Int.bmod_eq_of_le] <;> omega

/-- So its arithmetic does not overflow there. -/
theorem holds_of_between {number : Int} (low : low64 ≤ number) (high : number ≤ high64) :
    holds 64 number = true := by
  rw [holds, wrap_of_between low high]
  exact decide_eq_true rfl

end Width

/-- A target wears one of its costumes, and a word with a sign counts them. -/
structure Target.Counts (target : Target α) : Prop where
  costume : target.costume < target.costumeCount
  countable : (target.costumeCount : Int) ≤ Width.high64

namespace Target.Counts

variable {target other : Target α}

/-- Only the costumes matter. -/
theorem congr (counts : target.Counts) (costume : other.costume = target.costume)
    (count : other.costumeCount = target.costumeCount) : other.Counts :=
  ⟨costume ▸ count ▸ counts.costume, count ▸ counts.countable⟩

/-- A drawable is no costume. -/
theorem of_undrawn (counts : target.Counts) (same : other.undrawn = target.undrawn) :
    other.Counts :=
  counts.congr (congrArg (fun target => target.costume) same)
    (congrArg (fun target => target.costumeCount) same)

/-- There is some costume. -/
theorem positive (counts : target.Counts) : 0 < target.costumeCount :=
  Nat.zero_lt_of_lt counts.costume

/-- The count is the same as a number with a sign. -/
theorem modulus (counts : target.Counts) :
    Stage.costumeModulus target.costumeCount = target.costumeCount := by
  have small : (target.costumeCount : Int) ≤ 9223372036854775807 := counts.countable
  have some := counts.positive
  have same : ((max target.costumeCount 1 : Nat) : Int) = target.costumeCount := by omega
  rw [Stage.costumeModulus, Width.wrap, BitVec.toInt_ofInt, Int.bmod_eq_of_le] <;> omega

/-- A costume that is counted to is one that there is. -/
theorem costumeAt (counts : target.Counts) (number : Int) :
    ({ target with costume := Stage.costumeAt target.costumeCount number } : Target α).Counts := by
  have some : (0 : Int) < target.costumeCount := by exact_mod_cast counts.positive
  have least := Int.emod_nonneg number (Int.ne_of_gt some)
  have below := Int.emod_lt_of_pos number some
  refine ⟨?_, counts.countable⟩
  change Stage.costumeAt target.costumeCount number < target.costumeCount
  rw [Stage.costumeAt, counts.modulus]
  omega

/-- The way around to it is exact for every number that a word with a sign holds. -/
theorem divides (counts : target.Counts) {number : Int} (low : Width.low64 ≤ number)
    (high : number ≤ Width.high64) :
    Stage.costumeOverflows target.costumeCount number = false := by
  have some : (0 : Int) < target.costumeCount := by exact_mod_cast counts.positive
  have least : -9223372036854775808 ≤ number := low
  have greatest : number ≤ 9223372036854775807 := high
  have quotient : -9223372036854775808 ≤ number / target.costumeCount ∧
      number / target.costumeCount ≤ 9223372036854775807 := by
    constructor
    · apply Int.le_ediv_of_mul_le some
      omega
    · apply Int.ediv_le_of_le_mul some
      omega
  rw [Stage.costumeOverflows, counts.modulus, Width.holds_of_between quotient.1 quotient.2]
  rfl

/-- The number of the costume behind is exact too. -/
theorem next (counts : target.Counts) : Width.wrap 64 target.costume + 1 = target.costume + 1 ∧
    Width.low64 ≤ (target.costume : Int) + 1 ∧ (target.costume : Int) + 1 ≤ Width.high64 := by
  have below := counts.costume
  have small : (target.costumeCount : Int) ≤ 9223372036854775807 := counts.countable
  have low : (-9223372036854775808 : Int) ≤ target.costume := by omega
  have high : (target.costume : Int) ≤ 9223372036854775807 := by omega
  refine ⟨congrArg (· + 1) (Width.wrap_of_between low high), ?_, ?_⟩
  · change (-9223372036854775808 : Int) ≤ _
    omega
  · change _ ≤ (9223372036854775807 : Int)
    omega

end Target.Counts

/-! ## What a stage does -/

namespace Stage

/-- Nothing on a stage has overflowed, and its targets can count their costumes. -/
structure Exact (stage : Stage α) : Prop where
  unmarked : stage.overflowed = false
  counts : ∀ id target, stage.target? id = some target → target.Counts

/-- A stage without targets. -/
theorem exact_empty (maxClones : Nat) : (empty maxClones : Stage α).Exact :=
  ⟨rfl, fun _ _ none => by cases none⟩

section Marks

variable (stage : Stage α) (id : TargetId)

/-- What the renderer is told does not mark the stage. -/
@[simp]
theorem overflowed_forward (look : AppearanceChange α) :
    (stage.forward id look).overflowed = stage.overflowed := by
  unfold forward
  cases stage.target? id with
  | none => rfl
  | some target =>
    dsimp only
    cases stage.renderer <;> cases target.drawable <;> rfl

/-- Nor is the pose that it is told. -/
@[simp]
theorem overflowed_forwardPose [Scalar α] :
    (stage.forwardPose id).overflowed = stage.overflowed := by
  unfold forwardPose
  cases stage.target? id with
  | none => rfl
  | some target => exact overflowed_forward stage id _

/-- Nor does a target that is changed. -/
@[simp]
theorem overflowed_modify (change : Target α → Target α) :
    (stage.modify id change).overflowed = stage.overflowed := rfl

/-- Nor one that loses its effects. -/
@[simp]
theorem overflowed_clearEffects : (stage.clearEffects id).overflowed = stage.overflowed := by
  unfold clearEffects
  by_cases present : stage.contains id = true
  · rw [if_pos present, overflowed_forward, overflowed_modify]
  · rw [if_neg present]

/-- Nor one that says something. -/
@[simp]
theorem overflowed_setBubble (bubble : Option Bubble) :
    (stage.setBubble id bubble).2.overflowed = stage.overflowed := by
  unfold setBubble
  cases stage.target? id <;> rfl

/-- Nor one that goes. -/
@[simp]
theorem overflowed_dispose : (stage.dispose id).2.overflowed = stage.overflowed := by
  unfold dispose
  cases stage.target? id with
  | none => rfl
  | some target =>
    dsimp only
    cases stage.renderer <;> cases target.drawable <;> cases target.isClone <;> rfl

/-- Nor a walk of which no step does. -/
theorem overflowed_foldl {change : Stage α → TargetId → Stage α}
    (spares : ∀ stage id, (change stage id).overflowed = stage.overflowed)
    (ids : List TargetId) : (ids.foldl change stage).overflowed = stage.overflowed := by
  induction ids generalizing stage with
  | nil => rfl
  | cons first rest inductionHypothesis =>
    exact (inductionHypothesis (change stage first)).trans (spares stage first)

/-- Nor clones that go. -/
theorem overflowed_disposeAll (ids : List TargetId) :
    (stage.disposeAll ids).2.overflowed = stage.overflowed := by
  induction ids generalizing stage with
  | nil => rfl
  | cons first rest inductionHypothesis =>
    exact (inductionHypothesis (stage.dispose first).2).trans (overflowed_dispose stage first)

end Marks

end Stage

/-- The numbers of an operation are exact: a costume is asked for by a number that a word holds,
and no place is counted from another one. -/
def StageOperation.StaysExact : StageOperation α → Prop
  | setCostume _ number => Width.low64 ≤ number ∧ number ≤ Width.high64
  | setLayerOrder _ _ relative => relative = false
  | add target => target.Counts
  | _ => True

/-- A target that a setter retouched can count its costumes as it could before. -/
theorem Target.Retouched.counts [Scalar α] {operation : StageOperation α}
    {before after : Target α} (retouched : Target.Retouched operation before after)
    (counts : before.Counts) : after.Counts := by
  cases retouched with
  | drawn same => exact counts.of_undrawn same
  | dressed _ _ number => exact counts.costumeAt number
  | _ => exact counts.congr rfl rfl

namespace Stage

variable [Scalar α] {stage : Stage α}

/-- The operations of a stage whose numbers are exact do not mark it. -/
theorem Exact.spared (exact : stage.Exact) {operation : StageOperation α}
    (stays : operation.StaysExact) :
    (stage.perform operation).overflowed = false := by
  rw [← exact.unmarked]
  cases operation with
  | attach => rfl
  | add target =>
    rw [perform, add]
    have cleared : (if stage.contains target.id then (stage.dispose target.id).2
        else stage).overflowed = stage.overflowed := by
      by_cases present : stage.contains target.id = true
      · rw [if_pos present, overflowed_dispose]
      · rw [if_neg present]
    rw [← cleared]
    generalize (if stage.contains target.id then (stage.dispose target.id).2 else stage) = behind
    dsimp only
    cases behind.renderer <;> cases target.isClone <;> rfl
  | dispose id => exact overflowed_dispose stage id
  | disposeClones => exact overflowed_disposeAll stage _
  | setPosition id x y fenced =>
    rw [perform, setPosition]
    cases stage.target? id with
    | none => rfl
    | some target =>
      dsimp only
      by_cases isStage : target.isStage = true
      · rw [if_pos isStage]
      · rw [if_neg isStage, overflowed_forward, overflowed_modify]
  | setDirection id angle =>
    rw [perform, setDirection]
    cases stage.target? id with
    | none => rfl
    | some target =>
      dsimp only
      by_cases refused : (target.isStage || !Scalar.isFinite angle) = true
      · rw [if_pos refused]
      · rw [if_neg refused, overflowed_forwardPose, overflowed_modify]
  | setRotationStyle id style =>
    rw [perform, setRotationStyle]
    by_cases present : stage.contains id = true
    · rw [if_pos present, overflowed_forwardPose, overflowed_modify]
    · rw [if_neg present]
  | setSize id size =>
    rw [perform, setSize]
    cases stage.target? id with
    | none => rfl
    | some target =>
      dsimp only
      by_cases isStage : target.isStage = true
      · rw [if_pos isStage]
      · rw [if_neg isStage, overflowed_forward, overflowed_modify]
  | setVisible id visible =>
    rw [perform, setVisible]
    cases stage.target? id with
    | none => rfl
    | some target =>
      dsimp only
      cases target.isStage <;> cases stage.renderer <;> cases target.drawable <;> rfl
  | setCostume id number =>
    rw [perform, setCostume]
    cases found : stage.target? id with
    | none => rfl
    | some target =>
      dsimp only
      rw [overflowed_forward, overflowed_modify, mark,
        (exact.counts id target found).divides stays.1 stays.2, Bool.or_false]
  | setEffect id effect strength =>
    rw [perform, setEffect]
    by_cases unknown : effect ∉ effectNames
    · rw [if_pos unknown]
    · rw [if_neg unknown]
      cases stage.target? id with
      | none => rfl
      | some target =>
        dsimp only
        rw [overflowed_forward, overflowed_modify]
  | clearEffects id => exact overflowed_clearEffects stage id
  | setBubble id bubble => exact overflowed_setBubble stage id bubble
  | setLayerOrder id position relative =>
    obtain rfl : relative = false := stays
    rw [perform, setLayerOrder]
    cases (stage.target? id).bind Target.drawable with
    | none => rfl
    | some drawable =>
      cases stage.renderer with
      | none => rfl
      | some renderer =>
        have absolute : renderer.orderOverflows drawable position false = false := by
          rw [Renderer.orderOverflows]
          cases renderer.order? drawable <;> rfl
        dsimp only
        rw [mark, absolute, Bool.or_false]
  | onGreenFlag => exact overflowed_foldl stage overflowed_clearEffects _
  | onStopAll =>
    refine overflowed_foldl stage (fun stage id => ?_) _
    rw [overflowed_clearEffects, overflowed_setBubble]
  | setEditing id =>
    rw [perform, setEditing]
    cases stage.contains id <;> rfl
  | requestRedraw | takeRedraw | draw => rfl

/-- Nor do they keep a target from counting its costumes. -/
theorem Exact.perform (exact : stage.Exact) (operation : StageOperation α)
    (stays : operation.StaysExact) :
    (stage.perform operation).Exact := by
  refine ⟨exact.spared stays, fun id target found => ?_⟩
  by_cases setter : operation.isSetter = true
  · obtain ⟨was, present, retouched⟩ := (perform_retouches stage setter).earlier found
    exact retouched.counts (exact.counts id was present)
  · cases operation with
    | add added =>
      rcases undrawn_add found with new | old
      · exact stays.of_undrawn new
      · exact exact.counts id target old
    | dispose other =>
      rw [Stage.perform, target_dispose] at found
      by_cases gone : id = other
      · rw [if_pos gone] at found
        cases found
      · rw [if_neg gone] at found
        exact exact.counts id target found
    | disposeClones =>
      rw [Stage.perform, disposeClones, target_disposeAll] at found
      by_cases gone : id ∈ stage.cloneIds
      · rw [if_pos gone] at found
        cases found
      · rw [if_neg gone] at found
        exact exact.counts id target found
    | _ => exact absurd rfl setter

end Stage

/-! ## What blocks do -/

/-- A block whose arithmetic is exact on every exact stage: it neither chooses a costume by its
number nor moves its target by places in paint order. -/
def Block.IsExact : Block → Prop
  | .looks .switchCostume => False
  | .looks .goForwardBackward => False
  | _ => True

/-- Two opcodes of the packages that scripts can count on name the other blocks. -/
theorem Registry.standard_exact {opcode : String} {block : Block}
    (known : standard.block? opcode = some block)
    (other : opcode ∉ ["looks_switchcostumeto", "looks_goforwardbackwardlayers"]) :
    block.IsExact := by
  obtain ⟨package, member, entry⟩ := exists_of_block known
  have named : ∀ package ∈ standard.packages, ∀ entry ∈ package.blocks,
      (entry.2 matches .looks .switchCostume | .looks .goForwardBackward) = true →
        entry.1 ∈ ["looks_switchcostumeto", "looks_goforwardbackwardlayers"] := by decide
  have spared := mt (named package member _ entry) other
  cases block with
  | looks block =>
    cases block with
    | switchCostume | goForwardBackward => exact spared rfl
    | _ => trivial
  | _ => trivial

/-- An opcode names a block that is done at once, and if a condition is met, one whose arithmetic
is exact. -/
def Registry.Offers (registry : Registry) (sure : Prop) (opcode : String) : Prop :=
  ∃ block, registry.block? opcode = some block ∧ block.IsSwift ∧ (sure → block.IsExact)

section Blocks

variable {invocation : Invocation τ α}

/-- A block that goes on with its target, or fails. -/
theorem Invocation.onTarget_exact (exact : invocation.scheduler.stage.Exact)
    {continue_ : Target α → BlockResult τ α}
    (continues : ∀ target, invocation.target? = some target →
      (continue_ target).2.scheduler.stage.Exact) :
    (invocation.onTarget continue_).2.scheduler.stage.Exact := by
  unfold Invocation.onTarget
  cases found : invocation.target? with
  | none => exact exact
  | some target => exact continues target found

variable [Scalar α]

namespace MotionBlock

/-- A target that is moved is where it is exactly. -/
theorem moveTo_exact (exact : invocation.scheduler.stage.Exact) (x y : α) :
    (moveTo invocation x y).scheduler.stage.Exact :=
  exact.perform (.setPosition invocation.target x y true) trivial

/-- So is one that is turned. -/
theorem point_exact (exact : invocation.scheduler.stage.Exact) (angle : α) :
    (point invocation angle).scheduler.stage.Exact :=
  exact.perform (.setDirection invocation.target angle) trivial

/-- All motion that is done at once keeps a stage exact. -/
theorem run_exact {block : MotionBlock} (prompt : block ≠ .glide) (args : Args α)
    (exact : invocation.scheduler.stage.Exact) :
    (block.run args invocation).2.scheduler.stage.Exact := by
  cases block with
  | glide => exact absurd rfl prompt
  | goTo => exact moveTo_exact exact _ _
  | pointInDirection => exact point_exact exact _
  | moveSteps | changeX | setX | changeY | setY =>
    exact invocation.onTarget_exact exact fun _ _ => moveTo_exact exact _ _
  | turnRight | turnLeft =>
    exact invocation.onTarget_exact exact fun _ _ => point_exact exact _
  | setRotationStyle =>
    rw [run, runSetRotationStyle]
    cases RotationStyle.ofName? (args.text "STYLE") with
    | none => exact exact
    | some style =>
      exact exact.perform (.setRotationStyle invocation.target style) trivial
  | xPosition | yPosition | direction =>
    exact invocation.onTarget_exact exact fun _ _ => exact

end MotionBlock

namespace LooksBlock

/-- A place that is not counted from another one is exact. -/
theorem setLayer_exact (exact : invocation.scheduler.stage.Exact) {position : Int}
    (held : Width.holds 32 position = true) :
    (setLayer position false invocation).2.scheduler.stage.Exact := by
  have moved :=
    exact.perform (.setLayerOrder invocation.target (Width.wrap 32 position) false) rfl
  have unmarked : invocation.scheduler.stage.mark (!Width.holds 32 position) =
      invocation.scheduler.stage := by
    rw [held, Stage.mark, Bool.not_true, Bool.or_false]
  rw [setLayer, Invocation.withStage, unmarked]
  exact moved

/-- The costume behind the one that a target wears has a number. -/
theorem nextCostume_exact (exact : invocation.scheduler.stage.Exact) {target : Target α}
    (found : invocation.target? = some target) :
    (setCostume (Width.wrap 64 target.costume + 1) invocation).2.scheduler.stage.Exact := by
  obtain ⟨next, low, high⟩ := (exact.counts _ target found).next
  have dressed :=
    exact.perform (.setCostume invocation.target ((target.costume : Int) + 1)) ⟨low, high⟩
  have unmarked : invocation.scheduler.stage.mark (!Width.holds 64 (target.costume + 1)) =
      invocation.scheduler.stage := by
    rw [Width.holds_of_between low high, Stage.mark, Bool.not_true, Bool.or_false]
  rw [next, setCostume, Invocation.withStage, unmarked, Width.wrap_of_between low high]
  exact dressed

/-- All looks that are done at once keep a stage exact, but for the two that reckon with numbers
from scripts. -/
theorem run_exact {block : LooksBlock} (prompt : ¬block.IsTimed)
    (sure : (Block.looks block).IsExact) (args : Args α)
    (exact : invocation.scheduler.stage.Exact) :
    (block.run args invocation).2.scheduler.stage.Exact := by
  cases block with
  | sayForSeconds | thinkForSeconds => exact absurd trivial prompt
  | switchCostume | goForwardBackward => exact sure.elim
  | say | think => exact exact.perform (.setBubble invocation.target _) trivial
  | showTarget => exact exact.perform (.setVisible invocation.target true) trivial
  | hideTarget => exact exact.perform (.setVisible invocation.target false) trivial
  | setSize => exact exact.perform (.setSize invocation.target _) trivial
  | changeSize =>
    exact invocation.onTarget_exact exact fun _ _ =>
      exact.perform (.setSize invocation.target _) trivial
  | size | costumeNumber => exact invocation.onTarget_exact exact fun _ _ => exact
  | nextCostume =>
    exact invocation.onTarget_exact exact fun _ found => nextCostume_exact exact found
  | setEffect => exact exact.perform (.setEffect invocation.target _ _) trivial
  | changeEffect =>
    exact invocation.onTarget_exact exact fun _ _ =>
      exact.perform (.setEffect invocation.target _ _) trivial
  | clearEffects => exact exact.perform (.clearEffects invocation.target) trivial
  | goToFrontBack =>
    rw [run, runGoToFrontBack]
    split
    case h_1 => exact setLayer_exact exact (by decide)
    case h_2 => exact setLayer_exact exact (by decide)
    case h_3 => exact exact

end LooksBlock

/-- Sensing leaves the stage as it is. -/
theorem SensingBlock.run_stage (block : SensingBlock) (args : Args α)
    (invocation : Invocation τ α) :
    (block.run args invocation).2.scheduler.stage = invocation.scheduler.stage := by
  cases block with
  | touchingObject =>
    rw [run, Invocation.onTarget]
    cases invocation.target? <;> rfl
  | distanceTo =>
    rw [run, Invocation.onTarget]
    cases invocation.target? with
    | none => rfl
    | some target =>
      dsimp only
      cases target.isStage with
      | true => rfl
      | false => cases positionOf? invocation.scheduler (args.text "DISTANCETOMENU") <;> rfl
  | attributeOf =>
    rw [run]
    cases objectOf? invocation.scheduler.stage (args.text "OBJECT") <;> rfl
  | _ => rfl

/-- Every block that is done at once and whose arithmetic is exact keeps a stage exact. -/
theorem Block.run_exact [Transport τ α] {block : Block} (swift : block.IsSwift)
    (sure : block.IsExact) (args : Args α) (exact : invocation.scheduler.stage.Exact) :
    (block.run args invocation).2.scheduler.stage.Exact := by
  cases block with
  | motion block => exact MotionBlock.run_exact swift args exact
  | looks block => exact LooksBlock.run_exact swift sure args exact
  | sensing block =>
    rw [Block.run, block.run_stage args invocation]
    exact exact
  | motor block => exact exact
  | _ => exact swift.elim

end Blocks

end SpriteMachine
