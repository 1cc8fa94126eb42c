import Mathlib.Data.Int.ModEq
import SpriteMachine.Proofs.Number.Order
import SpriteMachine.Proofs.Stage.Operation

/-!
# Targets keep their ranges

A target is made in its ranges: its costume is one of those it has, its size and its effects are
held between their bounds, and it has no bubble without text. Every setter keeps the ranges, and
none of them moves, turns, scales or hides the stage. So wherever a run of a stage takes its
targets from, each of them is in its ranges all the time.
-/

namespace SpriteMachine

/-- A scalar lies between two bounds. -/
def Scalar.Between {α : Type} [Scalar α] (low high value : α) : Prop :=
  atMost low value = true ∧ atMost value high = true

namespace Target

variable {α : Type} [Scalar α]

/-- An effect is a known one, and its strength is in the range of that effect. -/
structure EffectInRange (name : String) (strength : α) : Prop where
  known : name ∈ effectNames
  ghost : name = "ghost" → Scalar.Between Scalar.zero (Scalar.ofInt 100) strength
  brightness : name = "brightness" →
    Scalar.Between (Scalar.ofInt (-100)) (Scalar.ofInt 100) strength

/-- What is held in a range is there. -/
structure InRange (target : Target α) : Prop where
  costume : target.costume < target.costumeCount
  countable : (target.costumeCount : Int) ≤ Width.high64
  size : Scalar.Between minSize maxSize target.size
  effects : ∀ name strength, target.effects.find? name = some strength →
    EffectInRange name strength
  bubble : ∀ bubble, target.bubble = some bubble → bubble.text ≠ ""

omit [Scalar α] in
/-- Where a target is, how it looks there and whether it is seen. -/
def pose (target : Target α) : (α × α) × α × α × Bool :=
  ((target.x, target.y), target.direction, target.size, target.visible)

/-- A target stays in its ranges, and in its pose if it is the stage. -/
structure Refreshed (before after : Target α) : Prop where
  inRange : before.InRange → after.InRange
  isStage : after.isStage = before.isStage
  pose : before.isStage = true → after.pose = before.pose

/-- A drawable is in no range. -/
theorem Refreshed.of_undrawn {before after : Target α} (same : after.undrawn = before.undrawn) :
    Refreshed before after := by
  obtain ⟨⟩ := before
  obtain ⟨⟩ := after
  simp only [undrawn, Target.mk.injEq] at same
  obtain ⟨rfl, rfl, rfl, rfl, rfl, rfl, rfl, rfl, rfl, rfl, rfl, rfl, rfl, rfl, rfl, -⟩ := same
  exact ⟨fun inRange => ⟨inRange.costume, inRange.countable, inRange.size, inRange.effects,
    inRange.bubble⟩, rfl, fun _ => rfl⟩

end Target

/-- The numbers by which a target is scaled or that an effect gets are defined. -/
def StageOperation.Defined {α : Type} [Scalar α] : StageOperation α → Prop
  | setSize _ size => Scalar.isDefined size = true
  | setEffect _ _ strength => Scalar.isDefined strength = true
  | _ => True

section Reaching

variable {α : Type} [Scalar α]

mutual

/-- A target that is made of a description whose size is defined and whose costumes can be
counted with a sign, a plain sprite or stage, a clone of such a target, or one that has been on a
stage. -/
inductive Target.Formed : Target α → Prop where
  | ofSpec (spec : TargetSpec α) (defined : Scalar.isDefined spec.size = true)
      (countable : ∀ count, spec.costumeCount = some count → (count : Int) ≤ Width.high64) :
      Target.Formed (.ofSpec spec)
  | sprite (id : TargetId) (name : String) : Target.Formed (.sprite id name)
  | stage (id : TargetId) : Target.Formed (.stage id)
  | clone {target : Target α} (formed : Target.Formed target) (id : TargetId) :
      Target.Formed (target.clone id)
  | found {stage : Stage α} (reached : Stage.Reached stage) {id : TargetId} {target : Target α}
      (found : stage.target? id = some target) : Target.Formed target

/-- A stage that operations lead to which add formed targets and bring defined numbers. -/
inductive Stage.Reached : Stage α → Prop where
  | empty (maxClones : Nat) : Stage.Reached (.empty maxClones)
  | perform {stage : Stage α} (reached : Stage.Reached stage) (operation : StageOperation α)
      (formed : ∀ target, operation = .add target → Target.Formed target)
      (defined : operation.Defined) : Stage.Reached (stage.perform operation)

end

end Reaching

namespace Target

variable {target : Target Float}

/-- A strength that an effect is held to is in its range. -/
theorem effectInRange_clamp {name : String} {strength : Float} (known : name ∈ effectNames)
    (defined : Scalar.isDefined strength = true) :
    EffectInRange name (clampEffect name strength) where
  known := known
  ghost named := by
    rw [clampEffect, if_pos named]
    exact BinaryFloat.clamp_between (by decide) (by decide) (by decide) defined
  brightness named := by
    rw [clampEffect, if_neg (by rw [named]; decide), if_pos named]
    exact BinaryFloat.clamp_between (by decide) (by decide) (by decide) defined

/-- A size that is a number is clamped between the least and the greatest size. -/
theorem size_between {size : Float} (defined : Scalar.isDefined size = true) :
    Scalar.Between minSize maxSize (Scalar.clamp minSize maxSize size) :=
  BinaryFloat.clamp_between (by decide) (by decide) (by decide) defined

/-- A target without effects and without a bubble is in its ranges when its costume and its size
are. -/
theorem inRange_plain (costume : target.costume < target.costumeCount)
    (countable : (target.costumeCount : Int) ≤ Width.high64)
    (size : Scalar.Between minSize maxSize target.size) (effects : target.effects = .empty)
    (bubble : target.bubble = none) : target.InRange where
  costume := costume
  countable := countable
  size := size
  effects name strength found := by
    rw [effects, OrderedMap.find_empty] at found
    cases found
  bubble shown same := by
    rw [bubble] at same
    cases same

/-- A plain sprite is in range. -/
theorem inRange_sprite (id : TargetId) (name : String) : (sprite id name : Target Float).InRange :=
  inRange_plain Nat.one_pos (show (1 : Int) ≤ Width.high64 by decide)
    (show Scalar.Between minSize maxSize (Scalar.ofInt 100) from ⟨by decide, by decide⟩) rfl rfl

/-- A target made after its description is in range, whatever direction and effects it names, as
long as the size is a number and the costumes can be counted. -/
theorem inRange_ofSpec {spec : TargetSpec Float} (defined : Scalar.isDefined spec.size = true)
    (countable : ∀ count, spec.costumeCount = some count → (count : Int) ≤ Width.high64) :
    (ofSpec spec).InRange := by
  have count : (max (spec.costumeCount.getD 1) 1 : Int) ≤ Width.high64 := by
    cases told : spec.costumeCount with
    | none => decide
    | some count =>
      have small := countable count told
      simp only [Option.getD_some]
      have one : (1 : Int) ≤ Width.high64 := by decide
      omega
  refine inRange_plain (Nat.mod_lt _ (by omega)) ?_ (size_between defined) ?_ ?_
  · change ((max (spec.costumeCount.getD 1) 1 : Nat) : Int) ≤ Width.high64
    omega
  · unfold ofSpec stage sprite
    cases spec.isStage <;> rfl
  · unfold ofSpec stage sprite
    cases spec.isStage <;> rfl

/-- Only what is held in a range matters. -/
theorem InRange.congr {other : Target Float} (inRange : target.InRange)
    (costume : other.costume = target.costume) (count : other.costumeCount = target.costumeCount)
    (size : other.size = target.size) (effects : other.effects = target.effects)
    (bubble : other.bubble = target.bubble ∨ other.bubble = none) : other.InRange where
  costume := costume ▸ count ▸ inRange.costume
  countable := count ▸ inRange.countable
  size := size ▸ inRange.size
  effects := effects ▸ inRange.effects
  bubble shown same := by
    rcases bubble with kept | silent
    · exact inRange.bubble shown (kept ▸ same)
    · rw [silent] at same
      cases same

/-- A clone has no bubble, and the ranges of its source. -/
theorem InRange.clone (inRange : target.InRange) (id : TargetId) : (target.clone id).InRange :=
  inRange.congr rfl rfl rfl rfl (.inr rfl)

end Target

namespace Stage

variable {stage before after : Stage Float} {id : TargetId}

/-- A number is counted around to one of the costumes. -/
theorem costumeAt_spec {count : Nat} (some : 0 < count) (countable : (count : Int) ≤ Width.high64)
    (number : Int) :
    costumeAt count number < count ∧ (costumeAt count number : Int) ≡ number [ZMOD count] := by
  have whole : costumeModulus count = count := by
    have small : (count : Int) ≤ 9223372036854775807 := countable
    have same : ((max count 1 : Nat) : Int) = count := by omega
    rw [costumeModulus, Width.wrap, BitVec.toInt_ofInt, Int.bmod_eq_of_le] <;> omega
  have positive : (0 : Int) < count := by omega
  have least := Int.emod_nonneg number (Int.ne_of_gt positive)
  have below := Int.emod_lt_of_pos number positive
  have same : (costumeAt count number : Int) = number % count := by
    rw [costumeAt, whole, Int.toNat_of_nonneg least]
  exact ⟨by omega, by rw [same]; exact Int.mod_modEq number count⟩

end Stage

/-- A target that a setter retouched is refreshed, if the numbers that it got are defined. -/
theorem Target.Retouched.refreshed {operation : StageOperation Float}
    {before after : Target Float} (retouched : Target.Retouched operation before after)
    (defined : operation.Defined) : Target.Refreshed before after := by
  cases retouched with
  | kept => exact ⟨fun inRange => inRange, rfl, fun _ => rfl⟩
  | drawn same => exact .of_undrawn same
  | placed isSprite | turned isSprite | shown isSprite =>
    refine ⟨fun inRange => ?_, rfl, fun isStage => absurd isStage isSprite⟩
    exact inRange.congr rfl rfl rfl rfl (.inl rfl)
  | styled => exact ⟨fun inRange => inRange.congr rfl rfl rfl rfl (.inl rfl), rfl, fun _ => rfl⟩
  | scaled isSprite =>
    refine ⟨fun inRange => ?_, rfl, fun isStage => absurd isStage isSprite⟩
    exact { inRange with size := Target.size_between defined }
  | dressed _ _ number =>
    refine ⟨fun inRange => { inRange with costume := ?_ }, rfl, fun _ => rfl⟩
    have some := Nat.zero_lt_of_lt inRange.costume
    exact (Stage.costumeAt_spec some inRange.countable number).1
  | @tinted _ _ effect known strength =>
    refine ⟨fun inRange => { inRange with effects := fun name value held => ?_ }, rfl,
      fun _ => rfl⟩
    rw [OrderedMap.find_insert] at held
    by_cases same : name = effect
    · rw [if_pos same] at held
      rw [same, ← Option.some.inj held]
      exact Target.effectInRange_clamp known defined
    · rw [if_neg same] at held
      exact inRange.effects name value held
  | cleared | flagged =>
    refine ⟨fun inRange => ?_, rfl, fun _ => rfl⟩
    exact { inRange with effects := fun _ _ none => by cases none }
  | spoken _ _ bubble =>
    refine ⟨fun inRange => { inRange with bubble := fun _ kept => ?_ }, rfl, fun _ => rfl⟩
    exact of_decide_eq_true (Option.filter_eq_some_iff.mp kept).2
  | stopped =>
    refine ⟨fun inRange => { inRange with effects := ?_, bubble := ?_ }, rfl, fun _ => rfl⟩
    · intro _ _ none
      cases none
    · intro _ none
      cases none

mutual

/-- A formed target is in its ranges. -/
theorem Target.Formed.inRange {target : Target Float} : target.Formed → target.InRange
  | .ofSpec spec defined countable => Target.inRange_ofSpec defined countable
  | .sprite id name => Target.inRange_sprite id name
  | .stage id => (Target.inRange_sprite id "Stage").congr rfl rfl rfl rfl (.inl rfl)
  | .clone formed id => formed.inRange.clone id
  | .found reached found => reached.inRange _ _ found

/-- The targets of a stage that is reached are in their ranges. -/
theorem Stage.Reached.inRange {stage : Stage Float} : stage.Reached →
    ∀ id target, stage.target? id = some target → target.InRange
  | .empty maxClones => fun _ _ none => by cases none
  | .perform reached operation formed defined => fun id target found => by
    have earlier := reached.inRange
    have added : ∀ target, operation = .add target → target.InRange :=
      fun target same => (formed target same).inRange
    -- Only a target that is added is anyone else than before, or than a setter left it.
    cases operation with
    | add target =>
      rcases Stage.undrawn_add found with new | old
      · exact (Target.Refreshed.of_undrawn new).inRange (added target rfl)
      · exact earlier id _ old
    | dispose other =>
      rw [Stage.perform, Stage.target_dispose] at found
      by_cases gone : id = other
      · rw [if_pos gone] at found
        cases found
      · rw [if_neg gone] at found
        exact earlier id target found
    | disposeClones =>
      rw [Stage.perform, Stage.disposeClones, Stage.target_disposeAll] at found
      split at found
      case isTrue => cases found
      case isFalse => exact earlier id target found
    | _ =>
      obtain ⟨was, present, retouched⟩ := (Stage.perform_retouches _ rfl).earlier found
      exact (retouched.refreshed defined).inRange (earlier id was present)

end

namespace Stage

variable {stage : Stage Float}

/-- Behind the choice of a costume a target has the costume at that number. -/
theorem target_setCostume {id : TargetId} {target : Target Float}
    (found : stage.target? id = some target) (number : Int) :
    (stage.setCostume id number).2.target? id =
      some { target with costume := costumeAt target.costumeCount number } := by
  rw [setCostume, found]
  dsimp only
  rw [target_forward, target_modify, if_pos rfl, target_mark, found, Option.map_some]

/-- The stage stays in its pose, whatever a setter does. -/
theorem pose_kept {operation : StageOperation Float} (setter : operation.isSetter = true)
    (defined : operation.Defined) {id : TargetId} {target : Target Float}
    (found : stage.target? id = some target) (isStage : target.isStage = true) :
    ∃ kept, (stage.perform operation).target? id = some kept ∧ kept.pose = target.pose := by
  obtain ⟨kept, present, retouched⟩ := (perform_retouches stage setter).later found
  exact ⟨kept, present, (retouched.refreshed defined).pose isStage⟩

/-- Targets stay in their ranges over whole runs. On every stage that operations lead to, whoever
they add, every target has one of its costumes, a size and effects within their bounds and no
empty bubble; a costume that is chosen is the one congruent to the number asked for; and no setter
moves, turns, scales, shows or hides the stage. -/
theorem targets_stay_in_range (reached : stage.Reached) :
    (∀ id target, stage.target? id = some target → target.InRange) ∧
      (∀ id target number, stage.target? id = some target → ∃ costume : Nat,
        (stage.setCostume id number).2.target? id = some { target with costume := costume } ∧
          costume < target.costumeCount ∧ (costume : Int) ≡ number [ZMOD target.costumeCount]) ∧
      ∀ operation : StageOperation Float, operation.isSetter = true → operation.Defined →
        ∀ id target, stage.target? id = some target → target.isStage = true →
          ∃ kept, (stage.perform operation).target? id = some kept ∧ kept.pose = target.pose := by
  refine ⟨reached.inRange, fun id target number found => ?_,
    fun operation setter defined id target found isStage =>
      pose_kept setter defined found isStage⟩
  have inRange := reached.inRange id target found
  obtain ⟨below, congruent⟩ :=
    costumeAt_spec (Nat.zero_lt_of_lt inRange.costume) inRange.countable number
  exact ⟨_, target_setCostume found number, below, congruent⟩

/-- An infinitely large cat with as many costumes as can be counted. -/
def boundless : TargetSpec Float where
  id := ⟨"cat"⟩
  name := "Cat"
  isStage := false
  x := 0
  y := 0
  direction := 90
  visible := true
  size := 1.0 / 0.0
  costume := 3
  costumeCount := some 9223372036854775807
  rotationStyle := .allAround
  memory := .empty

/-- The boundless cat is dressed in the costume before its first one and made to fade. -/
def overstretched : Stage Float :=
  (((empty defaultMaxClones).perform (.add (.ofSpec boundless))).perform
    (.setCostume ⟨"cat"⟩ (-1))).perform (.setEffect ⟨"cat"⟩ "ghost" 1000)

/-- The boundless cat is reached by operations from the empty stage. -/
theorem overstretched_reached : overstretched.Reached := by
  have formed : (Target.ofSpec boundless).Formed :=
    .ofSpec boundless (by decide) fun count told => by
      rw [← Option.some.inj told]
      decide
  have added : ((empty defaultMaxClones).perform (.add (.ofSpec boundless))).Reached :=
    .perform (.empty _) _ (fun target same => StageOperation.add.inj same ▸ formed) trivial
  have dressed :=
    Reached.perform added (.setCostume ⟨"cat"⟩ (-1)) (fun _ same => by cases same) trivial
  exact dressed.perform (.setEffect ⟨"cat"⟩ "ghost" 1000) (fun _ same => by cases same)
    (show Scalar.isDefined (1000 : Float) = true by decide)

/-- It wears its last costume, and is in its ranges. -/
theorem overstretched_inRange :
    overstretched.Reached ∧ ∃ target, overstretched.target? ⟨"cat"⟩ = some target ∧
      target.costume = 9223372036854775806 ∧ target.InRange := by
  obtain ⟨inRange, -⟩ := targets_stay_in_range overstretched_reached
  have worn : (overstretched.target? ⟨"cat"⟩).map Target.costume = some 9223372036854775806 := by
    decide +kernel
  obtain ⟨target, found, costume⟩ := Option.map_eq_some_iff.mp worn
  exact ⟨overstretched_reached, target, found, costume, inRange _ target found⟩

end Stage

end SpriteMachine
