import Mathlib.Algebra.Field.Rat
import Mathlib.Algebra.Order.Field.Basic
import Mathlib.Algebra.Order.Ring.Rat
import SpriteMachine.Block.Run
import SpriteMachine.Number.Exact
import SpriteMachine.Proofs.Stage

/-!
# Blocks that last

A wait and the bubbles that stand for a time note a moment of the timer when they are invoked
first, and are invoked again until it has come. A glide notes where and when it started, and
is as far on its way as the time says.
-/

namespace SpriteMachine

variable {τ α : Type}

section Pausing

variable [Scalar α]

/-- The argument that says for how many seconds a block does nothing but wait. -/
def Block.pause? : Block → Option String
  | .control .wait => some "DURATION"
  | .looks .sayForSeconds => some "SECS"
  | .looks .thinkForSeconds => some "SECS"
  | _ => none

/-- What a block leaves that waits for a moment. -/
structure Pauses (deadline : α) (again : Bool) (result : BlockResult τ α) : Prop where
  value : result.1 = .ok .null
  yielded : result.2.yielded = again
  deadline : result.2.frame.notes.deadline = some deadline

variable {invocation : Invocation τ α} {block : Block} {name : String} {deadline : α}

omit [Scalar α] in
/-- A bubble goes away at most; the notes stay. -/
theorem LooksBlock.clearBubble_kept (invocation : Invocation τ α) (kind : BubbleKind)
    (text : String) :
    (clearBubble invocation kind text).yielded = invocation.yielded ∧
      (clearBubble invocation kind text).frame = invocation.frame := by
  unfold clearBubble
  split <;> exact ⟨rfl, rfl⟩

/-- Who waits for a moment that is noted asks to be invoked again until it has come. -/
theorem Invocation.waitFor_noted (noted : invocation.frame.notes.deadline = some deadline)
    (quiet : invocation.yielded = false) (seconds : α) :
    (invocation.waitFor seconds).1 = !Scalar.less invocation.now deadline ∧
      (invocation.waitFor seconds).2.yielded = Scalar.less invocation.now deadline ∧
      (invocation.waitFor seconds).2.frame.notes.deadline = some deadline := by
  unfold waitFor
  rw [noted, Option.getD_some]
  dsimp only
  cases before : Scalar.less invocation.now deadline with
  | true => exact ⟨rfl, rfl, rfl⟩
  | false => exact ⟨rfl, quiet, rfl⟩

/-- At its first run a timed bubble sets its deadline by the project timer and pauses. -/
theorem LooksBlock.runTimedBubble_first (new : invocation.frame.isFirstRun = true)
    (kind : BubbleKind) (args : Args α) :
    Pauses (invocation.now + Invocation.millisecondsOf (args.number "SECS")) true
      (runTimedBubble kind args invocation) := by
  unfold runTimedBubble
  rw [if_pos new]
  exact ⟨rfl, rfl, rfl⟩

/-- At a later run a timed bubble pauses as long as its deadline is ahead. -/
theorem LooksBlock.runTimedBubble_again (known : invocation.frame.isFirstRun = false)
    (noted : invocation.frame.notes.deadline = some deadline) (quiet : invocation.yielded = false)
    (kind : BubbleKind) (args : Args α) :
    Pauses deadline (Scalar.less invocation.now deadline)
      (runTimedBubble kind args invocation) := by
  obtain ⟨-, yielded, kept⟩ := Invocation.waitFor_noted noted quiet (args.number "SECS")
  unfold runTimedBubble
  rw [known, if_neg Bool.false_ne_true]
  split
  case h_1 left waited =>
    rw [waited] at yielded kept
    obtain ⟨same, notes⟩ := clearBubble_kept left kind (args.text "MESSAGE")
    refine ⟨rfl, same.trans yielded, ?_⟩
    exact (congrArg (·.notes.deadline) notes).trans kept
  case h_2 waited =>
    rw [waited] at yielded kept
    exact ⟨rfl, yielded, kept⟩

variable [Transport τ α]

/-- At first a block that waits notes the moment, and always asks to be invoked again. -/
theorem Block.run_first (pause : block.pause? = some name)
    (new : invocation.frame.isFirstRun = true) (args : Args α) :
    Pauses (invocation.now + Invocation.millisecondsOf (args.number name)) true
      (block.run args invocation) := by
  unfold Block.pause? at pause
  split at pause
  case h_1 =>
    obtain rfl := Option.some.inj pause
    change Pauses _ true (ControlBlock.runWait args invocation)
    unfold ControlBlock.runWait
    rw [if_pos new]
    exact ⟨rfl, rfl, rfl⟩
  case h_2 =>
    obtain rfl := Option.some.inj pause
    exact LooksBlock.runTimedBubble_first new .say args
  case h_3 =>
    obtain rfl := Option.some.inj pause
    exact LooksBlock.runTimedBubble_first new .think args
  case h_4 => cases pause

/-- Later it asks for that until the moment has come. -/
theorem Block.run_again (pause : block.pause? = some name)
    (known : invocation.frame.isFirstRun = false)
    (noted : invocation.frame.notes.deadline = some deadline) (quiet : invocation.yielded = false)
    (args : Args α) :
    Pauses deadline (Scalar.less invocation.now deadline) (block.run args invocation) := by
  unfold Block.pause? at pause
  split at pause
  case h_1 =>
    obtain ⟨-, yielded, kept⟩ :=
      Invocation.waitFor_noted noted quiet (args.number "DURATION")
    change Pauses _ _ (ControlBlock.runWait args invocation)
    unfold ControlBlock.runWait
    rw [known, if_neg Bool.false_ne_true]
    exact ⟨rfl, yielded, kept⟩
  case h_2 => exact LooksBlock.runTimedBubble_again known noted quiet .say args
  case h_3 => exact LooksBlock.runTimedBubble_again known noted quiet .think args
  case h_4 => cases pause

end Pausing

section Exactly

/-- A duration in milliseconds, with exact arithmetic. -/
theorem Invocation.millisecondsOf_eq (seconds : Rat) :
    millisecondsOf seconds = max seconds 0 * 1000 := by
  have greater : Scalar.maximum seconds (Scalar.zero : Rat) = max seconds 0 := by
    change (if (decide (seconds < 0) || !true) = true then (0 : Rat) else seconds) = _
    by_cases negative : seconds < 0
    · rw [if_pos (by simpa using negative), max_eq_right negative.le]
    · rw [if_neg (by simpa using negative), max_eq_left (not_lt.mp negative)]
  unfold millisecondsOf
  rw [greater]
  rfl

/-- Exact numbers are compared as the rationals they are. -/
theorem less_exact (left right : Rat) : Scalar.less left right = decide (left < right) := rfl

end Exactly

/-! ## Gliding -/

namespace Stage

variable [Scalar α]

/-- A sprite that nothing draws is where it is put. -/
theorem target_setPosition {stage : Stage α} {id : TargetId} {target : Target α}
    (present : stage.target? id = some target) (sprite : target.isStage = false)
    (undrawn : stage.renderer = none) (x y : α) (fenced : Bool) :
    (stage.setPosition id x y fenced).2.target? id = some { target with x := x, y := y } := by
  unfold setPosition
  rw [present]
  dsimp only
  rw [sprite, if_neg Bool.false_ne_true]
  dsimp only
  rw [target_forward, target_modify, if_pos rfl, present, undrawn]
  simp [sprite]

end Stage

namespace MotionBlock

variable {invocation : Invocation τ Rat} {x y started : Rat}

/-- The notes of a glide that started somewhere at a moment of the timer. -/
def startedAt (x y started : Rat) : Value Rat := .list [.real x, .real y, .real started]

/-- The share of its way that a glide has behind it when some of its time has elapsed. -/
def shareOf (elapsed span : Rat) : Rat := if elapsed < span then elapsed / span else 1

/-- Where a glide is on one axis after a share of its way. -/
def between (start finish share : Rat) : Rat := start + (finish - start) * share

/-- At the start of a span no share of it has passed. -/
theorem shareOf_zero {span : Rat} (positive : 0 < span) : shareOf 0 span = 0 := by
  rw [shareOf, if_pos positive, zero_div]

/-- The share of a span that has passed lies between nothing and the whole. -/
theorem shareOf_mem {elapsed span : Rat} (forward : 0 ≤ elapsed) :
    0 ≤ shareOf elapsed span ∧ shareOf elapsed span ≤ 1 := by
  unfold shareOf
  split
  case isTrue inside =>
    have positive : 0 < span := forward.trans_lt inside
    exact ⟨div_nonneg forward positive.le, (div_le_one positive).mpr inside.le⟩
  case isFalse => exact ⟨zero_le_one, le_refl 1⟩

/-- With no share passed a glide is where it starts. -/
@[simp]
theorem between_zero (start finish : Rat) : between start finish 0 = start := by
  rw [between, mul_zero, add_zero]

/-- With the whole span passed a glide is where it ends. -/
@[simp]
theorem between_one (start finish : Rat) : between start finish 1 = finish := by
  rw [between, mul_one, add_sub_cancel]

/-- What an invocation of a glide leaves that started somewhere at a moment of the timer: it
asks to be invoked again while it has time left, and the target is where it should be. -/
structure Glides (invocation : Invocation τ Rat) (args : Args Rat) (x y started : Rat)
    (result : BlockResult τ Rat) : Prop where
  value : result.1 = .ok .null
  yielded : result.2.yielded =
    decide (invocation.now - started < Invocation.millisecondsOf (args.number "SECS"))
  scratch : result.2.frame.notes.scratch = some (startedAt x y started)
  placed : invocation.scheduler.stage.renderer = none → ∀ target : Target Rat,
    invocation.target? = some target → target.isStage = false →
      result.2.scheduler.stage.target? invocation.target = some { target with
        x := between x (args.number "X") (shareOf (invocation.now - started)
          (Invocation.millisecondsOf (args.number "SECS")))
        y := between y (args.number "Y") (shareOf (invocation.now - started)
          (Invocation.millisecondsOf (args.number "SECS"))) }

/-- A glide that goes on is as far as the time says, or it is over. -/
theorem continueGlide_glides (quiet : invocation.yielded = false)
    (noted : invocation.frame.notes.scratch = some (startedAt x y started)) (args : Args Rat) :
    Glides invocation args x y started (continueGlide args invocation) := by
  have start : glideStart invocation.frame.notes (args.number "X") (args.number "Y")
      invocation.now = (x, y, started) := by
    rw [glideStart, noted]
    rfl
  unfold continueGlide
  dsimp only
  rw [start, less_exact]
  dsimp only
  split
  case isTrue inside =>
    have share : shareOf (invocation.now - started)
        (Invocation.millisecondsOf (args.number "SECS")) =
        (invocation.now - started) / Invocation.millisecondsOf (args.number "SECS") :=
      if_pos (of_decide_eq_true inside)
    refine ⟨rfl, inside.symm, noted, fun undrawn target present sprite => ?_⟩
    rw [share]
    exact Stage.target_setPosition present sprite undrawn _ _ true
  case isFalse past =>
    have share : shareOf (invocation.now - started)
        (Invocation.millisecondsOf (args.number "SECS")) = 1 :=
      if_neg (by simpa using past)
    refine ⟨rfl, ?_, noted, fun undrawn target present sprite => ?_⟩
    · rw [Bool.not_eq_true] at past
      exact quiet.trans past.symm
    · rw [share, between_one, between_one]
      exact Stage.target_setPosition present sprite undrawn _ _ true

/-- A glide starts where the target is. If it takes time, it asks to be invoked again and does
not move; otherwise it goes on at once. -/
theorem runGlide_glides (quiet : invocation.yielded = false)
    (new : invocation.frame.isFirstRun = true) {target : Target Rat}
    (present : invocation.target? = some target) (args : Args Rat) :
    Glides invocation args target.x target.y invocation.now (runGlide args invocation) := by
  have positive : Scalar.less Scalar.zero
        (Scalar.maximum (args.number "SECS") (Scalar.zero : Rat)) =
      decide (0 < Invocation.millisecondsOf (args.number "SECS")) := by
    have greater : Invocation.millisecondsOf (args.number "SECS" : Rat) =
        Scalar.maximum (args.number "SECS") Scalar.zero * 1000 := rfl
    rw [less_exact, greater, decide_eq_decide]
    change 0 < _ ↔ _
    exact (mul_pos_iff_of_pos_right (by decide)).symm
  unfold runGlide Invocation.onTarget
  rw [if_pos new, present]
  dsimp only
  rw [positive]
  split
  case isTrue lasting =>
    have positive := of_decide_eq_true lasting
    refine ⟨rfl, ?_, rfl, fun undrawn found same sprite => ?_⟩
    · rw [sub_self]
      exact lasting.symm
    · obtain rfl : target = found := Option.some.inj (present.symm.trans same)
      rw [sub_self, shareOf_zero positive, between_zero, between_zero]
      exact present
  case isFalse =>
    let noted : Invocation τ Rat :=
      (invocation.setDeadline (Scalar.maximum (args.number "SECS") Scalar.zero)).withNotes
        fun notes => { notes with scratch := some (startedAt target.x target.y invocation.now) }
    have kept : noted.frame.notes.scratch =
        some (startedAt target.x target.y invocation.now) := rfl
    have still : noted.yielded = false := quiet
    have goesOn := continueGlide_glides still kept args
    exact ⟨goesOn.value, goesOn.yielded, goesOn.scratch, goesOn.placed⟩

/-- A glide that has nothing to move fails. -/
theorem runGlide_missing (new : invocation.frame.isFirstRun = true)
    (absent : invocation.target? = none) (args : Args Rat) :
    runGlide args invocation = invocation.fault (.targetUnavailable invocation.target) := by
  unfold runGlide Invocation.onTarget
  rw [if_pos new, absent]

/-- At a later run a glide goes on. -/
theorem runGlide_again (known : invocation.frame.isFirstRun = false) (args : Args Rat) :
    runGlide args invocation = continueGlide args invocation := by
  unfold runGlide
  rw [known, if_neg Bool.false_ne_true]

end MotionBlock

/-! ## Both -/

/-- The argument that says for how many seconds a block lasts. -/
def Block.span? : Block → Option String
  | .motion .glide => some "SECS"
  | block => block.pause?

/-- Apart from the glide, a block that lasts for a span pauses for it. -/
theorem Block.pause_of_span {block : Block} {name : String} (lasts : block.span? = some name)
    (other : block ≠ .motion .glide) : block.pause? = some name := by
  unfold Block.span? at lasts
  split at lasts
  case h_1 => exact absurd rfl other
  case h_2 => exact lasts

end SpriteMachine
