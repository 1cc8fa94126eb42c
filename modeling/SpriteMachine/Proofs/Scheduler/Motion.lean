import SpriteMachine.Proofs.Block.Motion
import SpriteMachine.Proofs.Scheduler.Round
import SpriteMachine.Proofs.Scheduler.Scenery

/-!
# Motion on the stage target

A motion block that runs on the stage target leaves the stage as it finds it, at its first
invocation and whenever it is invoked again, whoever calls it and whatever happens in between.
The one exception is the block that chooses how a target turns: it gives the stage target the
style, and its drawable the pose that goes with it.
-/

namespace SpriteMachine

namespace Scheduler

variable {τ α : Type} [Scalar α] [Transport τ α]

/-- What an invocation leaves on the stage is what its block does. -/
theorem stage_invoke (scheduler : Scheduler τ α) (id : ThreadId) (target : TargetId)
    (block : Block) (frame : Frame α) :
    (scheduler.invoke id target block frame).2.stage =
      (blockOutcome scheduler id target block frame).2.scheduler.stage := by
  rw [blockOutcome]
  generalize ran : block.run frame.args
    ⟨scheduler.noteInvocation id target frame, id, target, frame, false⟩ = outcome
  obtain ⟨result, left⟩ := outcome
  rcases invoke_ends ran with ⟨value, -, -, same⟩ | ⟨bridge, results, same⟩
  · rw [same]
    rfl
  · rw [same]

namespace Timeline

variable {allowed : Scheduler τ α → Operation τ α → Prop} {start : Scheduler τ α}
  {timeline : Timeline allowed start} {first later : timeline.Call}

namespace Call

/-- The stage that an invocation finds. -/
def stageBefore (call : timeline.Call) : Stage α := (timeline.moment call.index).stage

/-- The stage right behind an invocation. -/
def stageAfter (call : timeline.Call) : Stage α := (timeline.moment (call.index + 1)).stage

/-- The stage behind a call is the one that its block leaves. -/
theorem stageAfter_eq (call : timeline.Call) :
    call.stageAfter = call.outcome.2.scheduler.stage := by
  rw [stageAfter, call.leaves, stage_invoke]
  rfl

/-- What an invocation of a motion block that meets no sprite makes of the stage. -/
structure SparesStage (call : timeline.Call) (motion : MotionBlock) : Prop where
  /-- Unless the block gives a style, no target, no drawable and nothing else changes. -/
  plain : motion.style? call.frame.args = none → call.stageAfter = call.stageBefore
  /-- If it does, the stage target gets the style, its drawable is turned and scaled
  accordingly, and no other target and no other drawable changes. -/
  styled : ∀ style target, motion.style? call.frame.args = some style →
    call.stageBefore.target? call.target = some target →
      Stage.Restyled call.stageBefore call.stageAfter call.target style
  /-- A style is given to nobody if the target is gone. -/
  absent : call.stageBefore.target? call.target = none → call.stageAfter = call.stageBefore

/-- Each invocation of a motion block spares a stage on which it meets no sprite. -/
theorem sparesStage (call : timeline.Call) {motion : MotionBlock}
    (moves : call.block = .motion motion)
    (spriteless : call.stageBefore.Spriteless call.target) : call.SparesStage motion := by
  let invocation : Invocation τ α :=
    ⟨call.taken.noteInvocation call.thread call.target call.frame, call.thread, call.target,
      call.frame, false⟩
  have found : invocation.scheduler.stage = call.stageBefore := call.takes.stage
  have left : call.stageAfter =
      (motion.run call.frame.args invocation).2.scheduler.stage := by
    rw [stageAfter_eq, outcome, blockOutcome, moves]
    rfl
  have styles : ∀ style, motion.style? call.frame.args = some style →
      call.stageAfter = (call.stageBefore.setRotationStyle call.target style).2 := by
    intro style given
    rw [left, MotionBlock.run_styles given, found]
  have plain : motion.style? call.frame.args = none → call.stageAfter = call.stageBefore := by
    intro plain
    rw [left, MotionBlock.run_spriteless (found ▸ spriteless) plain, found]
  constructor
  · exact plain
  · intro style target given present
    rw [styles style given]
    exact Stage.setRotationStyle_restyled present style
  · intro absent
    cases given : motion.style? call.frame.args with
    | none => exact plain given
    | some style => rw [styles style given, Stage.setRotationStyle_absent absent]

/-- All invocations of a call run the block that its opcode names. -/
theorem block_of_chain (chain : Relation.ReflTransGen Again first later) {motion : Block}
    (offered : (first.frame.opcode, motion) ∈ Package.motion.blocks) : later.block = motion := by
  induction chain with
  | refl => exact Registry.block_of_motion offered first.takes.known
  | tail _ again inductionHypothesis => exact again.block.trans inductionHypothesis

end Call

end Timeline

/-- Motion blocks spare the stage target. Whoever calls one, with whatever arguments, and whatever
happens while it is not done: neither its first invocation nor any later one changes a target or
a drawable when it meets no sprite under the name of its target, unless the block chooses a
style. Then the stage target gets the style and its drawable the pose, and no other target or
drawable changes. -/
theorem motion_spares_the_stage {allowed : Scheduler τ α → Operation τ α → Prop}
    {start : Scheduler τ α} {timeline : Timeline allowed start} {first later : timeline.Call}
    {motion : MotionBlock}
    (offered : (first.frame.opcode, Block.motion motion) ∈ Package.motion.blocks)
    (chain : Relation.ReflTransGen Timeline.Call.Again first later)
    (spriteless : later.stageBefore.Spriteless later.target) : later.SparesStage motion :=
  later.sparesStage (Timeline.Call.block_of_chain chain offered) spriteless

/-- A thread glides on the stage target, and the next tick resumes it. -/
def stageGlide : Timeline (fun _ _ => True) standardScheduler :=
  (Timeline.still standardScheduler)
    |>.andThen (.operate _ .attachRenderer trivial (by simp))
    |>.andThen (.operate _ (.addTarget (.stage ⟨"stage"⟩)) trivial (by simp))
    |>.andThen (.operate _ (.registerThread ⟨"stage"⟩ false) trivial (by simp))
    |>.andThen (.operate _ (.execute ⟨"#0"⟩ "motion_glidesecstoxy"
      (.ofList [("SECS", .int 1), ("X", .int 50), ("Y", .int 50)]) none) trivial (by simp))
    |>.andThen (.phase (.begin _))
    |>.andThen (.phase (.sweep _))
    |>.andThen (.phase (.resume _ ⟨1, false, [], 0, 0, [], []⟩ ⟨"#0"⟩))

/-- The last invocation in that run goes on with a glide on the stage target, which is drawn. -/
theorem stageGlide_resumes : ∃ later : stageGlide.Call, later.index = 6 ∧
    later.target = ⟨"stage"⟩ ∧ later.frame.opcode = "motion_glidesecstoxy" ∧
      later.frame.isFirstRun = false := by
  have grows : (stageGlide.moment 7).invocations.length ≠
      (stageGlide.moment 6).invocations.length := by
    decide +kernel
  have within : 6 < stageGlide.length := by decide
  obtain ⟨later, last, recorded⟩ := (stageGlide.recorded within).resolve_left
    fun same => grows (congrArg List.length same)
  have entry : (stageGlide.moment 7).invocations.getLast?.map (fun entry =>
      (entry.2.1, entry.2.2.opcode, entry.2.2.isFirstRun)) =
        some (⟨"stage"⟩, "motion_glidesecstoxy", false) := by
    decide +kernel
  rw [recorded, List.getLast?_concat, Option.map_some, Option.some.injEq] at entry
  obtain ⟨target, shape⟩ := Prod.mk.inj entry
  obtain ⟨opcode, resumed⟩ := Prod.mk.inj shape
  exact ⟨later, last, target, opcode, resumed⟩

/-- It changes nothing. -/
theorem stageGlide_spared : ∃ first later : stageGlide.Call,
    Relation.TransGen Timeline.Call.Again first later ∧
      (later.stageBefore.target? later.target).map (fun target =>
        (target.isStage, target.drawable.isSome)) = some (true, true) ∧
      later.stageAfter = later.stageBefore := by
  obtain ⟨later, last, target, opcode, resumed⟩ := stageGlide_resumes
  have piled : Piled standardScheduler := fresh_piled .standard .standard
    (.idle none : Inline Rat) (.atRest .reliable Motors.defaultBackoff) IdSource.numbered_distinct
  obtain ⟨first, new, chain⟩ := later.exists_first piled fun _ => rfl
  have again : Relation.TransGen Timeline.Call.Again first later := by
    refine (Relation.reflTransGen_iff_eq_or_transGen.mp chain).resolve_left ?_
    rintro rfl
    rw [resumed] at new
    cases new
  have same : first.frame.opcode = later.frame.opcode :=
    (((stageGlide.replays piled fun _ => rfl).same first later again).1.opcode).symm
  have offered : (first.frame.opcode, Block.motion .glide) ∈ Package.motion.blocks := by
    rw [same, opcode]
    decide
  have stands : (later.stageBefore.target? later.target).map (fun target =>
      (target.isStage, target.drawable.isSome)) = some (true, true) := by
    rw [Timeline.Call.stageBefore, last, target]
    decide +kernel
  have spriteless : later.stageBefore.Spriteless later.target := by
    intro found present
    rw [present] at stands
    exact (Prod.mk.inj (Option.some.inj stands)).1
  have spared := motion_spares_the_stage offered chain spriteless
  exact ⟨first, later, again, stands, spared.plain rfl⟩

/-- A stage target that is described as looking left is drawn, and a thread runs on it. -/
def leftward : List (Operation (Inline Rat) Rat) :=
  [.attachRenderer, .addTarget (.ofSpec {
      id := ⟨"stage"⟩, name := "Stage", isStage := true, x := 0, y := 0, direction := -90
      visible := true, size := 100, costume := 0, costumeCount := none
      rotationStyle := .allAround, memory := .empty }),
    .registerThread ⟨"stage"⟩ false]

/-- The thread chooses how the stage target turns: the stage target turns in that style from then
on, and what shows it is turned and mirrored. -/
theorem leftward_stage_flips :
    let before := standardScheduler.run leftward
    let after := before.perform (.execute ⟨"#0"⟩ "motion_setrotationstyle"
      (.ofList [("STYLE", .text "left-right")]) none)
    (before.standing ⟨"#0"⟩).map Thread.target = some ⟨"stage"⟩ ∧
      (before.stage.target? ⟨"stage"⟩).map (fun target =>
        (target.isStage, target.rotationStyle)) = some (true, .allAround) ∧
      (after.stage.target? ⟨"stage"⟩).map (fun target =>
        (target.isStage, target.rotationStyle)) = some (true, .leftRight) ∧
      (before.stage.renderer.bind (·.drawables.find? ⟨0⟩)).map (fun drawable =>
        (drawable.look.direction, drawable.look.scale)) = some (-90, (100, 100)) ∧
      (after.stage.renderer.bind (·.drawables.find? ⟨0⟩)).map (fun drawable =>
        (drawable.look.direction, drawable.look.scale)) = some (90, (-100, 100)) := by
  decide +kernel

end Scheduler

end SpriteMachine
