import SpriteMachine.Proofs.Scheduler.Moment

/-!
# What happens to the stage

Whatever a scheduler does, its stage changes by the operations of the stage alone. So its
targets stand under their own names at every moment, and it never counts more clones than
there are.
-/

namespace SpriteMachine

/-- An operation that changes the stage by the stage's own operations at most. -/
def Operation.KeepsStage {τ α : Type} : Operation τ α → Prop
  | .changeStage change => ∀ stage, Stage.Changes stage (change stage)
  | _ => True

namespace Scheduler

variable {τ α : Type} {before after : Scheduler τ α}

/-- A step on the threads changes nothing on the stage. -/
theorem Framed.changes (framed : Framed before after) : Stage.Changes before.stage after.stage :=
  framed.stage ▸ .refl

variable [Transport τ α]

/-- A stroke changes nothing on the stage that is no change of it. -/
theorem Stroke.changes (stroke : Stroke before after) :
    Stage.Changes before.stage after.stage := by
  cases stroke with
  | quiet quiet => exact quiet.stage
  | finish id =>
    unfold endThread
    split <;> exact .refl
  | _ => exact .refl

/-- Strokes lead from one stage to another by changes of it. -/
theorem Strokes.changes (strokes : Strokes before after) :
    Stage.Changes before.stage after.stage := by
  induction strokes with
  | refl => exact .refl
  | tail _ stroke inductionHypothesis => exact inductionHypothesis.trans stroke.changes

/-- To answer the worker leaves the stage. -/
theorem answer_stage (scheduler : Scheduler τ α) (token : Option Token)
    (reply : Token → HostMessage α) : (scheduler.answer token reply).2.stage = scheduler.stage := by
  cases token with
  | none => rfl
  | some token => rw [answer_some]

/-- The stage is the same where the frame is taken from. -/
theorem TakesUp.stage {now taken : Scheduler τ α} {id : ThreadId} {target : TargetId}
    {block : Block} {frame : Frame α} (takes : TakesUp now id target block frame taken) :
    taken.stage = now.stage := by
  cases takes with
  | resumed wakes known =>
    obtain ⟨-, -, woken, -, rfl⟩ := wakes
    rfl
  | _ => rfl

variable [Scalar α]

/-- A beat leads from one stage to another by changes of it. -/
theorem Beat.changes {before after : Instant τ α} (beat : Beat before after) :
    Stage.Changes before.scheduler.stage after.scheduler.stage := by
  cases beat with
  | act act => exact act.strokes.changes
  | answer scheduler id frame reply answers more agreed faults =>
    exact answer_stage scheduler frame.token reply ▸ .refl
  | @ended scheduler id bridge received more missing faults =>
    exact (Stroke.finish { scheduler with bridge := bridge } id).changes
  | _ => exact .refl

/-- Beats lead from one stage to another by changes of it. -/
theorem Beats.changes {before after : Instant τ α} (beats : Beats before after) :
    Stage.Changes before.scheduler.stage after.scheduler.stage := by
  induction beats with
  | refl => exact .refl
  | tail _ beat inductionHypothesis => exact inductionHypothesis.trans beat.changes

omit [Scalar α] in
/-- To open a backend leaves the stage. -/
theorem openBackend_changes (scheduler : Scheduler τ α) (url : String) :
    Stage.Changes scheduler.stage (scheduler.openBackend url).2.stage := by
  unfold openBackend
  split
  case h_1 => exact .refl
  case h_2 => split <;> exact .refl

/-- To load scripts leads to another stage by changes of it. -/
theorem loadScripts_changes (scheduler : Scheduler τ α) (batch : Batch) :
    Stage.Changes scheduler.stage (scheduler.loadScripts batch).2.stage := by
  have named := (linkKnown_quiet scheduler batch).stage
  unfold loadScripts
  split
  case h_1 fault left result =>
    rw [result] at named
    exact named
  case h_2 linked left result =>
    rw [result] at named
    have retired := fun bridge : Bridge τ α =>
      (retireAll_framed left.threads.keys { left with bridge := bridge }).changes
    split
    case h_1 => exact named
    case h_2 bridge posted => exact named.trans (retired bridge)

/-- To run a batch at once leads to another stage by changes of it. -/
theorem runBatch_changes (scheduler : Scheduler τ α) (batch : Batch) :
    Stage.Changes scheduler.stage (scheduler.runBatch batch).2.stage := by
  have named := (linkKnown_quiet scheduler batch).stage
  unfold runBatch
  split
  case h_1 fault left result =>
    rw [result] at named
    exact named
  case h_2 linked left result =>
    rw [result] at named
    have adopted := named.trans (adoptAll_framed linked.registrations.entries left).changes
    generalize left.adoptAll linked.registrations.entries = registered at adopted
    obtain ⟨starts, adopting⟩ := registered
    have retired := fun bridge : Bridge τ α => (retireAll_framed (starts.map ThreadStart.thread)
      { adopting with bridge := bridge }).changes
    dsimp only
    split
    case h_1 fault bridge posted => exact adopted.trans (retired bridge)
    case h_2 => exact adopted

/-- A call leads to another stage by changes of it. -/
theorem call_changes (scheduler : Scheduler τ α) (id : ThreadId) (opcode : String) (args : Args α)
    (token : Option Token) :
    Stage.Changes scheduler.stage (scheduler.call id opcode args token).2.stage := by
  obtain ⟨fault, -, -, failed⟩ | ⟨target, block, live, known, calls⟩ :=
    call_cases scheduler id opcode args token
  · rw [failed]
  · rw [calls]
    exact (invoke_beats target block (.fresh opcode args token) live known []).changes

/-- No operation changes the stage in another way. -/
theorem perform_changes (scheduler : Scheduler τ α) {operation : Operation τ α}
    (keeps : operation.KeepsStage) :
    Stage.Changes scheduler.stage (scheduler.perform operation).stage := by
  have rhythmic : IsRhythmic operation →
      Stage.Changes scheduler.stage (scheduler.perform operation).stage := by
    intro rhythmic
    obtain ⟨faults, beats⟩ := perform_beats scheduler rhythmic
    exact beats.changes
  cases operation with
  | openBackend url => exact openBackend_changes scheduler url
  | loadScripts batch => exact loadScripts_changes scheduler batch
  | runBatch batch => exact runBatch_changes scheduler batch
  | registerThread target hasListener =>
    exact (addThread_stroke scheduler target hasListener).changes
  | endThread thread => exact (Stroke.finish scheduler thread).changes
  | execute id opcode args token => exact call_changes scheduler id opcode args token
  | quit => exact .refl
  | changeStage change => exact keeps scheduler.stage
  | changeDevices change => exact .refl
  | changeBridge change => exact .refl
  | _ => exact rhythmic trivial

/-- The stage changes by its own operations from one moment to a later one. -/
theorem Moments.changes {allowed : Scheduler τ α → Operation τ α → Prop}
    (keeps : ∀ scheduler operation, allowed scheduler operation → operation.KeepsStage)
    (moments : Moments allowed before after) : Stage.Changes before.stage after.stage :=
  moments.induct (fun now => Stage.Changes before.stage now.stage)
    (fun scheduler operation permitted changes =>
      changes.trans (perform_changes scheduler (keeps scheduler operation permitted)))
    (fun _ _ _ beats changes => changes.trans beats.changes) .refl

end Scheduler

end SpriteMachine
