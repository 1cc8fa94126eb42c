import Mathlib.Logic.Relation
import SpriteMachine.Proofs.Identifier
import SpriteMachine.Proofs.Stage
import SpriteMachine.Scheduler.Lifecycle

/-!
# What a block may do to a scheduler

A block reaches the threads of a scheduler in few ways: it starts hats, stops
everything, stops a thread or the threads of a target. All else that it does is quiet:
it concerns stage, devices, motors, notices and records, and at most draws names. The
acts of a block are listed once here; what every act preserves, every block does. Most
of what a host does comes down to the same acts.
-/

namespace SpriteMachine

namespace Scheduler

variable {τ α : Type}

/-- A change that leaves threads and worker alone and loads no script. -/
structure Quiet (before after : Scheduler τ α) : Prop where
  config : after.config = before.config
  registry : after.registry = before.registry
  bridge : after.bridge = before.bridge
  threads : after.threads = before.threads
  retired : after.retired = before.retired
  chronicle : after.chronicle = before.chronicle
  ids : IdSource.Continues before.ids after.ids
  stage : Stage.Changes before.stage after.stage
  scripts : ∀ id registration, after.scripts.find? id = some registration →
    before.scripts.find? id = some registration

namespace Quiet

variable {first second third : Scheduler τ α}

/-- To do nothing is quiet. -/
theorem refl (scheduler : Scheduler τ α) : Quiet scheduler scheduler :=
  ⟨rfl, rfl, rfl, rfl, rfl, rfl, .refl _, .refl, fun _ _ known => known⟩

/-- Two quiet changes are one. -/
theorem trans (before : Quiet first second) (after : Quiet second third) : Quiet first third where
  config := after.config.trans before.config
  registry := after.registry.trans before.registry
  bridge := after.bridge.trans before.bridge
  threads := after.threads.trans before.threads
  retired := after.retired.trans before.retired
  chronicle := after.chronicle.trans before.chronicle
  ids := before.ids.trans after.ids
  stage := before.stage.trans after.stage
  scripts id registration known :=
    before.scripts id registration (after.scripts id registration known)

/-- A change of the stage by its own operations. -/
theorem ofStage (scheduler : Scheduler τ α) {stage : Stage α}
    (changes : Stage.Changes scheduler.stage stage) :
    Quiet scheduler { scheduler with stage := stage } :=
  ⟨rfl, rfl, rfl, rfl, rfl, rfl, .refl _, changes, fun _ _ known => known⟩

variable [Scalar α] [Transport τ α]

/-- A notice is quiet. -/
theorem ofEmit (scheduler : Scheduler τ α) (notice : Notice) :
    Quiet scheduler (scheduler.emit notice) :=
  ⟨rfl, rfl, rfl, rfl, rfl, rfl, .refl _, .refl, fun _ _ known => known⟩

end Quiet

/-- A quiet change that leaves the reported values alone too. -/
structure Mild (before after : Scheduler τ α) : Prop extends Quiet before after where
  returns : after.returns = before.returns

namespace Mild

variable {first second third : Scheduler τ α}

/-- To do nothing is mild. -/
theorem refl (scheduler : Scheduler τ α) : Mild scheduler scheduler := ⟨.refl scheduler, rfl⟩

/-- Two mild changes are one. -/
theorem trans (before : Mild first second) (after : Mild second third) : Mild first third :=
  ⟨before.toQuiet.trans after.toQuiet, after.returns.trans before.returns⟩

/-- A change of the stage alone is mild. -/
theorem ofStage (scheduler : Scheduler τ α) {stage : Stage α}
    (changes : Stage.Changes scheduler.stage stage) :
    Mild scheduler { scheduler with stage := stage } :=
  ⟨.ofStage scheduler changes, rfl⟩

variable [Scalar α] [Transport τ α]

/-- A notice is mild. -/
theorem ofEmit (scheduler : Scheduler τ α) (notice : Notice) :
    Mild scheduler (scheduler.emit notice) :=
  ⟨.ofEmit scheduler notice, rfl⟩

end Mild

variable [Scalar α] [Transport τ α]

/-- To announce removals is mild. -/
theorem announceRemoved_mild (targets : List TargetId) (scheduler : Scheduler τ α) :
    Mild scheduler (scheduler.announceRemoved targets) := by
  induction targets generalizing scheduler with
  | nil => exact .refl scheduler
  | cons first rest inductionHypothesis =>
    exact (Mild.ofEmit scheduler (.targetWasRemoved first)).trans (inductionHypothesis _)

/-- To remove every clone is mild. -/
theorem disposeClones_mild (scheduler : Scheduler τ α) :
    Mild scheduler scheduler.disposeClones :=
  (Mild.ofStage scheduler (.disposeClones _)).trans (announceRemoved_mild _ _)

/-- To remove targets is mild. -/
theorem disposeTargets_mild (ids : List TargetId) (scheduler : Scheduler τ α) :
    Mild scheduler (scheduler.disposeTargets ids) := by
  induction ids generalizing scheduler with
  | nil => exact .refl scheduler
  | cons first rest inductionHypothesis =>
    refine Mild.trans ?_ (inductionHypothesis _)
    have removed : Stage.Changes scheduler.stage (scheduler.stage.dispose first).2 :=
      .single (.dispose _ first)
    dsimp only
    split
    case h_1 target stage result =>
      rw [result] at removed
      exact (Mild.ofStage scheduler removed).trans (.ofEmit _ _)
    case h_2 stage result =>
      rw [result] at removed
      exact .ofStage scheduler removed

/-- To add a target is mild. -/
theorem addTarget_mild (scheduler : Scheduler τ α) (target : Target α) :
    Mild scheduler (scheduler.addTarget target) := by
  have added := Mild.ofStage scheduler (.add _ target)
  unfold Scheduler.addTarget
  dsimp only
  split
  case isTrue => exact added
  case isFalse => exact added.trans (.ofEmit _ _)

/-- To start a scheduler is mild. -/
theorem start_mild (scheduler : Scheduler τ α) : Mild scheduler scheduler.start := by
  unfold Scheduler.start
  split
  case isTrue => exact .refl scheduler
  case isFalse =>
    exact ⟨⟨rfl, rfl, rfl, rfl, rfl, rfl, .refl _, .refl, fun _ _ known => known⟩, rfl⟩

/-- One act of a block. -/
inductive Act : Scheduler τ α → Scheduler τ α → Prop where
  | quiet {before after : Scheduler τ α} (quiet : Quiet before after) : Act before after
  | startHats (scheduler : Scheduler τ α) (hat : String) (filter : HatFilter) :
      Act scheduler (scheduler.startHats hat filter).2
  | dismiss (scheduler : Scheduler τ α) (target : TargetId) (chosen : ThreadId → Bool) :
      Act scheduler
        ((scheduler.retireAll ((scheduler.activeThreadsOn target).filter chosen)).tellStopped
          ((scheduler.activeThreadsOn target).filter chosen))
  | stopThread (scheduler : Scheduler τ α) (thread : ThreadId) :
      Act scheduler (scheduler.stopThread thread).2
  | stopAll (scheduler : Scheduler τ α) : Act scheduler scheduler.stopAll

/-- Several acts one after another. -/
abbrev Acts : Scheduler τ α → Scheduler τ α → Prop := Relation.ReflTransGen Act

/-- A quiet change counts as one act. -/
theorem Acts.quiet {before after : Scheduler τ α} (quiet : Quiet before after) :
    Acts before after :=
  .single (.quiet quiet)

/-- The scheduler whose scripts the green flag starts: everything was stopped, and the timer
was reset. -/
def cleared (scheduler : Scheduler τ α) : Scheduler τ α :=
  let stopped := scheduler.stopAll.emit .projectStart
  { stopped with
    stage := stopped.stage.onGreenFlag
    devices := { stopped.devices with clock := stopped.devices.clock.reset } }

/-- The green flag clears everything and then starts its hats. -/
theorem greenFlag_eq (scheduler : Scheduler τ α) :
    scheduler.greenFlag = scheduler.cleared.startHats greenFlagHat .any := rfl

/-- An act that neither reports a value nor collects one. -/
inductive Tame : Scheduler τ α → Scheduler τ α → Prop where
  | mild {before after : Scheduler τ α} (mild : Mild before after) : Tame before after
  | startHats (scheduler : Scheduler τ α) (hat : String) (filter : HatFilter) :
      Tame scheduler (scheduler.startHats hat filter).2
  | dismiss (scheduler : Scheduler τ α) (target : TargetId) (chosen : ThreadId → Bool) :
      Tame scheduler
        ((scheduler.retireAll ((scheduler.activeThreadsOn target).filter chosen)).tellStopped
          ((scheduler.activeThreadsOn target).filter chosen))
  | stopThread (scheduler : Scheduler τ α) (thread : ThreadId) :
      Tame scheduler (scheduler.stopThread thread).2
  | stopAll (scheduler : Scheduler τ α) : Tame scheduler scheduler.stopAll

/-- A tame act is an act. -/
theorem Tame.act {before after : Scheduler τ α} (tame : Tame before after) : Act before after := by
  cases tame with
  | mild mild => exact .quiet mild.toQuiet
  | startHats hat filter => exact .startHats before hat filter
  | dismiss target chosen => exact .dismiss before target chosen
  | stopThread thread => exact .stopThread before thread
  | stopAll => exact .stopAll before

/-- Several such acts one after another. -/
abbrev Tames : Scheduler τ α → Scheduler τ α → Prop := Relation.ReflTransGen Tame

namespace Tames

/-- Tame acts are acts. -/
theorem acts {before after : Scheduler τ α} (tames : Tames before after) : Acts before after :=
  Relation.ReflTransGen.mono (fun _ _ => Tame.act) _ _ tames

/-- A mild change counts as one tame act. -/
theorem mild {before after : Scheduler τ α} (mild : Mild before after) : Tames before after :=
  .single (.mild mild)

/-- Stopping the threads of a target is an act and a notice. -/
theorem stopForTarget (scheduler : Scheduler τ α) (target : TargetId) (keep : Option ThreadId) :
    Tames scheduler (scheduler.stopForTarget target keep).2 :=
  (Relation.ReflTransGen.single (.dismiss scheduler target _)).tail (.mild (.ofEmit _ _))

/-- Making a clone is mild but for the hats that it starts. -/
theorem makeClone (scheduler : Scheduler τ α) (source : TargetId) :
    Tames scheduler (scheduler.makeClone source).2 := by
  unfold Scheduler.makeClone
  split
  case isTrue => exact .refl
  case isFalse =>
    split
    case h_1 => exact .refl
    case h_2 parent present =>
      split
      case isTrue => exact .refl
      case isFalse =>
        dsimp only
        generalize drawn : scheduler.ids.draw (scheduler.stage.targets.keys.map TargetId.text) =
          draw
        obtain ⟨name, ids⟩ := draw
        have continues : IdSource.Continues scheduler.ids ids := by
          have moved := scheduler.ids.draw_continues
            (scheduler.stage.targets.keys.map TargetId.text)
          rw [drawn] at moved
          exact moved
        have added : Mild scheduler ({ scheduler with
            ids := ids
            stage := scheduler.stage.add (parent.clone ⟨name⟩) }.emit
              (.targetWasCreated ⟨name⟩ (some source))) :=
          ⟨⟨rfl, rfl, rfl, rfl, rfl, rfl, continues, .add _ _, fun _ _ known => known⟩, rfl⟩
        dsimp only
        split
        case isTrue => exact (mild added).tail (.startHats _ cloneHat _)
        case isFalse => exact mild added

/-- Removing a clone ends its threads first. -/
theorem disposeClone (scheduler : Scheduler τ α) (id : TargetId) :
    Tames scheduler (scheduler.disposeClone id).2 := by
  unfold Scheduler.disposeClone
  split
  case h_1 => exact .refl
  case h_2 =>
    split
    case isTrue => exact .refl
    case isFalse =>
      have everyone : (scheduler.activeThreadsOn id).filter (fun _ => true) =
          scheduler.activeThreadsOn id := List.filter_eq_self.mpr fun _ _ => rfl
      have dismissed := Tame.dismiss scheduler id fun _ => true
      rw [everyone] at dismissed
      refine (Relation.ReflTransGen.single dismissed).trans (mild ?_)
      exact (Mild.ofStage _ (.single (.dispose _ id))).trans (.ofEmit _ _)

/-- What the green flag does before it starts its hat. -/
theorem cleared (scheduler : Scheduler τ α) : Tames scheduler scheduler.cleared := by
  have stopped : Tames scheduler (scheduler.stopAll.emit .projectStart) :=
    (Relation.ReflTransGen.single (.stopAll scheduler)).tail (.mild (.ofEmit _ _))
  unfold Scheduler.cleared
  dsimp only
  generalize scheduler.stopAll.emit .projectStart = stopping at stopped
  have readied : Mild stopping { stopping with
      stage := stopping.stage.onGreenFlag
      devices := { stopping.devices with clock := stopping.devices.clock.reset } } :=
    ⟨⟨rfl, rfl, rfl, rfl, rfl, rfl, .refl _, .onGreenFlag _, fun _ _ known => known⟩, rfl⟩
  exact stopped.tail (.mild readied)

/-- The green flag stops everything and starts its hat. -/
theorem greenFlag (scheduler : Scheduler τ α) : Tames scheduler scheduler.greenFlag.2 :=
  (cleared scheduler).tail (.startHats _ greenFlagHat .any)

/-- A pressed key is announced and starts two hats at most. -/
theorem pressKey (scheduler : Scheduler τ α) (key : String) :
    Tames scheduler (scheduler.pressKey key).2 := by
  have announced := mild (Mild.ofEmit scheduler (.keyPressed key))
  unfold Scheduler.pressKey
  dsimp only
  split
  case isTrue =>
    have first := announced.tail
      (.startHats (scheduler.emit (.keyPressed key)) keyPressedHat ⟨some key, none⟩)
    split
    case h_1 fault left result =>
      rw [result] at first
      exact first
    case h_2 started left result =>
      rw [result] at first
      have second := first.tail (.startHats left keyPressedHat ⟨some "any", none⟩)
      split
      case h_1 fault last lastResult =>
        rw [lastResult] at second
        exact second
      case h_2 others last lastResult =>
        rw [lastResult] at second
        exact second
  case isFalse => exact announced

/-- Posted data is dealt with by tame acts, whatever device it is for. -/
theorem postData (scheduler : Scheduler τ α) (device : String) (data : Json) :
    Tames scheduler (scheduler.postData device data).2 := by
  have posted : ∀ devices : Devices α, Mild scheduler { scheduler with devices := devices } :=
    fun devices => ⟨⟨rfl, rfl, rfl, rfl, rfl, rfl, .refl _, .refl, fun _ _ known => known⟩, rfl⟩
  unfold Scheduler.postData
  split
  case h_1 => exact mild (posted _)
  case h_2 => exact mild (posted _)
  case h_3 => exact (mild (posted _)).trans (pressKey _ _)

/-- Disposing is stopping everything, as far as threads and worker are concerned. -/
theorem dispose (scheduler : Scheduler τ α) : Tames scheduler scheduler.dispose := by
  have emptied : Tames scheduler
      (scheduler.stopAll.disposeTargets scheduler.stopAll.stage.targets.keys) :=
    (Relation.ReflTransGen.single (.stopAll scheduler)).tail (.mild (disposeTargets_mild _ _))
  unfold Scheduler.dispose
  dsimp only
  generalize scheduler.stopAll.disposeTargets _ = left at emptied
  refine emptied.tail (.mild ⟨⟨rfl, rfl, rfl, rfl, rfl, rfl, .refl _, .refl, ?_⟩, rfl⟩)
  intro _ _ none
  cases none

end Tames

end Scheduler

end SpriteMachine
