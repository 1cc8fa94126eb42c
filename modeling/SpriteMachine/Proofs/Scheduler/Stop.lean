import SpriteMachine.Proofs.Scheduler.Standing
import SpriteMachine.Proofs.Stage

/-!
# What stopping everything leaves

When everything is stopped, each thread is ended, and only those on originals stay until the
next sweep. The clones go, the other targets lose their bubbles and effects, and no value is
kept.
-/

namespace SpriteMachine

namespace Scheduler

variable {τ α : Type}

/-- To end every thread disturbs nothing else. -/
theorem endEveryThread_undisturbed (scheduler : Scheduler τ α) :
    Undisturbed scheduler scheduler.endEveryThread := by
  have retired := retireAll_undisturbed scheduler.threads.keys scheduler
  exact ⟨⟨retired.config, retired.registry, retired.bridge, retired.stage⟩, retired.devices,
    retired.scripts, retired.returns, retired.notices⟩

/-- Every thread is ended, and those stay that run on an original. -/
theorem endEveryThread_find (scheduler : Scheduler τ α) (id : ThreadId) :
    scheduler.endEveryThread.threads.find? id =
      ((scheduler.threads.find? id).map Thread.finish).filter fun thread =>
        (scheduler.stage.target? thread.target).any fun target => !target.isClone := by
  have stage := (retireAll_undisturbed scheduler.threads.keys scheduler).stage
  unfold endEveryThread
  dsimp only
  rw [OrderedMap.find_filter, find_retireAll, stage]
  cases found : scheduler.threads.find? id with
  | none => rfl
  | some thread =>
    have known : id ∈ scheduler.threads.keys := OrderedMap.mem_keys_iff.mpr ⟨thread, found⟩
    rw [Option.map_some, if_pos known]
    rfl

/-- A target without bubble and effects is a clone if it was one. -/
theorem any_unadorned (target : Option (Target α)) :
    ((target.map Target.unadorned).any fun target => !target.isClone) =
      target.any fun target => !target.isClone := by
  cases target <;> rfl

variable [Scalar α] [Transport τ α]

/-- Announcements reach motors and subscribers only. -/
theorem announceRemoved_eq (targets : List TargetId) (scheduler : Scheduler τ α) :
    ∃ motors notices, scheduler.announceRemoved targets =
      { scheduler with motors := motors, notices := notices } := by
  induction targets generalizing scheduler with
  | nil => exact ⟨scheduler.motors, scheduler.notices, rfl⟩
  | cons first rest inductionHypothesis =>
    obtain ⟨motors, notices, same⟩ := inductionHypothesis (scheduler.emit (.targetWasRemoved first))
    exact ⟨motors, notices, same⟩

/-- A scheduler behind a stop: what was there in another state, and what was not touched. -/
structure Stops (before after : Scheduler τ α) : Prop where
  config : after.config = before.config
  registry : after.registry = before.registry
  bridge : after.bridge = (before.bridge.post .stopAll).2
  threads : ∀ id, after.threads.find? id =
    ((before.threads.find? id).map Thread.finish).filter fun thread =>
      (before.stage.target? thread.target).any fun target => !target.isClone
  stage : after.stage = before.stage.onStopAll.disposeClones.2.requestRedraw
  targets : before.stage.Keyed → ∀ id, after.stage.target? id =
    ((before.stage.target? id).map Target.unadorned).filter (!·.isClone)
  devices : after.devices = before.devices
  scripts : after.scripts = before.scripts
  returns : after.returns = .empty

/-- Stopping everything is such a stop. -/
theorem stopAll_stops (scheduler : Scheduler τ α) : Stops scheduler scheduler.stopAll := by
  have announced : ({ scheduler.emit .projectStopAll with
      stage := (scheduler.emit .projectStopAll).stage.onStopAll } : Scheduler τ α).stage =
        scheduler.stage.onStopAll := rfl
  have undisturbed := endEveryThread_undisturbed ({ scheduler.emit .projectStopAll with
      stage := (scheduler.emit .projectStopAll).stage.onStopAll } : Scheduler τ α)
  have finds := endEveryThread_find ({ scheduler.emit .projectStopAll with
      stage := (scheduler.emit .projectStopAll).stage.onStopAll } : Scheduler τ α)
  unfold stopAll
  dsimp only
  generalize endEveryThread _ = ended at undisturbed finds
  unfold disposeClones
  dsimp only
  obtain ⟨motors, notices, same⟩ := announceRemoved_eq
    (ended.stage.disposeClones.1.map Target.id)
    ({ ended with stage := ended.stage.disposeClones.2 } : Scheduler τ α)
  rw [same]
  have stage : ended.stage = scheduler.stage.onStopAll := undisturbed.stage.trans announced
  refine ⟨undisturbed.config, undisturbed.registry, ?_, fun id => ?_, ?_, fun keyed id => ?_,
    undisturbed.devices, undisturbed.scripts, rfl⟩
  · dsimp only
    rw [undisturbed.bridge]
    rfl
  · rw [finds]
    refine congrArg (Option.filter · _) (funext fun thread => ?_)
    rw [announced, Stage.target_onStopAll, any_unadorned]
  · exact congrArg (fun stage => stage.disposeClones.2.requestRedraw) stage
  · have targets := (Stage.Changes.onStopAll scheduler.stage).keyed keyed
    dsimp only
    rw [stage, ← Stage.target_onStopAll]
    exact targets.target_disposeClones id

omit [Scalar α] in
/-- No thread is live when everything was stopped. -/
theorem Stops.ended {before after : Scheduler τ α} (stops : Stops before after) {id : ThreadId}
    {thread : Thread α} (found : after.threads.find? id = some thread) : thread.isDone = true := by
  rw [stops.threads] at found
  obtain ⟨ended, -⟩ := Option.filter_eq_some_iff.mp found
  obtain ⟨earlier, -, rfl⟩ := Option.map_eq_some_iff.mp ended
  rfl

end Scheduler

end SpriteMachine
