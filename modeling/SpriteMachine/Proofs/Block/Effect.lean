import SpriteMachine.Proofs.Block.Local
import SpriteMachine.Proofs.Scheduler.Tally

/-!
# The effect of every block

Whatever block runs, it acts on the scheduler by the acts that blocks have, clones are
accounted for behind it, and it keeps the thread, the target and the call its frame stands for.
A frame that yields is therefore the frame that was invoked, with other notes.
-/

namespace SpriteMachine

variable {τ α : Type} [Scalar α] [Transport τ α]

/-- What a block makes of its invocation. -/
structure Works (before after : Invocation τ α) : Prop where
  acts : Scheduler.Acts before.scheduler after.scheduler
  tallies : Scheduler.Tallies before.scheduler after.scheduler
  thread : after.thread = before.thread
  target : after.target = before.target
  opcode : after.frame.opcode = before.frame.opcode
  args : after.frame.args = before.frame.args
  token : after.frame.token = before.frame.token
  state : after.frame.state = before.frame.state

/-- What most blocks make of it: they touch no reported value and note no thread. -/
structure Tends (before after : Invocation τ α) : Prop extends Works before after where
  tames : Scheduler.Tames before.scheduler after.scheduler
  spawned : after.frame.notes.spawned = before.frame.notes.spawned

namespace Works

variable {first second third invocation : Invocation τ α}

/-- A block that does nothing works within the bounds. -/
theorem refl (invocation : Invocation τ α) : Works invocation invocation :=
  ⟨.refl, .refl _, rfl, rfl, rfl, rfl, rfl, rfl⟩

/-- Two pieces of work make one. -/
theorem trans (before : Works first second) (after : Works second third) : Works first third where
  acts := before.acts.trans after.acts
  tallies := before.tallies.trans after.tallies
  thread := after.thread.trans before.thread
  target := after.target.trans before.target
  opcode := after.opcode.trans before.opcode
  args := after.args.trans before.args
  token := after.token.trans before.token
  state := after.state.trans before.state

/-- A block that acts on the scheduler only. -/
theorem ofActs {scheduler : Scheduler τ α} (acts : Scheduler.Acts invocation.scheduler scheduler)
    (tallies : Scheduler.Tallies invocation.scheduler scheduler) :
    Works invocation { invocation with scheduler := scheduler } :=
  ⟨acts, tallies, rfl, rfl, rfl, rfl, rfl, rfl⟩

/-- Taking a note is work within the bounds. -/
theorem withNotes (change : FrameNotes α → FrameNotes α) :
    Works invocation (invocation.withNotes change) :=
  ⟨.refl, .refl _, rfl, rfl, rfl, rfl, rfl, rfl⟩

/-- Values are reported, collected or logged. -/
theorem record (returns : OrderedMap ThreadId (Value α)) (journal : List (Value α)) :
    Works invocation { invocation with
      scheduler := { invocation.scheduler with returns := returns, journal := journal } } :=
  ofActs (.quiet ⟨rfl, rfl, rfl, rfl, rfl, rfl, .refl _, .refl, fun _ _ known => known⟩)
    (.refl _)

/-- Reporting a value is work within the bounds. -/
theorem report (value : Value α) : Works invocation (invocation.report value) :=
  record _ _

end Works

namespace Tends

variable {invocation : Invocation τ α}

/-- A block that does nothing touches no reported value and notes no thread. -/
theorem refl (invocation : Invocation τ α) : Tends invocation invocation :=
  ⟨.refl invocation, .refl, rfl⟩

/-- A block that acts on the scheduler only. -/
theorem ofTames {scheduler : Scheduler τ α}
    (tames : Scheduler.Tames invocation.scheduler scheduler)
    (tallies : Scheduler.Tallies invocation.scheduler scheduler) :
    Tends invocation { invocation with scheduler := scheduler } :=
  ⟨.ofActs tames.acts tallies, tames, rfl⟩

/-- Hats are started without a reported value touched or a thread noted. -/
theorem startHats (invocation : Invocation τ α) (hat : String) (filter : HatFilter) :
    Tends invocation (invocation.startHats hat filter).2 := by
  rw [Invocation.startHats_left]
  exact ofTames (.single (.startHats _ _ _)) (.startHats _ _ _)

/-- A thread stops itself without a reported value touched or a thread noted. -/
theorem stopThisThread : Tends invocation invocation.stopThisThread :=
  ofTames (.single (.stopThread _ _)) (.stopThread _ _)

/-- The other threads are stopped without a reported value touched or a thread noted. -/
theorem stopOtherThreads : Tends invocation invocation.stopOtherThreads :=
  ofTames (.stopForTarget _ _ _) (.stopForTarget _ _ _)

/-- Everything is stopped without a reported value touched or a thread noted. -/
theorem stopAll : Tends invocation invocation.stopAll :=
  ofTames (.single (.stopAll _)) (.stopAll _)

/-- A clone removes itself without a reported value touched or a thread noted. -/
theorem disposeThisClone (invocation : Invocation τ α) :
    Tends invocation invocation.disposeThisClone.2 := by
  rw [Invocation.disposeThisClone_left]
  exact ofTames (.disposeClone _ _) (.disposeClone _ _)

end Tends

/-- A block that touches stage, devices and motors only. -/
theorem Local.tends {first second : Invocation τ α} (confined : Local first second) :
    Tends first second := by
  obtain ⟨⟨stage, devices, motors, renews, same⟩, thread, target, opcode, args, token, state,
    spawned⟩ := confined
  have tames : Scheduler.Tames first.scheduler second.scheduler := by
    rw [same]
    exact .mild ⟨⟨rfl, rfl, rfl, rfl, rfl, rfl, .refl _, renews.changes, fun _ _ known => known⟩,
      rfl⟩
  have tallies : Scheduler.Tallies first.scheduler second.scheduler := by
    rw [same]
    exact .still renews rfl (.refl _)
  exact ⟨⟨tames.acts, tallies, thread, target, opcode, args, token, state⟩, tames, spawned⟩

/-- The end of a wait for hats leaves the invocation or asks to be invoked again. -/
theorem Works.awaitHats (invocation : Invocation τ α) (hat : String) (filter : HatFilter) :
    Works invocation (invocation.awaitHats hat filter).2 := by
  have settles : ∀ invocation : Invocation τ α, Works invocation
      (if invocation.isWaiting then
          ((.ok none : Except BlockFault (Option (List ThreadId))), invocation.yieldThread)
        else (.ok (some invocation.frame.notes.spawned), invocation)).2 := by
    intro invocation
    split
    case isTrue => exact Local.yieldThread.tends.toWorks
    case isFalse => exact refl invocation
  have starts := (Tends.startHats invocation hat filter).toWorks
  unfold Invocation.awaitHats
  dsimp only
  split
  case isTrue =>
    split
    case h_1 fault left result =>
      rw [result] at starts
      exact starts
    case h_2 started left result =>
      rw [result] at starts
      exact starts.trans ((withNotes _).trans (settles _))
  case isFalse => exact settles invocation

/-! ## Control -/

namespace ControlBlock

variable {invocation : Invocation τ α}

/-- A wait notes no thread. -/
theorem runWait_tends (args : Args α) : Tends invocation (runWait args invocation).2 := by
  unfold runWait
  dsimp only
  split
  case isTrue => exact ((Local.setDeadline _ _).trans .yieldThread).tends
  case isFalse => exact (Local.waitFor _ _).tends

/-- A stop notes no thread, whatever it stops. -/
theorem runStop_tends (args : Args α) : Tends invocation (runStop args invocation).2 := by
  unfold runStop
  split
  case h_1 => exact .stopAll
  case h_2 => exact .stopThisThread
  case h_3 => exact .stopOtherThreads
  case h_4 => exact .stopOtherThreads
  case h_5 => exact .refl invocation

/-- Making a clone notes no thread, also where the clone starts hats. -/
theorem runCreateClone_tends (args : Args α) :
    Tends invocation (runCreateClone args invocation).2 := by
  cases named : cloneSource? args invocation with
  | none =>
    rw [runCreateClone, named]
    exact .refl invocation
  | some source =>
    rw [runCreateClone_left named]
    exact .ofTames (.makeClone _ _) (.makeClone _ _)

/-- No control block touches a reported value or notes a thread. -/
theorem run_tends (block : ControlBlock) (args : Args α) :
    Tends invocation (block.run args invocation).2 := by
  cases block with
  | wait => exact runWait_tends args
  | stop => exact runStop_tends args
  | createClone => exact runCreateClone_tends args
  | deleteClone => exact .disposeThisClone invocation

end ControlBlock

/-! ## Broadcasts and procedures -/

/-- A broadcast that waits for nobody notes no thread. -/
theorem EventBlock.broadcast_tends (args : Args α) (invocation : Invocation τ α) :
    Tends invocation (EventBlock.broadcast.run args invocation).2 := by
  rw [broadcast_left]
  exact .startHats invocation _ _

/-- Every event block works within the bounds. -/
theorem EventBlock.run_works (block : EventBlock) (args : Args α) (invocation : Invocation τ α) :
    Works invocation (block.run args invocation).2 := by
  cases block with
  | broadcast => exact (broadcast_tends args invocation).toWorks
  | broadcastAndWait =>
    rw [broadcastAndWait_left]
    exact .awaitHats invocation _ _

namespace ProcedureBlock

variable {invocation : Invocation τ α}

/-- Collecting the values of callees is work within the bounds. -/
theorem collect_works (found : Option (Value α)) (callees : List ThreadId) :
    Works invocation (collect invocation found callees).2 := by
  induction callees generalizing invocation found with
  | nil => exact .refl invocation
  | cons first rest inductionHypothesis =>
    exact (Works.record _ _).trans (inductionHypothesis _)

/-- Calling the definitions under a hat is work within the bounds. -/
theorem callUnder_works (invocation : Invocation τ α) (hat : String) (args : Args α) :
    Works invocation (callUnder hat args invocation).2 :=
  .awaitHats _ _ _

/-- Every procedure block works within the bounds. -/
theorem run_works (block : ProcedureBlock) (args : Args α) :
    Works invocation (block.run args invocation).2 := by
  cases block with
  | call =>
    rw [call_left]
    exact callUnder_works invocation procedureHat args
  | callForValue =>
    have calls := callUnder_works invocation reportingProcedureHat args
    unfold ProcedureBlock.run
    dsimp only
    split
    case h_1 left result =>
      rw [result] at calls
      exact calls
    case h_2 left result =>
      rw [result] at calls
      exact calls
    case h_3 callees left result =>
      rw [result] at calls
      exact calls.trans (collect_works none callees)
  | report => exact (Works.report _).trans Tends.stopThisThread.toWorks

end ProcedureBlock

/-! ## Probes and all blocks -/

namespace ProbeBlock

variable {invocation : Invocation τ α}

omit [Transport τ α] in
/-- The probe that yields counts in its own frame. -/
theorem runYieldTimes_local (args : Args α) :
    Local invocation (runYieldTimes args invocation).2 := by
  unfold runYieldTimes
  dsimp only
  split
  case isTrue =>
    refine .trans (.withNotes ?_) .yieldThread
    exact fun _ => rfl
  case isFalse =>
    dsimp only [Invocation.give]
    exact .withNotes fun _ => rfl

omit [Transport τ α] in
/-- The probe that fails may ask to be invoked again before it does. -/
theorem runFail_local (args : Args α) : Local invocation (runFail args invocation).2 := by
  unfold runFail
  split
  case isTrue => exact .yieldThread
  case isFalse => split <;> exact .refl invocation

/-- What the probe does on its second invocation is work within the bounds. -/
theorem runLater_works (args : Args α) : Works invocation (runLater args invocation).2 := by
  have disposes := Tends.disposeThisClone invocation
  unfold runLater
  split
  case isTrue => exact Local.yieldThread.tends.toWorks
  case isFalse =>
    split
    case h_1 => exact Tends.stopAll.toWorks
    case h_2 => exact Tends.stopOtherThreads.toWorks
    case h_3 => exact Tends.stopThisThread.toWorks
    case h_4 => exact disposes.toWorks
    case h_5 => exact (Swift.ofStage (.requestRedraw _)).tends.toWorks
    case h_6 => exact .ofActs (.quiet (.ofEmit _ _)) (.ofEmit _ _ ⟨rfl, rfl⟩)
    case h_7 => exact (Works.report _).trans (.report _)
    case h_8 => exact Local.yieldThread.tends.toWorks

/-- The probe that starts hats notes no thread. -/
theorem runStart_tends (args : Args α) : Tends invocation (runStart args invocation).2 := by
  rw [runStart_left]
  exact .startHats invocation _ _

/-- Every probe works within the bounds. -/
theorem run_works (block : ProbeBlock) (args : Args α) :
    Works invocation (block.run args invocation).2 := by
  cases block with
  | log => exact .record _ _
  | value => exact .refl invocation
  | yieldTimes => exact (runYieldTimes_local args).tends.toWorks
  | forever => exact Local.yieldThread.tends.toWorks
  | fail => exact (runFail_local args).tends.toWorks
  | later => exact runLater_works args
  | start => exact (runStart_tends args).toWorks
  | self => exact .refl invocation

end ProbeBlock

/-- A block that touches no reported value and waits for no thread that it starts; probes,
which may do anything, are left out. -/
def Block.IsTending : Block → Prop
  | .event .broadcastAndWait => False
  | .procedure _ => False
  | .probe _ => False
  | _ => True

/-- A tending block touches no reported value and notes no thread. -/
theorem Block.run_tends {block : Block} (tending : block.IsTending) (args : Args α)
    (invocation : Invocation τ α) : Tends invocation (block.run args invocation).2 := by
  cases block with
  | event block =>
    cases block with
    | broadcast => exact EventBlock.broadcast_tends args invocation
    | broadcastAndWait => exact tending.elim
  | control block => exact block.run_tends args
  | motion block => exact (block.run_local args).tends
  | looks block => exact (block.run_local args).tends
  | sensing block => exact (block.run_swift args invocation).tends
  | procedure block => exact tending.elim
  | motor block => exact (block.run_swift args invocation).tends
  | probe block => exact tending.elim
  | overriddenSay => exact .refl invocation

/-- Every block does its work by acts of blocks. -/
theorem Block.run_works (block : Block) (args : Args α) (invocation : Invocation τ α) :
    Works invocation (block.run args invocation).2 := by
  cases block with
  | event block => exact block.run_works args invocation
  | procedure block => exact block.run_works args
  | probe block => exact block.run_works args
  | _ =>
    refine (Block.run_tends ?_ args invocation).toWorks
    exact trivial

end SpriteMachine
