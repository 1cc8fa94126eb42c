import SpriteMachine.Proofs.Scheduler.Moment
import SpriteMachine.Proofs.Scheduler.Stop

/-!
# What reaches the devices

Threads, targets, scripts and the worker are one thing, the devices another. Hats, stops and
clones leave the devices alone, and so does everything that is done around a block when it
is invoked.
-/

namespace SpriteMachine

namespace Scheduler

variable {τ α : Type}

/-- To retire threads leaves the devices as they are. -/
@[simp]
theorem devices_retireAll (scheduler : Scheduler τ α) (ids : List ThreadId) :
    (scheduler.retireAll ids).devices = scheduler.devices :=
  (retireAll_undisturbed ids scheduler).devices

/-- To end a thread leaves the devices as they are. -/
@[simp]
theorem devices_endThread (scheduler : Scheduler τ α) (id : ThreadId) :
    (scheduler.endThread id).2.devices = scheduler.devices := by
  unfold endThread
  split <;> rfl

/-- To adopt threads leaves the devices as they are. -/
theorem devices_adoptAll (entries : List (ScriptId × Registration)) (scheduler : Scheduler τ α) :
    (scheduler.adoptAll entries).2.devices = scheduler.devices := by
  induction entries generalizing scheduler with
  | nil => rfl
  | cons entry rest inductionHypothesis => exact inductionHypothesis _

variable [Transport τ α]

/-- To start hats leaves the devices as they are. -/
@[simp]
theorem devices_startHats (scheduler : Scheduler τ α) (hat : String) (filter : HatFilter) :
    (scheduler.startHats hat filter).2.devices = scheduler.devices := by
  obtain ⟨bridge, undisturbed⟩ := startHats_undisturbed scheduler hat filter
  exact undisturbed.devices

/-- To stop a thread leaves the devices as they are. -/
@[simp]
theorem devices_stopThread (scheduler : Scheduler τ α) (id : ThreadId) :
    (scheduler.stopThread id).2.devices = scheduler.devices := by
  obtain ⟨bridge, undisturbed⟩ := stopThread_undisturbed scheduler id
  exact undisturbed.devices

/-- To open a backend leaves the devices as they are. -/
theorem devices_openBackend (scheduler : Scheduler τ α) (url : String) :
    (scheduler.openBackend url).2.devices = scheduler.devices := by
  unfold openBackend
  split
  case h_1 => rfl
  case h_2 => split <;> rfl

variable [Scalar α]

/-- A notice leaves the devices as they are. -/
@[simp]
theorem devices_emit (scheduler : Scheduler τ α) (notice : Notice) :
    (scheduler.emit notice).devices = scheduler.devices := rfl

/-- To stop everything leaves the devices as they are. -/
@[simp]
theorem devices_stopAll (scheduler : Scheduler τ α) :
    scheduler.stopAll.devices = scheduler.devices :=
  (stopAll_stops scheduler).devices

/-- To stop the threads of a target leaves the devices as they are. -/
@[simp]
theorem devices_stopForTarget (scheduler : Scheduler τ α) (target : TargetId)
    (keep : Option ThreadId) :
    (scheduler.stopForTarget target keep).2.devices = scheduler.devices :=
  devices_retireAll scheduler _

/-- To make a clone leaves the devices as they are. -/
@[simp]
theorem devices_makeClone (scheduler : Scheduler τ α) (source : TargetId) :
    (scheduler.makeClone source).2.devices = scheduler.devices := by
  unfold makeClone
  split
  case isTrue => rfl
  case isFalse =>
    split
    case h_1 => rfl
    case h_2 =>
      split
      case isTrue => rfl
      case isFalse =>
        dsimp only
        split
        case isTrue => exact devices_startHats _ cloneHat _
        case isFalse => rfl

/-- To remove a clone leaves the devices as they are. -/
@[simp]
theorem devices_disposeClone (scheduler : Scheduler τ α) (id : TargetId) :
    (scheduler.disposeClone id).2.devices = scheduler.devices := by
  unfold disposeClone
  split
  case h_1 => rfl
  case h_2 =>
    split
    case isTrue => rfl
    case isFalse => exact devices_retireAll scheduler _

/-- To start the scripts of a key leaves the devices as they are. -/
@[simp]
theorem devices_pressKey (scheduler : Scheduler τ α) (key : String) :
    (scheduler.pressKey key).2.devices = scheduler.devices := by
  have first := devices_startHats (scheduler.emit (.keyPressed key)) keyPressedHat
    ⟨some key, none⟩
  unfold pressKey
  dsimp only
  split
  case isTrue =>
    split
    case h_1 scheduler started =>
      rw [started] at first
      exact first
    case h_2 scheduler started =>
      rw [started] at first
      have second := devices_startHats scheduler keyPressedHat ⟨some "any", none⟩
      split
      case h_1 last others =>
        rw [others] at second
        exact second.trans first
      case h_2 last others =>
        rw [others] at second
        exact second.trans first
  case isFalse => rfl

omit [Transport τ α] in
/-- To link a batch leaves the devices as they are. -/
theorem devices_linkKnown (scheduler : Scheduler τ α) (batch : Batch) :
    (scheduler.linkKnown batch).2.devices = scheduler.devices := by
  unfold linkKnown
  split <;> rfl

/-- To load scripts leaves the devices as they are. -/
theorem devices_loadScripts (scheduler : Scheduler τ α) (batch : Batch) :
    (scheduler.loadScripts batch).2.devices = scheduler.devices := by
  have linked := devices_linkKnown scheduler batch
  unfold loadScripts
  split
  case h_1 named =>
    rw [named] at linked
    exact linked
  case h_2 named =>
    rw [named] at linked
    split
    case h_1 => exact linked
    case h_2 => exact (devices_retireAll _ _).trans linked

/-- To run a batch at once leaves the devices as they are. -/
theorem devices_runBatch (scheduler : Scheduler τ α) (batch : Batch) :
    (scheduler.runBatch batch).2.devices = scheduler.devices := by
  have linked := devices_linkKnown scheduler batch
  unfold runBatch
  split
  case h_1 named =>
    rw [named] at linked
    exact linked
  case h_2 found left named =>
    rw [named] at linked
    have adopted := devices_adoptAll found.registrations.entries left
    generalize left.adoptAll found.registrations.entries = registered at adopted
    obtain ⟨starts, adopting⟩ := registered
    dsimp only
    split
    case h_1 => exact (devices_retireAll _ _).trans (adopted.trans linked)
    case h_2 => exact adopted.trans linked

/-- To remove targets leaves the devices as they are. -/
theorem devices_disposeTargets (ids : List TargetId) (scheduler : Scheduler τ α) :
    (scheduler.disposeTargets ids).devices = scheduler.devices := by
  induction ids generalizing scheduler with
  | nil => rfl
  | cons first rest inductionHypothesis =>
    refine (inductionHypothesis _).trans ?_
    dsimp only
    split <;> rfl

/-- To add a target leaves the devices as they are. -/
theorem devices_addTarget (scheduler : Scheduler τ α) (target : Target α) :
    (scheduler.addTarget target).devices = scheduler.devices := by
  unfold addTarget
  dsimp only
  split <;> rfl

/-- To start a scheduler leaves the devices as they are. -/
theorem devices_start (scheduler : Scheduler τ α) :
    scheduler.start.devices = scheduler.devices := by
  unfold start
  split <;> rfl

/-- The green flag resets the timer and does nothing else to the devices. -/
theorem devices_greenFlag (scheduler : Scheduler τ α) :
    scheduler.greenFlag.2.devices =
      { scheduler.devices with clock := scheduler.devices.clock.reset } := by
  rw [greenFlag_eq, devices_startHats]
  change { scheduler.stopAll.devices with clock := scheduler.stopAll.devices.clock.reset } = _
  rw [devices_stopAll]

/-- So does disposing. -/
theorem devices_dispose (scheduler : Scheduler τ α) :
    scheduler.dispose.devices =
      { scheduler.devices with clock := scheduler.devices.clock.reset } := by
  have emptied := devices_disposeTargets scheduler.stopAll.stage.targets.keys scheduler.stopAll
  unfold dispose
  dsimp only
  rw [devices_emit, emptied, devices_stopAll]

/-- Around a block that is invoked nothing happens to the devices. -/
theorem devices_invoke (scheduler : Scheduler τ α) (id : ThreadId) (target : TargetId)
    (block : Block) (frame : Frame α) :
    (scheduler.invoke id target block frame).2.devices =
      (block.run frame.args ⟨scheduler.noteInvocation id target frame, id, target, frame,
        false⟩).2.scheduler.devices := by
  generalize ran : block.run frame.args
    ⟨scheduler.noteInvocation id target frame, id, target, frame, false⟩ = outcome
  obtain ⟨result, left⟩ := outcome
  rcases invoke_ends ran with ⟨value, completes, again, same⟩ | ⟨bridge, results, same⟩
  · rw [same]
    rfl
  · rw [same]

omit [Scalar α] in
/-- To take up a block leaves the devices to the block. -/
theorem TakesUp.devices {now taken : Scheduler τ α} {id : ThreadId} {target : TargetId}
    {block : Block} {frame : Frame α} (takes : TakesUp now id target block frame taken) :
    taken.devices = now.devices := by
  cases takes with
  | resumed wakes known =>
    obtain ⟨found, yielding, woken, popped, rfl⟩ := wakes
    rfl
  | called received found active known => rfl
  | executed found active known => rfl

/-- Dealing with a message that is no call leaves the devices alone. -/
theorem devices_handleMessage {message : WorkerMessage α} (scheduler : Scheduler τ α)
    (report : StepReport)
    (otherwise : ∀ target caller opcode args token,
      message ≠ .call target caller opcode args token) :
    (handleMessage scheduler report message).2.devices = scheduler.devices := by
  cases message with
  | call target caller opcode args token => exact absurd rfl (otherwise _ _ _ _ _)
  | ended thread =>
    rw [handleMessage, handleEnded_left]
    exact devices_endThread scheduler thread
  | scriptError thread text =>
    change (handleScriptError scheduler report thread text).2.devices = _
    unfold handleScriptError
    dsimp only
    split
    case h_1 => rfl
    case h_2 => split <;> rfl
  | _ => rfl

end Scheduler

end SpriteMachine
