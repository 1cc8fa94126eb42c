import SpriteMachine.Proofs.Block.Devices
import SpriteMachine.Proofs.Device.Clock
import SpriteMachine.Proofs.Scheduler.Replay

/-!
# Time in a run

The host moves the time source forward and pauses or resumes the clock when it likes. Between
two moments of a run the timer gains the time that passes outside of pauses, unless somebody
resets it: a block, a command that the host posts, the green flag or the end of the project.
What the timer shows is therefore the time that passed since the start less the readings that
resets threw away.
-/

namespace SpriteMachine

/-- A clock goes on: its source moves forward, or it is paused or resumed. -/
inductive Clock.GoesOn (clock : Clock Rat) : Clock Rat → Prop where
  | moved {moment : Rat} (forward : clock.source ≤ moment) : GoesOn clock (clock.setSource moment)
  | turned {command : ClockCommand} (keeps : command.reset = false) :
      GoesOn clock (clock.obey command)

namespace Clock.GoesOn

variable {before after : Clock Rat}

/-- A clock that is left alone goes on. -/
theorem refl (clock : Clock Rat) : clock.GoesOn clock := .moved (le_refl clock.source)

/-- A clock that goes on has its source move forward. -/
theorem forward (goesOn : before.GoesOn after) : before.source ≤ after.source := by
  cases goesOn with
  | moved forward => exact forward
  | turned keeps => rw [source_obey]

/-- The timer gains what passes. -/
theorem timer (goesOn : before.GoesOn after) :
    after.timerMilliseconds = before.timerMilliseconds + passed before after := by
  cases goesOn with
  | moved forward => exact timerMilliseconds_setSource before _
  | @turned command keeps =>
    rw [timerMilliseconds_obey, keeps, passed_eq_zero (source_obey before command), add_zero,
      if_neg Bool.false_ne_true]

end Clock.GoesOn

namespace Scheduler

variable {τ : Type} [Transport τ Rat]

/-- What the host does to the clock with its own hands lets it go on. -/
def Timely (scheduler : Scheduler τ Rat) : Operation τ Rat → Prop
  | .changeDevices change =>
    scheduler.devices.clock.GoesOn (change scheduler.devices).clock
  | _ => True

/-- The timer is reset: a block does it, a posted command, the green flag or disposing. -/
inductive Resets (before after : Scheduler τ Rat) : Prop where
  | block {id : ThreadId} {target : TargetId} {frame : Frame Rat} {taken : Scheduler τ Rat}
      (takes : TakesUp before id target (.sensing .resetTimer) frame taken)
      (leaves : after = (taken.invoke id target (.sensing .resetTimer) frame).2)
  | command {data : Json} {command : ClockCommand}
      (reads : ClockCommand.ofJson? data = some command) (resets : command.reset = true)
      (leaves : after = (before.postData "clock" data).2)
  | greenFlag (leaves : after = before.greenFlag.2)
  | dispose (leaves : after = before.dispose)

section Turning

variable {before after : Scheduler τ Rat}

/-- A command posted to the clock is obeyed. -/
theorem clock_postData (scheduler : Scheduler τ Rat) {data : Json} {command : ClockCommand}
    (reads : ClockCommand.ofJson? data = some command) :
    (scheduler.postData "clock" data).2.devices.clock = scheduler.devices.clock.obey command := by
  simp [postData, Devices.post, reads]

/-- A reset throws the reading away, and no time passes meanwhile. -/
theorem Resets.clock (resets : Resets before after) :
    after.devices.clock.timerMilliseconds = 0 ∧
      after.devices.clock.source = before.devices.clock.source := by
  cases resets with
  | @block id target frame taken takes leaves =>
    rw [leaves, devices_invoke, SensingBlock.devices_resetTimer]
    constructor
    · exact Clock.timerMilliseconds_reset _
    · change taken.devices.clock.source = before.devices.clock.source
      rw [takes.devices]
  | command reads resets leaves =>
    rw [leaves, clock_postData before reads, Clock.timerMilliseconds_obey, resets]
    exact ⟨if_pos rfl, Clock.source_obey _ _⟩
  | greenFlag leaves =>
    rw [leaves, devices_greenFlag]
    exact ⟨Clock.timerMilliseconds_reset _, rfl⟩
  | dispose leaves =>
    rw [leaves, devices_dispose]
    exact ⟨Clock.timerMilliseconds_reset _, rfl⟩

omit [Transport τ Rat] in
/-- Who leaves the devices alone lets the clock go on. -/
theorem goesOn_of_devices (same : after.devices = before.devices) :
    before.devices.clock.GoesOn after.devices.clock := by
  rw [same]
  exact .refl _

/-- An invocation lets the clock go on unless the block resets the timer. -/
theorem Invokes.time (invokes : Invokes before after) :
    before.devices.clock.GoesOn after.devices.clock ∨ Resets before after := by
  obtain ⟨id, target, block, frame, taken, takes, leaves⟩ := invokes
  by_cases resets : block = .sensing .resetTimer
  · subst resets
    exact Or.inr (.block takes leaves)
  · refine Or.inl (goesOn_of_devices ?_)
    rw [leaves, devices_invoke, Block.devices_run resets]
    exact takes.devices

/-- Posted data lets the clock go on, unless it resets the timer. -/
theorem postData_time (scheduler : Scheduler τ Rat) (device : String) (data : Json) :
    scheduler.devices.clock.GoesOn (scheduler.postData device data).2.devices.clock ∨
      Resets scheduler (scheduler.postData device data).2 := by
  by_cases clock : device = "clock"
  · subst clock
    cases reads : ClockCommand.ofJson? data with
    | none =>
      refine Or.inl (goesOn_of_devices ?_)
      simp [postData, Devices.post, reads]
    | some command =>
      cases resets : command.reset with
      | false =>
        rw [clock_postData scheduler reads]
        exact Or.inl (.turned resets)
      | true => exact Or.inr (.command reads resets rfl)
  · have same : (scheduler.devices.post device data).2.clock = scheduler.devices.clock := by
      unfold Devices.post
      split
      case h_1 => exact absurd rfl clock
      case h_2 => split <;> rfl
      case h_3 => split <;> rfl
      case h_4 => split <;> rfl
      case h_5 => rfl
    left
    unfold postData
    split
    case h_1 posted =>
      rw [posted] at same
      rw [← same]
      exact .refl _
    case h_2 posted =>
      rw [posted] at same
      rw [← same]
      exact .refl _
    case h_3 posted =>
      rw [posted] at same
      rw [devices_pressKey, ← same]
      exact .refl _

/-- An operation between two ticks lets the clock go on, unless it resets the timer. -/
theorem perform_time (scheduler : Scheduler τ Rat) {operation : Operation τ Rat}
    (timely : scheduler.Timely operation) (between : operation ≠ .step) :
    scheduler.devices.clock.GoesOn (scheduler.perform operation).devices.clock ∨
      Resets scheduler (scheduler.perform operation) := by
  have still : ∀ {after : Scheduler τ Rat}, after.devices = scheduler.devices →
      scheduler.devices.clock.GoesOn after.devices.clock ∨ Resets scheduler after :=
    fun same => Or.inl (goesOn_of_devices same)
  cases operation with
  | addTarget target => exact still (devices_addTarget scheduler target)
  | openBackend url => exact still (devices_openBackend scheduler url)
  | loadScripts batch => exact still (devices_loadScripts scheduler batch)
  | runBatch batch => exact still (devices_runBatch scheduler batch)
  | startHats hat filter => exact still (devices_startHats scheduler hat filter)
  | greenFlag => exact Or.inr (.greenFlag rfl)
  | stopAll => exact still (devices_stopAll scheduler)
  | stopForTarget target keep => exact still (devices_stopForTarget scheduler target keep)
  | stopThread thread => exact still (devices_stopThread scheduler thread)
  | makeClone source => exact still (devices_makeClone scheduler source)
  | disposeClone target => exact still (devices_disposeClone scheduler target)
  | postData device data => exact postData_time scheduler device data
  | endThread thread => exact still (devices_endThread scheduler thread)
  | execute id opcode args token =>
    rcases execute_cases scheduler id opcode args token with invokes | same
    · exact invokes.time
    · refine still ?_
      change (scheduler.call id opcode args token).2.devices = _
      rw [same]
  | step => exact absurd rfl between
  | start => exact still (devices_start scheduler)
  | dispose => exact Or.inr (.dispose rfl)
  | changeDevices change => exact Or.inl timely
  | _ => exact still rfl

/-- A phase of a tick lets the clock go on, unless a block in it resets the timer. -/
theorem Phase.time (phase : Phase before after) :
    before.devices.clock.GoesOn after.devices.clock ∨ Resets before after := by
  have still : after.devices = before.devices →
      before.devices.clock.GoesOn after.devices.clock ∨ Resets before after :=
    fun same => Or.inl (goesOn_of_devices same)
  cases phase with
  | resume report id =>
    obtain invokes | same | ⟨thread, frame, wakes⟩ := resume_cases before report id
    · exact invokes.time
    · exact still (congrArg Scheduler.devices same)
    · obtain ⟨-, -, woken, -, same⟩ := wakes
      exact still (by rw [same])
  | @receive message bridge received report =>
    by_cases calls : ∃ target caller opcode args token,
        message = .call target caller opcode args token
    · obtain ⟨target, caller, opcode, args, token, rfl⟩ := calls
      rcases handleCall_cases received report with invokes | ⟨later, same⟩
      · exact invokes.time
      · refine still ?_
        change (handleCall _ _ _ _ _ _).2.devices = _
        rw [same]
    · refine still (devices_handleMessage _ report ?_)
      intro target caller opcode args token same
      exact calls ⟨target, caller, opcode, args, token, same⟩
  | _ => exact still rfl

/-- From one moment to the next the clock goes on, or the timer is reset. -/
theorem Turn.time (turn : Turn Timely before after) :
    before.devices.clock.GoesOn after.devices.clock ∨ Resets before after := by
  cases turn with
  | operate operation timely between => exact perform_time before timely between
  | phase phase => exact phase.time

end Turning

namespace Timeline

variable {start : Scheduler τ Rat} {timeline : Timeline Timely start} {first index later : Nat}

/-- What the timer shows at a moment. -/
def timer (timeline : Timeline Timely start) (index : Nat) : Rat :=
  (timeline.moment index).devices.clock.timerMilliseconds

/-- The timer is reset behind a moment. -/
def Resets (timeline : Timeline Timely start) (index : Nat) : Prop :=
  Scheduler.Resets (timeline.moment index) (timeline.moment (index + 1))

/-- Nobody resets the timer from one moment to another. -/
def Unreset (timeline : Timeline Timely start) (from_ until_ : Nat) : Prop :=
  ∀ index, from_ ≤ index → index < until_ → ¬timeline.Resets index

/-- The time that has passed up to a moment, pauses not counted. -/
def unpaused (timeline : Timeline Timely start) : Nat → Rat
  | 0 => 0
  | index + 1 => timeline.unpaused index +
      Clock.passed (timeline.moment index).devices.clock (timeline.moment (index + 1)).devices.clock

open Classical in
/-- The readings of the timer that resets have thrown away up to a moment, together. -/
noncomputable def forgotten (timeline : Timeline Timely start) : Nat → Rat
  | 0 => 0
  | index + 1 =>
    timeline.forgotten index + if timeline.Resets index then timeline.timer index else 0

/-- From one moment to the next no time passes backwards. -/
theorem passed_nonneg (timeline : Timeline Timely start) {index : Nat}
    (within : index < timeline.length) :
    0 ≤ Clock.passed (timeline.moment index).devices.clock
      (timeline.moment (index + 1)).devices.clock := by
  rcases (timeline.turns index within).time with goesOn | resets
  · exact Clock.passed_nonneg goesOn.forward
  · exact (Clock.passed_eq_zero resets.clock.2).ge

/-- The timer shows the time that has passed but for the readings that were thrown away. -/
theorem timer_eq (zero : timeline.timer 0 = 0) (within : index ≤ timeline.length) :
    timeline.timer index = timeline.unpaused index - timeline.forgotten index := by
  induction index with
  | zero =>
    rw [zero, unpaused, forgotten]
    exact (sub_self 0).symm
  | succ index inductionHypothesis =>
    have before := inductionHypothesis (by omega)
    rw [unpaused, forgotten]
    by_cases resets : timeline.Resets index
    · have clock := Scheduler.Resets.clock resets
      have reset : timeline.timer (index + 1) = 0 := clock.1
      rw [if_pos resets, Clock.passed_eq_zero clock.2, before, reset]
      ring
    · have goesOn := (timeline.turns index within).time.resolve_right resets
      have gains : timeline.timer (index + 1) = timeline.timer index + _ := goesOn.timer
      rw [if_neg resets, gains, before]
      ring

/-- A timer that begins at zero is never negative. -/
theorem timer_nonneg (zero : timeline.timer 0 = 0) (within : index ≤ timeline.length) :
    0 ≤ timeline.timer index := by
  induction index with
  | zero => exact zero.ge
  | succ index inductionHypothesis =>
    rcases (timeline.turns index within).time with goesOn | resets
    · have gains : timeline.timer (index + 1) = timeline.timer index + _ := goesOn.timer
      rw [gains]
      exact add_nonneg (inductionHypothesis (by omega)) (timeline.passed_nonneg within)
    · exact resets.clock.1.ge

/-- Time does not run backwards. -/
theorem unpaused_le (order : first ≤ later) (within : later ≤ timeline.length) :
    timeline.unpaused first ≤ timeline.unpaused later := by
  induction later, order using Nat.le_induction with
  | base => exact le_refl _
  | succ later order inductionHypothesis =>
    have passes := timeline.passed_nonneg within
    rw [unpaused]
    exact (inductionHypothesis (by omega)).trans (le_add_of_nonneg_right passes)

/-- What was thrown away is not given back. -/
theorem forgotten_le (zero : timeline.timer 0 = 0) (order : first ≤ later)
    (within : later ≤ timeline.length) : timeline.forgotten first ≤ timeline.forgotten later := by
  induction later, order using Nat.le_induction with
  | base => exact le_refl _
  | succ later order inductionHypothesis =>
    rw [forgotten]
    refine (inductionHypothesis (by omega)).trans (le_add_of_nonneg_right ?_)
    split
    case isTrue => exact timer_nonneg zero (by omega)
    case isFalse => exact le_refl 0

/-- Where nobody resets the timer nothing is thrown away. -/
theorem forgotten_eq (order : first ≤ later) (kept : timeline.Unreset first later) :
    timeline.forgotten later = timeline.forgotten first := by
  induction later, order using Nat.le_induction with
  | base => rfl
  | succ later order inductionHypothesis =>
    have before := inductionHypothesis fun index from_ until_ => kept index from_ (by omega)
    rw [forgotten, if_neg (kept later order (by omega)), before, add_zero]

end Timeline

end Scheduler

end SpriteMachine
