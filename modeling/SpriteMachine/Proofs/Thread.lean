import SpriteMachine.Thread.Basic

/-!
# Threads keep their names and their ends

What a tick does to a thread changes neither its name nor whether it has ended. A thread
that rests runs and has nothing on its stack but its body.
-/

namespace SpriteMachine

namespace Thread

variable {α : Type}

/-- A new status leaves the name of a thread. -/
@[simp]
theorem setStatus_id (thread : Thread α) (status : ThreadStatus) :
    (thread.setStatus status).id = thread.id := by
  unfold setStatus
  split <;> rfl

/-- No status but that of the end ends a thread. -/
theorem setStatus_isDone (thread : Thread α) {status : ThreadStatus} (going : status ≠ .done) :
    (thread.setStatus status).isDone = thread.isDone := by
  unfold setStatus
  split
  case isTrue => rfl
  case isFalse active =>
    rw [Bool.not_eq_true] at active
    rw [active]
    exact decide_eq_false going

/-- Taking off a block's frame leaves the name of a thread. -/
theorem popBlock_id (thread : Thread α) : thread.popBlock.2.id = thread.id := by
  unfold popBlock
  split <;> rfl

/-- Taking off a block's frame neither ends a thread nor revives it. -/
theorem popBlock_isDone (thread : Thread α) : thread.popBlock.2.isDone = thread.isDone := by
  unfold popBlock
  split <;> rfl

/-- A thread runs with its body's frame alone. -/
def Rests (thread : Thread α) : Prop :=
  thread.status = .running ∧ ∃ name, thread.frames = [.body name]

/-- A thread that rests is active. -/
theorem Rests.active {thread : Thread α} (rests : thread.Rests) : thread.isActive = true := by
  rw [isActive, isDone, rests.1]
  rfl

/-- No status but the last one changes whether a thread is active. -/
theorem setStatus_isActive (thread : Thread α) {status : ThreadStatus} (going : status ≠ .done) :
    (thread.setStatus status).isActive = thread.isActive := by
  rw [isActive, setStatus_isDone thread going, isActive]

/-- A thread that rests and is suspended has the frame above its body. -/
theorem Rests.suspended {thread : Thread α} (rests : thread.Rests) (frame : Frame α) :
    (thread.push frame).setStatus .yielding =
      { thread with status := .yielding, frames := frame :: thread.frames } := by
  have active : (thread.push frame).isDone = false := by
    rw [isDone, push, rests.1]
    rfl
  rw [setStatus, active]
  rfl

/-- A plain thread rests at first. -/
theorem plain_rests (id : ThreadId) (target : TargetId) (hasListener : Bool) :
    (plain id target hasListener : Thread α).Rests :=
  ⟨rfl, bodyOpcode, rfl⟩

/-- A thread under a hat rests at first. -/
theorem forHat_rests (id : ThreadId) (target : TargetId) (binding : HatOrigin) :
    (forHat id target binding : Thread α).Rests :=
  ⟨rfl, binding.hat, rfl⟩

/-- A later state of a thread: it has the same name, target and binding, and is active only
if it was. -/
structure Leads (earlier later : Thread α) : Prop where
  id : later.id = earlier.id
  target : later.target = earlier.target
  binding : later.binding = earlier.binding
  active : later.isActive = true → earlier.isActive = true

/-- Every state of a thread leads to itself. -/
theorem Leads.refl (thread : Thread α) : thread.Leads thread :=
  ⟨rfl, rfl, rfl, fun active => active⟩

/-- What comes later than a later state is later. -/
theorem Leads.trans {first second third : Thread α} (before : first.Leads second)
    (after : second.Leads third) : first.Leads third :=
  ⟨after.id.trans before.id, after.target.trans before.target,
    after.binding.trans before.binding, fun active => before.active (after.active active)⟩

/-- A thread that is finished is a later state of itself. -/
theorem finish_leads (thread : Thread α) : thread.Leads thread.finish :=
  ⟨rfl, rfl, rfl, fun active => by cases active⟩

/-- A status but the last one leads to a later state. -/
theorem setStatus_leads (thread : Thread α) {status : ThreadStatus} (going : status ≠ .done) :
    thread.Leads (thread.setStatus status) := by
  refine ⟨setStatus_id thread status, ?_, ?_, fun active => ?_⟩
  · unfold setStatus
    split <;> rfl
  · unfold setStatus
    split <;> rfl
  · rw [setStatus_isActive thread going] at active
    exact active

/-- Taking off a block's frame leads to a later state. -/
theorem popBlock_leads (thread : Thread α) : thread.Leads thread.popBlock.2 := by
  unfold popBlock
  split
  case h_1 => exact ⟨rfl, rfl, rfl, fun active => active⟩
  case h_2 => exact .refl thread

/-- Putting on a frame leads to a later state. -/
theorem push_leads (thread : Thread α) (frame : Frame α) : thread.Leads (thread.push frame) :=
  ⟨rfl, rfl, rfl, fun active => active⟩

end Thread

end SpriteMachine
