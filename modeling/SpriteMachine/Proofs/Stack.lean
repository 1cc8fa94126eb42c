import SpriteMachine.Block.Registry
import SpriteMachine.Proofs.Thread

/-!
# What a stack holds

The bottom frame of a stack stands for the body of a script and is no call. Every frame above
it waits with a block that is known, and may stand for the call of a worker.
-/

namespace SpriteMachine

variable {α : Type}

namespace Thread

/-- The calls that the frames of a thread stand for. -/
def tokens (thread : Thread α) : List Token := thread.frames.filterMap Frame.token

/-- The bottom frame of a thread stands for no call, and every other one waits with a block
that is known. -/
def Stacked (registry : Registry) (thread : Thread α) : Prop :=
  ∃ blocks body, thread.frames = blocks ++ [body] ∧ body.token = none ∧
    ∀ frame ∈ blocks, frame.state = .waiting ∧ (registry.block? frame.opcode).isSome

/-- Only the frames tell whether a thread is stacked. -/
theorem Stacked.congr {registry : Registry} {thread other : Thread α}
    (stacked : thread.Stacked registry) (same : other.frames = thread.frames) :
    other.Stacked registry := by
  obtain ⟨blocks, body, frames, rest⟩ := stacked
  exact ⟨blocks, body, same.trans frames, rest⟩

/-- A thread that rests is stacked. -/
theorem Rests.stacked {thread : Thread α} (rests : thread.Rests) (registry : Registry) :
    thread.Stacked registry := by
  obtain ⟨-, name, frames⟩ := rests
  exact ⟨[], .body name, frames, rfl, fun _ none => by cases none⟩

/-- A thread that rests owes no answer. -/
theorem Rests.tokens {thread : Thread α} (rests : thread.Rests) : thread.tokens = [] := by
  obtain ⟨-, name, frames⟩ := rests
  rw [Thread.tokens, frames]
  rfl

/-- A new status leaves the frames. -/
@[simp]
theorem setStatus_frames (thread : Thread α) (status : ThreadStatus) :
    (thread.setStatus status).frames = thread.frames := by
  unfold setStatus
  split <;> rfl

/-- Taking a frame off a stack leaves the others and their calls. -/
theorem Stacked.popBlock {registry : Registry} {thread woken : Thread α}
    {frame : Option (Frame α)} (stacked : thread.Stacked registry)
    (popped : thread.popBlock = (frame, woken)) :
    woken.Stacked registry ∧ thread.frames = frame.toList ++ woken.frames ∧
      ∀ block ∈ frame, (registry.block? block.opcode).isSome := by
  obtain ⟨blocks, body, frames, bodyless, waiting⟩ := stacked
  unfold Thread.popBlock at popped
  cases blocks with
  | nil =>
    rw [frames] at popped
    obtain ⟨rfl, rfl⟩ := Prod.mk.inj popped
    exact ⟨⟨[], body, frames, bodyless, waiting⟩, rfl, fun _ none => by cases none⟩
  | cons first rest =>
    obtain ⟨below, others, shape⟩ := List.exists_cons_of_ne_nil
      (show rest ++ [body] ≠ [] by simp)
    rw [frames, List.cons_append, shape] at popped
    obtain ⟨rfl, rfl⟩ := Prod.mk.inj popped
    refine ⟨⟨rest, body, shape.symm, bodyless, ?_⟩, ?_, ?_⟩
    · exact fun block member => waiting block (List.mem_cons_of_mem _ member)
    · rw [frames, List.cons_append, shape]
      rfl
    · intro block same
      rw [← Option.some.inj same]
      exact (waiting first List.mem_cons_self).2

/-- A frame that waits with a known block may be put on a stack. -/
theorem Stacked.push {registry : Registry} {thread : Thread α} {frame : Frame α}
    (stacked : thread.Stacked registry) (waits : frame.state = .waiting)
    (known : (registry.block? frame.opcode).isSome) : (thread.push frame).Stacked registry := by
  obtain ⟨blocks, body, frames, bodyless, waiting⟩ := stacked
  refine ⟨frame :: blocks, body, ?_, bodyless, fun block member => ?_⟩
  · rw [Thread.push, frames]
    rfl
  · rcases List.mem_cons.mp member with rfl | below
    · exact ⟨waits, known⟩
    · exact waiting block below

end Thread

end SpriteMachine
