import Mathlib.Data.List.Basic
import Mathlib.Data.List.Induction
import SpriteMachine.Proofs.Stack

/-!
# The discipline of a stack

Whatever is done to a thread, its stack stands on the frame of the body that the thread was
created with until the thread is done, and a thread that is done stays done. As long as a
history keeps the stack from sinking below a height, all that lies beneath stays as it is. So
frames come off last in, first out, and every frame that is taken was put on by the last push
which is still open.
-/

namespace SpriteMachine

namespace Thread

variable {α : Type}

/-- A thread as it is created, without a hat or for one, and the frame of its body. -/
inductive Created : Thread α → Frame α → Prop where
  | plain (id : ThreadId) (target : TargetId) (hasListener : Bool) :
      Created (.plain id target hasListener) (.body bodyOpcode)
  | forHat (id : ThreadId) (target : TargetId) (binding : HatOrigin) :
      Created (.forHat id target binding) (.body binding.hat)

/-- What is done to the status and the stack of a thread. -/
inductive Operation (α : Type) where
  | setStatus (status : ThreadStatus)
  | finish
  | push (frame : Frame α)
  | pop
  | popBlock

/-- The thread behind an operation. -/
def perform (thread : Thread α) : Operation α → Thread α
  | .setStatus status => thread.setStatus status
  | .finish => thread.finish
  | .push frame => thread.push frame
  | .pop => thread.pop.2
  | .popBlock => thread.popBlock.2

/-- The thread behind a history. -/
def behind (thread : Thread α) (history : List (Operation α)) : Thread α :=
  history.foldl perform thread

/-- A history in which the stack never is lower than at first, and at whose end it is as high. -/
structure Balanced (thread : Thread α) (history : List (Operation α)) : Prop where
  above : ∀ part, part <+: history → thread.depth ≤ (thread.behind part).depth
  level : (thread.behind history).depth = thread.depth

/-- The last push of a history that is still open put a frame on the stack: all that was put on
behind it was taken off again. -/
def LastPushed (thread : Thread α) (history : List (Operation α)) (frame : Frame α) : Prop :=
  ∃ before between, history = before ++ .push frame :: between ∧
    ((thread.behind before).push frame).Balanced between

variable {thread : Thread α} {body frame : Frame α} {under : List (Frame α)}
  {history : List (Operation α)}

/-- Two histories one after another are one. -/
theorem behind_append (thread : Thread α) (first second : List (Operation α)) :
    thread.behind (first ++ second) = (thread.behind first).behind second :=
  List.foldl_append

/-- The thread behind a history is the one behind its last operation. -/
theorem behind_concat (thread : Thread α) (history : List (Operation α))
    (operation : Operation α) :
    thread.behind (history ++ [operation]) = (thread.behind history).perform operation :=
  List.foldl_concat perform thread operation history

/-- A push in the middle of a history. -/
theorem behind_push (thread : Thread α) (before between : List (Operation α)) (frame : Frame α) :
    thread.behind (before ++ .push frame :: between) =
      ((thread.behind before).push frame).behind between := by
  simp [behind, perform]

section Steps

/-- A block's frame is taken off the frames below it, or it is the last one and stays. -/
theorem popBlock_cases (thread : Thread α) :
    (thread.depth ≤ 1 ∧ thread.popBlock = (none, thread)) ∨
      ∃ frame under, thread.frames = frame :: under ∧ under ≠ [] ∧
        thread.popBlock = (some frame, { thread with frames := under }) := by
  rcases shape : thread.frames with _ | ⟨top, _ | ⟨below, rest⟩⟩
  · exact Or.inl (by simp [depth, popBlock, shape])
  · exact Or.inl (by simp [depth, popBlock, shape])
  · exact Or.inr ⟨top, below :: rest, by simp [popBlock, shape]⟩

/-- A block's frame is taken off exactly when another frame lies under it. -/
theorem popBlock_eq_some_iff :
    thread.popBlock.1 = some frame ↔ ∃ under, thread.frames = frame :: under ∧ under ≠ [] := by
  rcases thread.popBlock_cases with ⟨low, same⟩ | ⟨top, under, shape, some, taken⟩
  · simp only [same, reduceCtorEq, false_iff, not_exists, not_and_not_right]
    intro under shape
    simpa [depth, shape] using low
  · simp [taken, shape, some]

/-- Popping takes the top frame, and whoever has none left is done. -/
theorem pop_cases (thread : Thread α) :
    thread.pop.2.frames = thread.frames.tail ∧
      (thread.pop.2.status = thread.status ∨ thread.pop.2.isDone = true) ∧
      (thread.pop.2.frames = [] → thread.pop.2.isDone = true) := by
  rcases shape : thread.frames with _ | ⟨top, _ | ⟨below, rest⟩⟩ <;>
    simp [pop, finish, isDone, shape]

/-- An operation leaves the stack alone, puts a frame on it or takes the top one off. -/
theorem perform_frames (thread : Thread α) (operation : Operation α) :
    (thread.perform operation).frames = thread.frames ∨
      (∃ frame, operation = .push frame ∧
        (thread.perform operation).frames = frame :: thread.frames) ∨
      ∃ frame, thread.frames = frame :: (thread.perform operation).frames := by
  cases operation with
  | setStatus status => exact Or.inl (setStatus_frames thread status)
  | finish => exact Or.inl rfl
  | push frame => exact Or.inr (Or.inl ⟨frame, rfl, rfl⟩)
  | pop =>
    simp only [perform, thread.pop_cases.1]
    cases thread.frames <;> simp
  | popBlock =>
    rcases thread.popBlock_cases with ⟨-, same⟩ | ⟨frame, under, shape, -, taken⟩
    · exact Or.inl (by simp [perform, same])
    · exact Or.inr (Or.inr ⟨frame, by simp [perform, taken, shape]⟩)

/-- A thread that is done stays done. -/
theorem perform_isDone (done : thread.isDone = true) (operation : Operation α) :
    (thread.perform operation).isDone = true := by
  cases operation with
  | setStatus status => simp [perform, setStatus, done]
  | finish => simp [perform, finish, isDone]
  | push frame => exact done
  | pop =>
    rcases thread.pop_cases.2.1 with same | ended
    · simpa [perform, isDone, same] using done
    · exact ended
  | popBlock => exact (popBlock_isDone thread).trans done

/-- The bottom frame stays, or the thread is done. -/
theorem perform_stands (stands : thread.frames.getLast? = some body) (operation : Operation α) :
    (thread.perform operation).isDone = true ∨
      (thread.perform operation).frames.getLast? = some body := by
  by_cases empty : (thread.perform operation).frames = []
  · left
    cases operation with
    | setStatus status => simp_all [perform]
    | finish => simp [perform, finish, isDone]
    | push frame => simp [perform, push] at empty
    | pop => exact thread.pop_cases.2.2 empty
    | popBlock =>
      rcases thread.popBlock_cases with ⟨-, same⟩ | ⟨frame, under, -, some, taken⟩ <;>
        simp_all [perform]
  · right
    rcases perform_frames thread operation with same | ⟨frame, -, pushed⟩ | ⟨frame, popped⟩
    · rw [same, stands]
    · simp [pushed, List.getLast?_cons, stands]
    · obtain ⟨below, rest, shape⟩ := List.exists_cons_of_ne_nil empty
      simpa [popped, shape] using stands

end Steps

section Histories

/-- A thread that is done stays done behind every history. -/
theorem behind_isDone (done : thread.isDone = true) (history : List (Operation α)) :
    (thread.behind history).isDone = true := by
  induction history using List.reverseRecOn with
  | nil => exact done
  | append_singleton history operation inductionHypothesis =>
    rw [behind_concat]
    exact perform_isDone inductionHypothesis operation

/-- Until a thread is done, its bottom frame is the one it had at first. -/
theorem behind_stands (stands : thread.frames.getLast? = some body)
    (history : List (Operation α)) :
    (thread.behind history).isDone = true ∨
      (thread.behind history).frames.getLast? = some body := by
  induction history using List.reverseRecOn with
  | nil => exact Or.inr stands
  | append_singleton history operation inductionHypothesis =>
    rw [behind_concat]
    rcases inductionHypothesis with done | stays
    · exact Or.inl (perform_isDone done operation)
    · exact perform_stands stays operation

/-- What lies beneath a height stays while the stack does not sink below that height. -/
theorem suffix_behind
    (above : ∀ part, part <+: history → thread.depth ≤ (thread.behind part).depth) :
    thread.frames <:+ (thread.behind history).frames := by
  induction history using List.reverseRecOn with
  | nil => exact List.suffix_refl _
  | append_singleton history operation inductionHypothesis =>
    have high := above _ (List.prefix_refl _)
    have beneath : thread.frames <:+ (thread.behind history).frames := by
      apply inductionHypothesis
      intro part starts
      exact above part (starts.trans (List.prefix_append history [operation]))
    rw [behind_concat] at high ⊢
    rcases perform_frames (thread.behind history) operation with
      same | ⟨frame, -, pushed⟩ | ⟨frame, popped⟩
    · rw [same]
      exact beneath
    · rw [pushed]
      exact beneath.trans (List.suffix_cons _ _)
    · rw [popped] at beneath
      exact List.suffix_of_suffix_length_le beneath (List.suffix_cons _ _) high

/-- A balanced history leaves the stack as it found it. -/
theorem Balanced.frames (balanced : thread.Balanced history) :
    (thread.behind history).frames = thread.frames :=
  ((suffix_behind balanced.above).eq_of_length balanced.level.symm).symm

/-- Every frame with others under it was put there by a push, and since then the stack has not
sunk so low. -/
theorem exists_push (bare : thread.depth ≤ 1) (some : under ≠ [])
    (holds : (frame :: under) <:+ (thread.behind history).frames) :
    ∃ before between, history = before ++ .push frame :: between ∧
      (thread.behind before).frames = under ∧ ∀ part, part <+: between →
        (frame :: under).length ≤ (((thread.behind before).push frame).behind part).depth := by
  induction history using List.reverseRecOn with
  | nil =>
    have short := holds.length_le
    have long := List.length_pos_iff.mpr some
    simp only [depth] at bare
    simp only [behind, List.foldl_nil, List.length_cons] at short
    omega
  | append_singleton history operation inductionHypothesis =>
    -- Where the frame was in its place before, the operation belongs to what came behind its push.
    have later : (frame :: under) <:+ (thread.behind history).frames →
        ∃ before between, history ++ [operation] = before ++ .push frame :: between ∧
          (thread.behind before).frames = under ∧ ∀ part, part <+: between →
            (frame :: under).length ≤
              (((thread.behind before).push frame).behind part).depth := by
      intro stood
      obtain ⟨before, between, rfl, found, above⟩ := inductionHypothesis stood
      refine ⟨before, between ++ [operation], by simp, found, ?_⟩
      intro part starts
      rcases List.prefix_concat_iff.mp starts with rfl | earlier
      · rw [← behind_push, ← List.cons_append, ← List.append_assoc]
        exact holds.length_le
      · exact above part earlier
    rw [behind_concat] at holds
    rcases perform_frames (thread.behind history) operation with
      same | ⟨pushed, rfl, shape⟩ | ⟨popped, shape⟩
    · rw [same] at holds
      exact later holds
    · rw [shape] at holds
      rcases List.suffix_cons_iff.mp holds with whole | deeper
      · obtain ⟨rfl, rfl⟩ := List.cons.inj whole
        refine ⟨history, [], rfl, rfl, ?_⟩
        intro part starts
        rw [List.prefix_nil.mp starts]
        exact Nat.le_refl _
      · exact later deeper
    · apply later
      rw [shape]
      exact holds.trans (List.suffix_cons _ _)

/-- What is taken is what was put on last. -/
theorem popBlock_behind_iff (bare : thread.depth ≤ 1) :
    (thread.behind history).popBlock.1 = some frame ↔
      1 < (thread.behind history).depth ∧ thread.LastPushed history frame := by
  rw [popBlock_eq_some_iff]
  constructor
  · rintro ⟨under, top, some⟩
    have holds : (frame :: under) <:+ (thread.behind history).frames := by simp [top]
    obtain ⟨before, between, rfl, found, above⟩ := exists_push bare some holds
    have long : 0 < under.length := List.length_pos_iff.mpr some
    constructor
    · simp only [depth, top, List.length_cons]
      omega
    · refine ⟨before, between, rfl, ?_, ?_⟩
      · intro part starts
        simpa [depth, push, found] using above part starts
      · rw [← behind_push, depth, depth, push, top, found]
  · rintro ⟨high, before, between, rfl, balanced⟩
    have top : (thread.behind (before ++ .push frame :: between)).frames =
        frame :: (thread.behind before).frames := by
      rw [behind_push, balanced.frames, push]
    refine ⟨(thread.behind before).frames, top, ?_⟩
    intro none
    simp [depth, top, none] at high

end Histories

/-- How a thread behaves along a history. -/
structure Disciplined (thread : Thread α) (body : Frame α) (history : List (Operation α)) :
    Prop where
  /-- Until the thread is done there is a frame at the bottom, that of its body. -/
  stands : (thread.behind history).isDone = false →
    (thread.behind history).frames.getLast? = some body
  /-- Done is for ever. -/
  ended : (thread.behind history).isDone = true →
    ∀ more, (thread.behind (history ++ more)).isDone = true
  /-- The frame that is taken was put on last. -/
  taken : ∀ frame, (thread.behind history).popBlock.1 = some frame ↔
    1 < (thread.behind history).depth ∧ thread.LastPushed history frame
  /-- It comes off the frames below it, and nothing else changes; the last frame is left. -/
  leaves : ((thread.behind history).depth ≤ 1 ∧
      (thread.behind history).popBlock = (none, thread.behind history)) ∨
    ∃ frame under, (thread.behind history).frames = frame :: under ∧ under ≠ [] ∧
      (thread.behind history).popBlock =
        (some frame, { thread.behind history with frames := under })
  /-- Whoever pops the last frame ends the thread. -/
  emptied : (thread.behind history).pop.2.frames = [] →
    (thread.behind history).pop.2.isDone = true

/-- Stacks keep discipline: whatever is done to a thread from its creation on, it stands on its
body until it is done, it is done for ever then, and its blocks' frames are taken last in, first
out, down to the last one. -/
theorem stacks_keep_discipline (created : thread.Created body) (history : List (Operation α)) :
    thread.Disciplined body history := by
  have alone : thread.frames = [body] := by
    cases created <;> rfl
  have bottom : thread.frames.getLast? = some body := by rw [alone, List.getLast?_singleton]
  constructor
  · intro active
    rcases behind_stands bottom history with done | stands
    · rw [active] at done
      cases done
    · exact stands
  · intro done more
    rw [behind_append]
    exact behind_isDone done more
  · intro frame
    apply popBlock_behind_iff
    simp [depth, alone]
  · exact popBlock_cases _
  · exact (pop_cases _).2.2

/-- A wait on the stack of a script, with a glide above it that is over. -/
def glideOver : List (Operation Rat) :=
  [.push (.fresh "control_wait" .empty (some ⟨"w-0"⟩)), .setStatus .yielding,
    .push (.fresh "motion_glidesecstoxy" .empty none), .setStatus .running, .popBlock]

/-- Below the glide that was taken the wait is next. -/
theorem glideOver_disciplined :
    Created (.plain ⟨"t1"⟩ ⟨"cat"⟩ false) (.body bodyOpcode : Frame Rat) ∧
      (plain ⟨"t1"⟩ ⟨"cat"⟩ false).Disciplined (.body bodyOpcode) glideOver ∧
      ((plain ⟨"t1"⟩ ⟨"cat"⟩ false).behind glideOver).popBlock.1.map Frame.opcode =
        some "control_wait" :=
  ⟨.plain _ _ _, stacks_keep_discipline (.plain _ _ _) glideOver, rfl⟩

end Thread

end SpriteMachine
