import Mathlib.Data.List.Induction
import SpriteMachine.Proofs.Scheduler.Provenance

/-!
# Calls that wait below others

A block that asks to be invoked again leaves its frame on the stack of its thread, and the
thread yields. When a block is executed on a thread that yields already, the frames pile
up. A tick takes the top frame off and lets the thread run; when that block completes, the
thread goes on running although the frames below still wait, and no later tick takes them
up.

So much is true: a thread with a waiting frame yields, and the next tick invokes that
frame, unless at some earlier moment two of its frames waited at once.
-/

namespace SpriteMachine

namespace Thread

variable {α : Type} {registry : Registry} {thread earlier later : Thread α}

/-- The frames of a thread that wait to be invoked again, from the top down. -/
def waiting (thread : Thread α) : List (Frame α) :=
  thread.frames.filter fun frame => frame.state = .waiting

/-- The frames of a thread are stacked, and that of its body was never invoked. -/
def Layered (registry : Registry) (thread : Thread α) : Prop :=
  thread.Stacked registry ∧
    ∀ body, thread.frames.getLast? = some body → body.state = .notStarted

/-- The frames that wait are all but the one of the body. -/
theorem Layered.waiting_eq (layered : thread.Layered registry) :
    thread.waiting = thread.frames.dropLast := by
  obtain ⟨⟨blocks, body, frames, -, waits⟩, bottom⟩ := layered
  have unstarted : body.state = .notStarted :=
    bottom body (by rw [frames, List.getLast?_concat])
  rw [waiting, frames, List.dropLast_concat, List.filter_append,
    List.filter_eq_self.mpr fun frame member => decide_eq_true (waits frame member).1,
    List.filter_cons_of_neg (by rw [unstarted]; decide), List.filter_nil, List.append_nil]

/-- A thread that rests has layered frames. -/
theorem Rests.layered (rests : thread.Rests) (registry : Registry) :
    thread.Layered registry := by
  refine ⟨rests.stacked registry, fun body last => ?_⟩
  obtain ⟨-, name, frames⟩ := rests
  rw [frames, List.getLast?_singleton] at last
  rw [← Option.some.inj last]
  rfl

/-- A thread that rests has no frame that waits. -/
theorem Rests.waiting (rests : thread.Rests) : thread.waiting = [] := by
  obtain ⟨-, name, frames⟩ := rests
  rw [Thread.waiting, frames]
  rfl

/-- The frames of a stack are not empty. -/
theorem Stacked.frames_ne_nil (stacked : thread.Stacked registry) : thread.frames ≠ [] := by
  obtain ⟨blocks, body, frames, -⟩ := stacked
  rw [frames]
  simp

/-- Frames put on layered ones are layered. -/
theorem Grows.layered (grows : earlier.Grows registry later)
    (layered : earlier.Layered registry) : later.Layered registry := by
  induction grows with
  | same => exact layered
  | suspended onward frame waits known inductionHypothesis =>
    obtain ⟨stacked, bottom⟩ := inductionHypothesis
    refine ⟨(stacked.push waits known).congr (setStatus_frames _ _), fun body last => ?_⟩
    rw [setStatus_frames, push, List.getLast?_cons_of_ne_nil stacked.frames_ne_nil] at last
    exact bottom body last

/-- A thread that is woken loses its top frame, unless that is the body. -/
theorem woken_frames (layered : thread.Layered registry) :
    thread.woken.frames = thread.frames ∧ thread.waiting = [] ∨
      ∃ frame, thread.frames = frame :: thread.woken.frames ∧ thread.woken.frames ≠ [] := by
  rw [layered.waiting_eq, woken, popBlock, setStatus_frames]
  cases stack : thread.frames with
  | nil => exact absurd stack layered.1.frames_ne_nil
  | cons frame rest =>
    cases rest with
    | nil => exact Or.inl ⟨by simp [stack], rfl⟩
    | cons below others => exact Or.inr ⟨frame, rfl, List.cons_ne_nil _ _⟩

/-- A thread that is woken keeps its layers. -/
theorem Layered.woken (layered : thread.Layered registry) : thread.woken.Layered registry := by
  have popping : (thread.setStatus .running).popBlock =
      ((thread.setStatus .running).popBlock.1, thread.woken) := rfl
  have popped := (layered.1.congr (setStatus_frames thread .running)).popBlock popping
  refine ⟨popped.1, fun body last => layered.2 body ?_⟩
  rcases woken_frames layered with ⟨same, -⟩ | ⟨frame, frames, others⟩
  · rw [← same]
    exact last
  · rw [frames, List.getLast?_cons_of_ne_nil others]
    exact last

/-- The wake of a thread takes off the top one of the frames that wait. -/
theorem Layered.popBlock {frame : Frame α} (layered : thread.Layered registry)
    (top : thread.waiting.head? = some frame) :
    (thread.setStatus .running).popBlock = (some frame, thread.woken) ∧
      (registry.block? frame.opcode).isSome := by
  rw [layered.waiting_eq] at top
  obtain ⟨⟨blocks, body, frames, -, waits⟩, -⟩ := layered
  rw [frames, List.dropLast_concat] at top
  cases blocks with
  | nil => cases top
  | cons first rest =>
    obtain rfl : first = frame := Option.some.inj top
    obtain ⟨below, others, shape⟩ := List.exists_cons_of_ne_nil
      (show rest ++ [body] ≠ [] by simp)
    refine ⟨?_, (waits first List.mem_cons_self).2⟩
    rw [Thread.woken, Thread.popBlock, setStatus_frames, frames, List.cons_append, shape]

/-- A frame that waits behind the wake waited below another one. -/
theorem Layered.nested (layered : thread.Layered registry) (waits : thread.woken.waiting ≠ []) :
    2 ≤ thread.waiting.length := by
  rw [layered.woken.waiting_eq] at waits
  rw [layered.waiting_eq]
  rcases woken_frames layered with ⟨same, none⟩ | ⟨frame, frames, others⟩
  · rw [same, ← layered.waiting_eq, none] at waits
    exact absurd rfl waits
  · have below := List.length_pos_iff.mpr waits
    rw [List.length_dropLast] at below ⊢
    rw [frames, List.length_cons]
    omega

/-- What a tick makes of a layered thread is layered. -/
theorem Resumes.layered (resumes : earlier.Resumes registry later)
    (layered : earlier.Layered registry) : later.Layered registry := by
  rcases resumes with grows | ⟨-, grows⟩
  · exact grows.layered layered
  · exact grows.layered layered.woken

/-- A thread with a waiting frame that does not yield had one before, or it had two. -/
theorem Resumes.idle (resumes : earlier.Resumes registry later)
    (layered : earlier.Layered registry) (active : later.isActive = true)
    (waits : later.waiting ≠ []) (idle : later.status ≠ .yielding) :
    later = earlier ∨ 2 ≤ earlier.waiting.length := by
  rcases resumes with grows | ⟨-, grows⟩
  · exact Or.inl ((grows.yields active).resolve_right idle)
  · have same := (grows.yields active).resolve_right idle
    rw [same] at waits
    exact Or.inr (layered.nested waits)

end Thread

namespace Scheduler

variable {τ α : Type} [Scalar α] [Transport τ α] {scheduler : Scheduler τ α}
  {id other : ThreadId}

section Resuming

/-- Resuming a thread leaves the frames of all others alone. -/
theorem resume_spares (scheduler : Scheduler τ α) (report : StepReport) (spared : other ≠ id) :
    Stems Eq scheduler (scheduler.resume report id).2 other := by
  unfold resume
  split
  case h_1 => exact .refl scheduler
  case h_2 thread found =>
    split
    case isTrue => exact .refl scheduler
    case isFalse =>
      generalize (thread.setStatus .running).popBlock = popped
      obtain ⟨frame, woken⟩ := popped
      have woke : Stems Eq scheduler
          { scheduler with threads := scheduler.threads.modify id fun _ => woken } other := by
        refine .still (.refl _) rfl fun later stands => ?_
        obtain ⟨present, active⟩ := standing_eq_some.mp stands
        rw [OrderedMap.find_modify, if_neg spared] at present
        exact standing_eq_some.mpr ⟨present, active⟩
      dsimp only
      split
      case h_1 => exact woke
      case h_2 frame =>
        split
        case h_1 => exact woke
        case h_2 block known =>
          have invoked := woke.andThen (invoke_spares _ spared thread.target block frame)
          split
          case h_1 result =>
            rw [result] at invoked
            exact invoked
          case h_2 result =>
            rw [result] at invoked
            exact invoked

/-- Resuming a thread wakes it if it yields; its block may suspend it again. -/
theorem resume_resumes (scheduler : Scheduler τ α) (report : StepReport) (id : ThreadId) :
    Stems (Thread.Resumes scheduler.registry) scheduler (scheduler.resume report id).2 id := by
  have stays : Stems (Thread.Resumes scheduler.registry) scheduler scheduler id :=
    (Stems.refl scheduler).widen fun _ _ same => same ▸ Or.inl .same
  unfold resume
  split
  case h_1 => exact stays
  case h_2 thread found =>
    split
    case isTrue => exact stays
    case isFalse status =>
      have yielding : thread.status = .yielding := Decidable.not_not.mp status
      generalize popping : (thread.setStatus .running).popBlock = popped
      obtain ⟨frame, woken⟩ := popped
      have woke : Stems (Thread.Resumes scheduler.registry) scheduler
          { scheduler with threads := scheduler.threads.modify id fun _ => woken } id := by
        refine ⟨.refl _, rfl, fun _ later stands => ⟨thread, Or.inr ⟨yielding, ?_⟩, Or.inl ?_⟩⟩
        · obtain ⟨present, -⟩ := standing_eq_some.mp stands
          rw [OrderedMap.find_modify, if_pos rfl, found] at present
          rw [← Option.some.inj present, Thread.woken, popping]
          exact .same
        · refine standing_eq_some.mpr ⟨found, ?_⟩
          rw [Thread.isActive, Thread.isDone, yielding]
          rfl
      dsimp only
      split
      case h_1 => exact woke
      case h_2 frame =>
        split
        case h_1 => exact woke
        case h_2 block known =>
          have invoked := woke.trans
            (invoke_grows _ id id thread.target block frame (by rw [known]; rfl))
            (fun _ => Or.inl .same) fun _ _ _ resumes grows => resumes.grow grows
          split
          case h_1 result =>
            rw [result] at invoked
            exact invoked
          case h_2 result =>
            rw [result] at invoked
            exact invoked

/-- A thread that is not resumed keeps its frames. -/
theorem resumeAll_spares (scheduler : Scheduler τ α) (report : StepReport)
    {ids : List ThreadId} (spared : other ∉ ids) :
    Stems Eq scheduler (scheduler.resumeAll report ids).2 other := by
  induction ids generalizing scheduler report with
  | nil => exact .refl scheduler
  | cons first rest inductionHypothesis =>
    rw [List.mem_cons, not_or] at spared
    exact (resume_spares scheduler report spared.1).andThen (inductionHypothesis _ _ spared.2)

/-- Each of several threads is resumed once. -/
theorem resumeAll_resumes (scheduler : Scheduler τ α) (report : StepReport)
    {ids : List ThreadId} (distinct : ids.Nodup) (id : ThreadId) :
    Stems (Thread.Resumes scheduler.registry) scheduler (scheduler.resumeAll report ids).2 id := by
  induction ids generalizing scheduler report with
  | nil => exact (Stems.refl scheduler).widen fun _ _ same => same ▸ Or.inl .same
  | cons first rest inductionHypothesis =>
    obtain ⟨absent, distinctRest⟩ := List.nodup_cons.mp distinct
    by_cases same : id = first
    · subst same
      exact (resume_resumes scheduler report id).trans (resumeAll_spares _ _ absent)
        (fun _ => Or.inl .same) fun _ _ _ resumes same => same ▸ resumes
    · have spared := resume_spares scheduler report same
      have resumed := inductionHypothesis (scheduler.resume report first).2
        (scheduler.resume report first).1 distinctRest
      rw [spared.registry] at resumed
      exact spared.andThen resumed

omit [Scalar α] [Transport τ α] in
/-- The names of the threads that yield are distinct. -/
theorem yieldedThreads_nodup (keyed : scheduler.Keyed) : scheduler.yieldedThreads.Nodup := by
  have named : scheduler.threads.values.map Thread.id = scheduler.threads.keys := by
    rw [OrderedMap.values, OrderedMap.keys, List.map_map]
    exact List.map_congr_left fun entry member =>
      keyed entry.1 entry.2 (OrderedMap.mem_entries_iff.mp member)
  refine List.Nodup.sublist (List.filter_sublist.map Thread.id) ?_
  rw [named]
  exact OrderedMap.keys_nodup _

end Resuming

section Ticking

/-- Dealing with a message other than a call changes no stack. -/
theorem handleMessage_stems {message : WorkerMessage α} (scheduler : Scheduler τ α)
    (bridge : Bridge τ α)
    (silent : ∀ target caller opcode args token, message ≠ .call target caller opcode args token)
    (report : StepReport) (id : ThreadId) :
    Stems Eq scheduler (handleMessage { scheduler with bridge := bridge } report message).2 id := by
  have heard : Stems Eq scheduler { scheduler with bridge := bridge } id :=
    .ofThreads (.refl _) rfl rfl
  cases message with
  | status status => exact heard.aside rfl rfl rfl
  | call target caller opcode args token =>
    exact absurd rfl (silent target caller opcode args token)
  | ended ended =>
    rw [handleMessage, handleEnded_left]
    exact heard.andThen ((Stroke.finish { scheduler with bridge := bridge } ended).stems id)
  | scriptError failed reason =>
    have counted : Stems Eq scheduler { scheduler with
        bridge := bridge
        stats := { scheduler.stats with scriptErrors := scheduler.stats.scriptErrors + 1 } } id :=
      .ofThreads (.refl _) rfl rfl
    change Stems _ scheduler (handleScriptError _ _ _ _).2 id
    unfold handleScriptError
    dsimp only
    split
    case h_1 => exact counted
    case h_2 thread =>
      split
      case isTrue => exact counted.andThen ((Stroke.retire _ thread).stems id)
      case isFalse => exact counted
  | registered token refusal => exact heard
  | started token threads => exact heard

/-- Dealing with a message puts frames on stacks at most. -/
theorem handleMessage_grows (scheduler : Scheduler τ α) (bridge : Bridge τ α)
    (message : WorkerMessage α) (report : StepReport) (id : ThreadId) :
    Stems (Thread.Grows scheduler.registry) scheduler
      (handleMessage { scheduler with bridge := bridge } report message).2 id := by
  have heard : Stems Eq scheduler { scheduler with bridge := bridge } id :=
    .ofThreads (.refl _) rfl rfl
  by_cases calls : ∃ target caller opcode args token,
      message = .call target caller opcode args token
  · obtain ⟨target, caller, opcode, args, token, rfl⟩ := calls
    have called := heard.andThen
      (call_grows { scheduler with bridge := bridge } caller id opcode args (some token))
    change Stems _ scheduler (handleCall _ _ _ _ _ _).2 id
    unfold handleCall
    generalize call { scheduler with bridge := bridge } caller opcode args (some token) = result
      at called
    obtain ⟨outcome, left⟩ := result
    cases outcome with
    | ok outcome => exact called
    | error fault =>
      dsimp only
      split
      case isTrue => exact called.aside rfl rfl rfl
      case isFalse => exact called
  · have stems := handleMessage_stems scheduler bridge
      (fun target caller opcode args token same =>
        calls ⟨target, caller, opcode, args, token, same⟩) report id
    exact stems.grown _

/-- Handling the messages of a tick makes every thread grow at most. -/
theorem drain_grows (budget : Nat) (scheduler : Scheduler τ α) (report : StepReport)
    (id : ThreadId) :
    Stems (Thread.Grows scheduler.registry) scheduler (drain budget scheduler report).2 id := by
  induction budget generalizing scheduler report with
  | zero => exact (Stems.refl scheduler).grown _
  | succ budget inductionHypothesis =>
    unfold drain
    split
    case h_1 => exact ((Stems.refl scheduler).grown _).aside rfl rfl rfl
    case h_2 => exact ((Stems.refl scheduler).grown _).aside rfl rfl rfl
    case h_3 message bridge received =>
      have first := handleMessage_grows scheduler bridge message
        { report with messages := report.messages + 1 } id
      have later := inductionHypothesis
        (handleMessage { scheduler with bridge := bridge }
          { report with messages := report.messages + 1 } message).2
        (handleMessage { scheduler with bridge := bridge }
          { report with messages := report.messages + 1 } message).1
      rw [first.registry] at later
      exact first.grow later

omit [Scalar α] [Transport τ α] in
/-- A tick begins with the same active threads. -/
theorem swept_stems (scheduler : Scheduler τ α) (id : ThreadId) :
    Stems Eq scheduler scheduler.beginTick.sweep.2 id := by
  refine .still (.refl _) rfl fun thread stands => ?_
  obtain ⟨found, active⟩ := standing_eq_some.mp stands
  change (scheduler.threads.filter _).find? id = some thread at found
  rw [OrderedMap.find_filter] at found
  exact standing_eq_some.mpr ⟨(Option.filter_eq_some_iff.mp found).1, active⟩

/-- A tick resumes each thread once at most. -/
theorem step_resumes (keyed : scheduler.Keyed) (id : ThreadId) :
    Stems (Thread.Resumes scheduler.registry) scheduler scheduler.step.2 id := by
  have swept := swept_stems scheduler id
  have sweptKeyed : scheduler.beginTick.sweep.2.Keyed := fun name thread found => by
    change (scheduler.threads.filter _).find? name = some thread at found
    rw [OrderedMap.find_filter] at found
    exact keyed name thread (Option.filter_eq_some_iff.mp found).1
  have resumed : Stems (Thread.Resumes scheduler.registry) scheduler scheduler.resumeTick.2 id :=
    swept.andThen (resumeAll_resumes scheduler.beginTick.sweep.2 _
      (yieldedThreads_nodup sweptKeyed) id)
  have drained := drain_grows scheduler.resumeTick.2.config.maxMessagesPerTick
    scheduler.resumeTick.2 scheduler.resumeTick.1 id
  rw [resumed.registry] at drained
  rw [step_eq]
  exact (resumed.trans drained (fun _ => Or.inl .same)
    fun _ _ _ resumes grows => resumes.grow grows).aside rfl rfl rfl

/-- Every operation resumes each thread once at most. -/
theorem perform_resumes (keyed : scheduler.Keyed) (operation : Operation τ α) (id : ThreadId) :
    Stems (Thread.Resumes scheduler.registry) scheduler (scheduler.perform operation) id := by
  by_cases ticks : operation = .step
  · rw [ticks]
    exact step_resumes keyed id
  · exact (perform_grows scheduler ticks id).widen fun _ _ grows => Or.inl grows

end Ticking

section Invoking

/-- An invocation is recorded, and what is recorded stays so. -/
theorem invoke_recorded {target : TargetId} (block : Block) {frame : Frame α}
    (orderly : Orderly (scheduler.noteInvocation id target frame)) :
    ∃ recent, (scheduler.invoke id target block frame).2.chronicle =
      recent ++ .invoked id target frame :: scheduler.chronicle := by
  have works := Block.run_works block frame.args
    ⟨scheduler.noteInvocation id target frame, id, target, frame, false⟩
  generalize ran : block.run frame.args
    ⟨scheduler.noteInvocation id target frame, id, target, frame, false⟩ = outcome at works
  obtain ⟨result, left⟩ := outcome
  obtain ⟨recent, grown, -⟩ := (works.acts.advances orderly).2.chronicle
  refine ⟨recent, Eq.trans ?_ grown⟩
  rcases invoke_ends ran with ⟨value, -, yields, same⟩ | ⟨bridge, results, same⟩
  · rw [same]
    rfl
  · rw [same]

/-- A thread that yields and is resumed has its top frame taken up. -/
theorem resume_takesUp (report : StepReport) {thread : Thread α} {frame : Frame α}
    (stands : scheduler.standing id = some thread) (yielding : thread.status = .yielding)
    (layered : thread.Layered scheduler.registry) (top : thread.waiting.head? = some frame) :
    ∃ block taken, TakesUp scheduler id thread.target block frame taken ∧
      taken.chronicle = scheduler.chronicle ∧
      (scheduler.resume report id).2 = (taken.invoke id thread.target block frame).2 := by
  obtain ⟨found, -⟩ := standing_eq_some.mp stands
  obtain ⟨popped, known⟩ := layered.popBlock top
  obtain ⟨block, named⟩ := Option.isSome_iff_exists.mp known
  have wakes : Wakes scheduler id thread (some frame)
      { scheduler with threads := scheduler.threads.modify id fun _ => thread.woken } :=
    ⟨found, yielding, thread.woken, popped, rfl⟩
  refine ⟨block, _, .resumed wakes named, rfl, ?_⟩
  unfold resume
  rw [found]
  dsimp only
  rw [if_neg (not_not.mpr yielding), popped]
  dsimp only
  rw [named]
  dsimp only
  split
  case h_1 result => rw [result]
  case h_2 result => rw [result]

/-- So it is invoked. -/
theorem resume_recorded (orderly : Orderly scheduler) (report : StepReport) {thread : Thread α}
    {frame : Frame α} (stands : scheduler.standing id = some thread)
    (yielding : thread.status = .yielding) (layered : thread.Layered scheduler.registry)
    (top : thread.waiting.head? = some frame) :
    ∃ recent, (scheduler.resume report id).2.chronicle =
      recent ++ .invoked id thread.target frame :: scheduler.chronicle := by
  obtain ⟨block, taken, takes, chronicle, resumes⟩ :=
    resume_takesUp report stands yielding layered top
  obtain ⟨recent, recorded⟩ := invoke_recorded block (takes.advances orderly).1
  exact ⟨recent, by rw [resumes, recorded, chronicle]⟩

/-- Threads are resumed in two groups as in one. -/
theorem resumeAll_append (first second : List ThreadId) (scheduler : Scheduler τ α)
    (report : StepReport) :
    scheduler.resumeAll report (first ++ second) =
      (scheduler.resumeAll report first).2.resumeAll
        (scheduler.resumeAll report first).1 second := by
  induction first generalizing scheduler report with
  | nil => rfl
  | cons id rest inductionHypothesis =>
    exact inductionHypothesis (scheduler.resume report id).2 (scheduler.resume report id).1

/-- The next tick invokes a frame for a thread, or the thread is not live behind it. -/
def TakesUpNext (scheduler : Scheduler τ α) (id : ThreadId) (target : TargetId)
    (frame : Frame α) : Prop :=
  scheduler.step.2.isLive id = false ∨ ∃ recent,
    scheduler.step.2.chronicle = recent ++ scheduler.chronicle ∧
      .invoked id target frame ∈ recent

/-- A thread that yields has its turn in the next tick. Up to it the thread stays as it is or
ends, and the tick goes on behind it. -/
theorem turn_of_yielding (orderly : Orderly scheduler) {thread : Thread α}
    (stands : scheduler.standing id = some thread) (yielding : thread.status = .yielding) :
    ∃ turn : StepReport × Scheduler τ α, Advances scheduler turn.2 ∧
      Stems Eq scheduler turn.2 id ∧
      Advances (turn.2.resume turn.1 id).2 scheduler.step.2 := by
  have begins : Advances scheduler scheduler.beginTick := .still ⟨rfl, rfl, .refl _⟩ rfl rfl
  have sweeps := begins.trans (sweep_advances scheduler.beginTick)
  have listed : id ∈ scheduler.beginTick.sweep.2.yieldedThreads := by
    have swept : scheduler.beginTick.sweep.2.standing id = some thread :=
      (standing_filter (fun _ thread => thread.isActive) rfl
        (fun _ _ stands => (standing_eq_some.mp stands).2) id).trans stands
    obtain ⟨found, -⟩ := standing_eq_some.mp swept
    refine List.mem_map.mpr ⟨thread, List.mem_filter.mpr ⟨?_, decide_eq_true yielding⟩, ?_⟩
    · exact OrderedMap.mem_values_iff.mpr ⟨id, found⟩
    · exact orderly.keyed id thread (standing_eq_some.mp stands).1
  obtain ⟨ahead, behind, queue⟩ := List.append_of_mem listed
  have spared : id ∉ ahead := by
    have distinct := yieldedThreads_nodup (sweeps orderly).1.keyed
    rw [queue] at distinct
    exact fun member => (List.nodup_append.mp distinct).2.2 id member id List.mem_cons_self rfl
  obtain ⟨report, reached⟩ : ∃ report, scheduler.resumeTick =
      (scheduler.beginTick.sweep.2.resumeAll report ahead).2.resumeAll
        (scheduler.beginTick.sweep.2.resumeAll report ahead).1 (id :: behind) :=
    ⟨_, by rw [resumeTick, queue, resumeAll_append]⟩
  refine ⟨scheduler.beginTick.sweep.2.resumeAll report ahead,
    sweeps.trans (resumeAll_advances ahead _ report),
    (swept_stems scheduler id).andThen (resumeAll_spares _ report spared), ?_⟩
  have resumes := resumeAll_advances behind
    ((scheduler.beginTick.sweep.2.resumeAll report ahead).2.resume
      (scheduler.beginTick.sweep.2.resumeAll report ahead).1 id).2
    ((scheduler.beginTick.sweep.2.resumeAll report ahead).2.resume
      (scheduler.beginTick.sweep.2.resumeAll report ahead).1 id).1
  change Advances _ (resumeAll _ _ (id :: behind)).2 at resumes
  rw [← reached] at resumes
  exact (resumes.trans (drain_advances _ _ _)).trans (.still ⟨rfl, rfl, .refl _⟩ rfl rfl)

/-- A tick invokes the top frame of a thread that yields, unless the thread has ended before
its turn. -/
theorem step_takesUp (orderly : Orderly scheduler) {thread : Thread α} {frame : Frame α}
    (stands : scheduler.standing id = some thread) (yielding : thread.status = .yielding)
    (layered : thread.Layered scheduler.registry) (top : thread.waiting.head? = some frame) :
    scheduler.TakesUpNext id thread.target frame := by
  obtain ⟨turn, early, kept, onward⟩ := turn_of_yielding orderly stands yielding
  have issued := orderly.issued id thread (standing_eq_some.mp stands).1
  have turning := resume_advances turn.2 turn.1 id
  obtain ⟨orderlyTurn, laterTurn⟩ := early orderly
  cases active : turn.2.standing id with
  | none =>
    refine Or.inl (((turning.trans onward) orderlyTurn).2.dead id
      (laterTurn.ids.issued_of issued) ?_)
    rw [isLive_eq_standing, active]
    rfl
  | some now =>
    obtain ⟨earlier, rfl, stood | ⟨unissued, -⟩⟩ := kept.thread orderly.distinct now active
    · obtain rfl : thread = earlier := Option.some.inj (stands.symm.trans stood)
      rw [← laterTurn.registry] at layered
      obtain ⟨recent, invoked⟩ :=
        resume_recorded orderlyTurn turn.1 active yielding layered top
      obtain ⟨grown, recorded, -⟩ := laterTurn.chronicle
      obtain ⟨newest, finished, -⟩ := (onward (turning orderlyTurn).1).2.chronicle
      refine Or.inr ⟨newest ++ (recent ++ .invoked id thread.target frame :: grown), ?_, by simp⟩
      rw [finished, invoked, recorded]
      simp
    · exact absurd issued unissued

end Invoking

section Running

/-- The active threads of a scheduler in order have layered frames. -/
structure Piled (scheduler : Scheduler τ α) : Prop where
  orderly : Orderly scheduler
  layered : ∀ id thread, scheduler.standing id = some thread →
    thread.Layered scheduler.registry

omit [Transport τ α] in
/-- A fresh scheduler has no thread whose frames could be out of order. -/
theorem fresh_piled (config : SchedulerConfig) (registry : Registry) (transport : τ)
    (motors : Motors (LoopbackLink α) α) {ids : IdSource} (distinct : ids.Distinct) :
    Piled (fresh config registry transport ids motors) :=
  ⟨fresh_orderly config registry transport motors distinct, fun _ _ stands => by cases stands⟩

/-- Every operation leaves layered frames. -/
theorem Piled.perform (piled : Piled scheduler) (operation : Operation τ α) :
    Piled (scheduler.perform operation) := by
  refine ⟨(perform_advances scheduler operation piled.orderly).1, fun id thread stands => ?_⟩
  have resumes := perform_resumes piled.orderly.keyed operation id
  obtain ⟨earlier, resumed, origin⟩ := resumes.thread piled.orderly.distinct thread stands
  rw [resumes.registry]
  refine resumed.layered ?_
  rcases origin with stood | ⟨-, -, rests⟩
  · exact piled.layered id earlier stood
  · exact rests.layered _

/-- A run leaves layered frames. -/
theorem Piled.run (piled : Piled scheduler) (operations : List (Operation τ α)) :
    Piled (scheduler.run operations) := by
  induction operations generalizing scheduler with
  | nil => exact piled
  | cons first rest inductionHypothesis => exact inductionHypothesis (piled.perform first)

/-- In the course of a run, behind fewer operations than all, two frames of a thread waited at
once. -/
def Nested (scheduler : Scheduler τ α) (operations : List (Operation τ α)) (id : ThreadId) :
    Prop :=
  ∃ count < operations.length, ((scheduler.run (operations.take count)).standing id).any
    (2 ≤ ·.waiting.length) = true

/-- Frames that waited at once in a run did so in every longer one. -/
theorem Nested.longer {operations : List (Operation τ α)}
    (nested : scheduler.Nested operations id) (last : Operation τ α) :
    scheduler.Nested (operations ++ [last]) id := by
  obtain ⟨count, before, found⟩ := nested
  refine ⟨count, by simp only [List.length_append, List.length_singleton]; omega, ?_⟩
  rw [List.take_append_of_le_length (Nat.le_of_lt before)]
  exact found

/-- A thread with a waiting frame yields, or two of its frames waited at once before. The
induction is on the last operation of the run. -/
theorem run_yields (piled : Piled scheduler) (awake : ∀ id thread,
      scheduler.standing id = some thread → thread.waiting ≠ [] → thread.status = .yielding)
    (operations : List (Operation τ α)) {id : ThreadId} {thread : Thread α}
    (stands : (scheduler.run operations).standing id = some thread)
    (waits : thread.waiting ≠ []) :
    thread.status = .yielding ∨ scheduler.Nested operations id := by
  induction operations using List.reverseRecOn generalizing thread with
  | nil => exact Or.inl (awake id thread stands waits)
  | append_singleton rest last inductionHypothesis =>
    by_cases yields : thread.status = .yielding
    · exact Or.inl yields
    refine Or.inr ?_
    have before := piled.run rest
    rw [run_append] at stands
    obtain ⟨earlier, resumed, origin⟩ :=
      (perform_resumes before.orderly.keyed last id).thread before.orderly.distinct thread stands
    have active := (standing_eq_some.mp stands).2
    rcases origin with stood | ⟨-, -, rests⟩
    · rcases resumed.idle (before.layered id earlier stood) active waits yields with
        same | nested
      · subst same
        exact ((inductionHypothesis stood waits).resolve_left yields).longer last
      · refine ⟨rest.length, by simp, ?_⟩
        rw [List.take_left, stood]
        exact decide_eq_true nested
    · rcases resumed.idle (rests.layered (scheduler.run rest).registry) active waits yields with
        same | nested
      · rw [same, rests.waiting] at waits
        exact absurd rfl waits
      · rw [rests.waiting] at nested
        cases nested

/-- Whatever a host does, an active thread with frames that wait yields, and the next tick
invokes the top one of them unless the thread has ended by then; or two frames of the thread
waited at once before. -/
theorem waiting_calls_are_taken_up (config : SchedulerConfig) (registry : Registry)
    (transport : τ) (motors : Motors (LoopbackLink α) α) {ids : IdSource}
    (distinct : ids.Distinct) (operations : List (Operation τ α)) {id : ThreadId}
    {thread : Thread α}
    (stands : ((fresh config registry transport ids motors).run operations).standing id =
      some thread)
    (waits : thread.waiting ≠ []) :
    (thread.status = .yielding ∧ ∃ frame, thread.waiting.head? = some frame ∧
      ((fresh config registry transport ids motors).run operations).TakesUpNext id
        thread.target frame) ∨
      (fresh config registry transport ids motors).Nested operations id := by
  have piled := fresh_piled config registry transport motors distinct
  have now := piled.run operations
  refine (run_yields piled (fun _ _ none => by cases none) operations stands waits).imp_left
    fun yields => ⟨yields, ?_⟩
  obtain ⟨frame, rest, shape⟩ := List.exists_cons_of_ne_nil waits
  have top : thread.waiting.head? = some frame := by rw [shape]; rfl
  exact ⟨frame, top, step_takesUp now.orderly stands yields (now.layered id thread stands) top⟩

/-- A thread that is told to wait for ten seconds and, while it does, for no time at all. -/
def doubleWait : List (Operation (Inline Rat) Rat) :=
  [.addTarget (.sprite ⟨"cat"⟩ "Cat"), .registerThread ⟨"cat"⟩ false,
    .execute ⟨"#0"⟩ "control_wait" (.ofList [("DURATION", .int 10)]) (some ⟨"long"⟩),
    .execute ⟨"#0"⟩ "control_wait" (.ofList [("DURATION", .int 0)]) (some ⟨"short"⟩)]

/-- While the thread waits once, it yields and is taken up. -/
theorem singleWait_takenUp :
    ∃ thread frame,
      (standardScheduler.run (doubleWait.take 3)).standing ⟨"#0"⟩ = some thread ∧
        thread.status = .yielding ∧ thread.waiting.head? = some frame ∧
        (standardScheduler.run (doubleWait.take 3)).TakesUpNext ⟨"#0"⟩ thread.target frame := by
  have waits : ((standardScheduler.run (doubleWait.take 3)).standing ⟨"#0"⟩).any
      (!·.waiting.isEmpty) = true := by decide +kernel
  obtain ⟨thread, stands, pending⟩ := (Option.any_eq_true _ _).mp waits
  obtain ⟨yields, frame, top, taken⟩ := (waiting_calls_are_taken_up .standard .standard
    (.idle none : Inline Rat) (.atRest .reliable Motors.defaultBackoff) IdSource.numbered_distinct
    (doubleWait.take 3) stands (by simpa using pending)).resolve_right (by
      unfold Nested
      decide +kernel)
  exact ⟨thread, frame, stands, yields, top, taken⟩

/-- Behind the second wait the thread runs on, and the first one is left on its stack. -/
theorem doubleWait_strands :
    ((standardScheduler.run (doubleWait ++ [.step])).standing ⟨"#0"⟩).map
        (fun thread => (thread.status, thread.waiting.map Frame.token)) =
      some (.running, [some ⟨"long"⟩]) := by
  decide +kernel

end Running

end Scheduler

end SpriteMachine
