import SpriteMachine.Proofs.Scheduler.Idle

/-!
# Where an active thread comes from

Under one name, an active thread stems from the one that was active before or from one
that was registered since, under a name that was not issued before. All that operations
do to it is to put frames on its stack, and then it yields. Only a tick takes frames off,
when it resumes the thread.
-/

namespace SpriteMachine

namespace Thread

variable {α : Type}

/-- A thread that has just been registered under a name. -/
def IsNew (id : ThreadId) (thread : Thread α) : Prop := thread.id = id ∧ thread.Rests

/-- What a thread becomes when frames of known blocks are put on its stack one after
another: it waits with each of them, and yields. -/
inductive Grows (registry : Registry) (earlier : Thread α) : Thread α → Prop where
  | same : Grows registry earlier earlier
  | suspended {later : Thread α} (onward : Grows registry earlier later) (frame : Frame α)
      (waits : frame.state = .waiting) (known : (registry.block? frame.opcode).isSome) :
      Grows registry earlier ((later.push frame).setStatus .yielding)

/-- A thread that runs again without its top frame. -/
def woken (thread : Thread α) : Thread α := (thread.setStatus .running).popBlock.2

/-- What a tick makes of a thread: frames are put on its stack, or first the thread is
woken from its yield. -/
def Resumes (registry : Registry) (earlier later : Thread α) : Prop :=
  earlier.Grows registry later ∨
    earlier.status = .yielding ∧ earlier.woken.Grows registry later

variable {registry : Registry} {first second third earlier later : Thread α}

/-- Frames put on in two stretches are put on one after another. -/
theorem Grows.trans (early : first.Grows registry second) (late : second.Grows registry third) :
    first.Grows registry third := by
  induction late with
  | same => exact early
  | suspended onward frame waits known inductionHypothesis =>
    exact .suspended inductionHypothesis frame waits known

/-- A thread that is active and has grown yields. -/
theorem Grows.yields (grows : earlier.Grows registry later) (active : later.isActive = true) :
    later = earlier ∨ later.status = .yielding := by
  cases grows with
  | same => exact Or.inl rfl
  | @suspended last onward frame waits known =>
    rw [setStatus_isActive _ (by decide)] at active
    have going : (last.push frame).isDone = false := by simpa [isActive] using active
    rw [setStatus, going]
    exact Or.inr rfl

/-- A thread that was resumed may grow further. -/
theorem Resumes.grow (resumes : first.Resumes registry second)
    (grows : second.Grows registry third) : first.Resumes registry third := by
  rcases resumes with grown | ⟨yielding, woken⟩
  · exact Or.inl (grown.trans grows)
  · exact Or.inr ⟨yielding, woken.trans grows⟩

end Thread

namespace Scheduler

variable {τ α : Type} {before after first second third scheduler : Scheduler τ α}
  {change more result : Thread α → Thread α → Prop} {id other : ThreadId}

/-- The thread that is active under a name stems by a change from the one that was active
before, or from a new one. -/
structure Stems (change : Thread α → Thread α → Prop) (before after : Scheduler τ α)
    (id : ThreadId) : Prop where
  ids : IdSource.Continues before.ids after.ids
  registry : after.registry = before.registry
  thread : before.ids.Distinct → ∀ thread, after.standing id = some thread →
    ∃ earlier, change earlier thread ∧ (before.standing id = some earlier ∨
      ¬ before.ids.Issued id.text ∧ earlier.IsNew id)

namespace Stems

/-- The active thread is the same. -/
theorem still (ids : IdSource.Continues before.ids after.ids)
    (registry : after.registry = before.registry)
    (same : ∀ thread, after.standing id = some thread → before.standing id = some thread) :
    Stems Eq before after id :=
  ⟨ids, registry, fun _ thread stands => ⟨thread, rfl, Or.inl (same thread stands)⟩⟩

/-- The threads are the same. -/
theorem ofThreads (ids : IdSource.Continues before.ids after.ids)
    (registry : after.registry = before.registry) (threads : after.threads = before.threads) :
    Stems Eq before after id :=
  still ids registry fun _ stands => by rwa [standing_congr threads] at stands

/-- Where nothing happens every thread stems from itself. -/
theorem refl (scheduler : Scheduler τ α) : Stems Eq scheduler scheduler id :=
  ofThreads (.refl _) rfl rfl

/-- Nobody is active under the name. -/
theorem nobody (ids : IdSource.Continues before.ids after.ids)
    (registry : after.registry = before.registry) (none : after.standing id = none) :
    Stems Eq before after id :=
  still ids registry fun thread stands => by rw [none] at stands; cases stands

/-- A change may be said to be a wider one. -/
theorem widen (stems : Stems change before after id)
    (within : ∀ earlier later, change earlier later → result earlier later) :
    Stems result before after id :=
  ⟨stems.ids, stems.registry, fun distinct thread stands => by
    obtain ⟨earlier, changed, origin⟩ := stems.thread distinct thread stands
    exact ⟨earlier, within _ _ changed, origin⟩⟩

/-- Changes one after the other. -/
theorem trans (early : Stems change first second id) (late : Stems more second third id)
    (still : ∀ thread, change thread thread)
    (both : ∀ earlier middle later, change earlier middle → more middle later →
      result earlier later) : Stems result first third id where
  ids := early.ids.trans late.ids
  registry := late.registry.trans early.registry
  thread distinct thread stands := by
    obtain ⟨middle, changed, origin⟩ := late.thread (early.ids.distinct distinct) thread stands
    rcases origin with stood | ⟨new, rests⟩
    · obtain ⟨earlier, grown, origin⟩ := early.thread distinct middle stood
      exact ⟨earlier, both _ _ _ grown changed, origin⟩
    · exact ⟨middle, both _ _ _ (still middle) changed,
        Or.inr ⟨fun issued => new (early.ids.issued_of issued), rests⟩⟩

/-- A change behind a step that changes nothing. -/
theorem andThen (early : Stems Eq first second id) (late : Stems change second third id) :
    Stems change first third id :=
  early.trans late (fun _ => rfl) fun _ _ _ same changed => same ▸ changed

/-- What changes besides the threads does not matter. -/
theorem aside (stems : Stems change first second id) (ids : third.ids = second.ids)
    (registry : third.registry = second.registry) (threads : third.threads = second.threads) :
    Stems change first third id :=
  ⟨by rw [ids]; exact stems.ids, registry.trans stems.registry,
    by simp only [standing_congr threads]; exact stems.thread⟩

/-- Growth behind growth. -/
theorem grow {registry : Registry} (early : Stems (Thread.Grows registry) first second id)
    (late : Stems (Thread.Grows registry) second third id) :
    Stems (Thread.Grows registry) first third id :=
  early.trans late (fun _ => .same) fun _ _ _ grows later => grows.trans later

/-- What does not change anything may be said to grow. -/
theorem grown (stems : Stems Eq first second id) (registry : Registry) :
    Stems (Thread.Grows registry) first second id :=
  stems.widen fun _ _ same => same ▸ .same

end Stems

section Strokes

variable [Transport τ α]

/-- A stroke ends and removes threads and registers new ones. -/
theorem Stroke.stems (stroke : Stroke before after) (id : ThreadId) :
    Stems Eq before after id := by
  have keeps := stroke.keeps
  cases stroke with
  | quiet quiet => exact .ofThreads keeps.ids keeps.registry quiet.threads
  | retire ended =>
    refine .still keeps.ids keeps.registry fun thread stands => ?_
    have finished : (before.retire ended).standing id =
        if id = ended then none else before.standing id := standing_finish rfl id
    rw [finished] at stands
    split at stands
    case isTrue => cases stands
    case isFalse => exact stands
  | finish ended =>
    refine .still keeps.ids keeps.registry fun thread stands => ?_
    cases found : before.threads.find? ended with
    | none => rwa [endThread_missing found] at stands
    | some stopped =>
      have finished : (before.endThread ended).2.standing id =
          if id = ended then none else before.standing id :=
        standing_finish (by rw [endThread_found found]) id
      rw [finished] at stands
      split at stands
      case isTrue => cases stands
      case isFalse => exact stands
  | clear ended =>
    refine .still keeps.ids keeps.registry fun thread stands => ?_
    obtain ⟨found, active⟩ := standing_eq_some.mp stands
    change (before.threads.filter _).find? id = some thread at found
    rw [OrderedMap.find_filter] at found
    exact standing_eq_some.mpr ⟨(Option.filter_eq_some_iff.mp found).1, active⟩
  | @adopt thread registrable =>
    refine ⟨keeps.ids, keeps.registry, fun distinct found stands => ?_⟩
    rw [standing_adopt _ _ (registrable.rests _).active, registrable.named] at stands
    split at stands
    case isTrue same =>
      obtain rfl := Option.some.inj stands
      refine ⟨_, rfl, Or.inr ⟨?_, ?_⟩⟩
      · rw [same]
        exact (nextThreadId_fresh before).2.1 distinct
      · rw [same]
        exact ⟨registrable.named _, registrable.rests _⟩
    case isFalse => exact ⟨found, rfl, Or.inl stands⟩
  | tell message order => exact .ofThreads keeps.ids keeps.registry rfl
  | ask hat option starts => exact .ofThreads keeps.ids keeps.registry rfl

/-- Strokes leave an active thread as it was, or begin a new one. -/
theorem Strokes.stems (strokes : Strokes before after) (id : ThreadId) :
    Stems Eq before after id := by
  induction strokes with
  | refl => exact .refl before
  | tail _ stroke inductionHypothesis => exact inductionHypothesis.andThen (stroke.stems id)

end Strokes

section Invoking

/-- To suspend a thread spares all others. -/
theorem suspend_spares (scheduler : Scheduler τ α) (frame : Frame α) (spared : other ≠ id) :
    Stems Eq scheduler (scheduler.suspend id frame) other := by
  refine .still (.refl _) rfl fun thread stands => ?_
  obtain ⟨found, active⟩ := standing_eq_some.mp stands
  change (scheduler.threads.modify id _).find? other = some thread at found
  rw [OrderedMap.find_modify, if_neg spared] at found
  exact standing_eq_some.mpr ⟨found, active⟩

/-- A thread that is suspended has one more frame and yields. -/
theorem suspend_grows (scheduler : Scheduler τ α) (id other : ThreadId) (frame : Frame α)
    (known : (scheduler.registry.block? frame.opcode).isSome) :
    Stems (Thread.Grows scheduler.registry) scheduler (scheduler.suspend id frame) other := by
  by_cases same : other = id
  · subst same
    refine ⟨.refl _, rfl, fun _ thread stands => ?_⟩
    obtain ⟨found, active⟩ := standing_eq_some.mp stands
    change (scheduler.threads.modify other _).find? other = some thread at found
    rw [OrderedMap.find_modify, if_pos rfl] at found
    obtain ⟨earlier, present, becomes⟩ := Option.map_eq_some_iff.mp found
    cases lives : earlier.isActive with
    | true =>
      rw [if_pos lives] at becomes
      refine ⟨earlier, ?_, Or.inl (standing_eq_some.mpr ⟨present, lives⟩)⟩
      rw [← becomes]
      exact .suspended .same _ rfl known
    | false =>
      rw [if_neg (by rw [lives]; exact Bool.false_ne_true)] at becomes
      rw [← becomes, lives] at active
      cases active
  · exact (suspend_spares scheduler frame same).grown _

variable [Scalar α] [Transport τ α]

/-- Behind the block, an invocation suspends its thread or leaves all threads alone. -/
theorem invoke_left (scheduler : Scheduler τ α) (id : ThreadId) (target : TargetId)
    (block : Block) (frame : Frame α) :
    ∃ left : Scheduler τ α, (∀ other, Stems Eq scheduler left other) ∧
      ((∃ waiting : Frame α, waiting.opcode = frame.opcode ∧
          (scheduler.invoke id target block frame).2 = left.suspend id waiting) ∨
        ∃ bridge results, (scheduler.invoke id target block frame).2 =
          { left with bridge := bridge, results := results }) := by
  have works := Block.run_works block frame.args
    ⟨scheduler.noteInvocation id target frame, id, target, frame, false⟩
  generalize ran : block.run frame.args
    ⟨scheduler.noteInvocation id target frame, id, target, frame, false⟩ = outcome at works
  obtain ⟨result, left⟩ := outcome
  have noted : ∀ other, Stems Eq scheduler (scheduler.noteInvocation id target frame) other :=
    fun other => .ofThreads (.refl _) rfl rfl
  refine ⟨left.scheduler, fun other => (noted other).andThen (works.acts.strokes.stems other), ?_⟩
  rcases invoke_ends ran with ⟨value, -, yields, same⟩ | ends
  · exact Or.inl ⟨left.frame, works.opcode, same⟩
  · exact Or.inr ends

/-- An invocation for one thread leaves the frames of all others alone. -/
theorem invoke_spares (scheduler : Scheduler τ α) (spared : other ≠ id) (target : TargetId)
    (block : Block) (frame : Frame α) :
    Stems Eq scheduler (scheduler.invoke id target block frame).2 other := by
  obtain ⟨left, stems, ⟨waiting, -, same⟩ | ⟨bridge, results, same⟩⟩ :=
    invoke_left scheduler id target block frame
  · rw [same]
    exact (stems other).andThen (suspend_spares left waiting spared)
  · rw [same]
    exact (stems other).aside rfl rfl rfl

/-- An invocation of a known block puts one frame on the stack of its thread at most. -/
theorem invoke_grows (scheduler : Scheduler τ α) (id other : ThreadId) (target : TargetId)
    (block : Block) (frame : Frame α) (known : (scheduler.registry.block? frame.opcode).isSome) :
    Stems (Thread.Grows scheduler.registry) scheduler
      (scheduler.invoke id target block frame).2 other := by
  obtain ⟨left, stems, ⟨waiting, opcode, same⟩ | ⟨bridge, results, same⟩⟩ :=
    invoke_left scheduler id target block frame
  · rw [same]
    have grows := suspend_grows left id other waiting
      (by rw [opcode, (stems other).registry]; exact known)
    rw [(stems other).registry] at grows
    exact (stems other).andThen grows
  · rw [same]
    exact ((stems other).grown _).aside rfl rfl rfl

/-- A call makes its own thread grow at most, and spares the others. -/
theorem call_grows (scheduler : Scheduler τ α) (id other : ThreadId) (opcode : String)
    (args : Args α) (token : Option Token) :
    Stems (Thread.Grows scheduler.registry) scheduler
      (scheduler.call id opcode args token).2 other := by
  obtain ⟨fault, -, failed⟩ | ⟨thread, block, found, active, known, calls⟩ :=
    call_forms scheduler id opcode args token
  · rw [failed]
    exact (Stems.refl scheduler).grown _
  · rw [calls]
    refine invoke_grows scheduler id other thread.target block _ ?_
    change (scheduler.registry.block? opcode).isSome
    rw [known]
    rfl

end Invoking

section Operating

variable [Scalar α] [Transport τ α]

omit [Transport τ α] in
/-- To link a batch leaves every thread. -/
theorem linkKnown_stems (scheduler : Scheduler τ α) (batch : Batch) (id : ThreadId) :
    Stems Eq scheduler (scheduler.linkKnown batch).2 id := by
  have quiet := linkKnown_quiet scheduler batch
  exact .ofThreads quiet.ids quiet.registry quiet.threads

/-- Loading scripts retires every thread or leaves all of them alone. -/
theorem loadScripts_stems (scheduler : Scheduler τ α) (batch : Batch) (id : ThreadId) :
    Stems Eq scheduler (scheduler.loadScripts batch).2 id := by
  have named := linkKnown_stems scheduler batch id
  unfold loadScripts
  split
  case h_1 fault left result =>
    rw [result] at named
    exact named
  case h_2 linked left result =>
    rw [result] at named
    split
    case h_1 => exact named.aside rfl rfl rfl
    case h_2 passed bridge registered =>
      have installed := install_idles { left with bridge := bridge } linked
      have retired : Stems Eq { left with bridge := bridge }
          (install { left with bridge := bridge } linked) id :=
        .nobody installed.ids installed.registry
          (standing_retireKeys { left with bridge := bridge } id)
      have heard : Stems Eq scheduler { left with bridge := bridge } id :=
        named.aside rfl rfl rfl
      exact heard.andThen retired

/-- Running a batch registers threads, and retires them when the worker is cut off. -/
theorem runBatch_stems (scheduler : Scheduler τ α) (batch : Batch) (id : ThreadId) :
    Stems Eq scheduler (scheduler.runBatch batch).2 id := by
  have named := linkKnown_stems scheduler batch id
  unfold runBatch
  split
  case h_1 fault left result =>
    rw [result] at named
    exact named
  case h_2 linked left result =>
    rw [result] at named
    have adopted := named.andThen
      ((adoptAll_strokes linked.registrations.entries left).stems id)
    generalize left.adoptAll linked.registrations.entries = registered at adopted
    obtain ⟨starts, adopting⟩ := registered
    dsimp only
    split
    case h_1 fault bridge posted =>
      have retired := (retireAll_strokes (starts.map ThreadStart.thread)
        { adopting with bridge := bridge }).stems id
      have told : Stems Eq scheduler { adopting with bridge := bridge } id :=
        adopted.aside rfl rfl rfl
      exact told.andThen retired
    case h_2 => exact adopted.aside rfl rfl rfl

/-- Between two ticks nothing but the execution of a block changes a stack. -/
theorem perform_stems (scheduler : Scheduler τ α) {operation : Operation τ α}
    (between : operation ≠ .step)
    (silent : ∀ thread opcode args token, operation ≠ .execute thread opcode args token)
    (id : ThreadId) : Stems Eq scheduler (scheduler.perform operation) id := by
  have idles := perform_idles scheduler between silent
  have threadsKept : (scheduler.perform operation).threads = scheduler.threads →
      Stems Eq scheduler (scheduler.perform operation) id :=
    fun kept => .ofThreads idles.ids idles.registry kept
  have rhythmic : IsRhythmic operation → Stems Eq scheduler (scheduler.perform operation) id :=
    fun rhythmic => (perform_tames scheduler rhythmic between).acts.strokes.stems id
  cases operation with
  | openBackend url =>
    refine threadsKept ?_
    change (scheduler.openBackend url).2.threads = _
    unfold openBackend
    split
    case h_1 => rfl
    case h_2 => split <;> rfl
  | loadScripts batch => exact loadScripts_stems scheduler batch id
  | runBatch batch => exact runBatch_stems scheduler batch id
  | registerThread target hasListener =>
    exact (addThread_stroke scheduler target hasListener).stems id
  | endThread thread => exact (Stroke.finish scheduler thread).stems id
  | execute thread opcode args token => exact absurd rfl (silent thread opcode args token)
  | quit => exact .nobody idles.ids idles.registry rfl
  | changeStage change => exact threadsKept rfl
  | changeDevices change => exact threadsKept rfl
  | changeBridge change => exact threadsKept rfl
  | _ => exact rhythmic trivial

/-- Between two ticks frames are only put on stacks. -/
theorem perform_grows (scheduler : Scheduler τ α) {operation : Operation τ α}
    (between : operation ≠ .step) (id : ThreadId) :
    Stems (Thread.Grows scheduler.registry) scheduler (scheduler.perform operation) id := by
  by_cases executes : ∃ thread opcode args token, operation = .execute thread opcode args token
  · obtain ⟨thread, opcode, args, token, rfl⟩ := executes
    exact call_grows scheduler thread id opcode args token
  · have stems := perform_stems scheduler between (fun thread opcode args token same =>
      executes ⟨thread, opcode, args, token, same⟩) id
    exact stems.grown _

end Operating

end Scheduler

end SpriteMachine
