import SpriteMachine.Proofs.Scheduler.Nesting

/-!
# Stacks from moment to moment

From one moment to the next a block is invoked, or no stack changes. An invocation takes a
frame off the top of a stack or makes a new one, and behind it the thread has the same frames
as before or one more: that of the block, if it asked to be invoked again.
-/

namespace SpriteMachine

namespace Thread

variable {α : Type} {registry : Registry} {thread earlier later woken : Thread α} {frame : Frame α}

/-- The stack of a thread is as it was. -/
def SameStack (earlier later : Thread α) : Prop :=
  later.target = earlier.target ∧ later.frames = earlier.frames

/-- A thread has its own stack. -/
theorem SameStack.refl (thread : Thread α) : SameStack thread thread := ⟨rfl, rfl⟩

/-- Only the stack tells whether a thread is layered. -/
theorem SameStack.layered (same : SameStack earlier later) (layered : earlier.Layered registry) :
    later.Layered registry := by
  obtain ⟨stacked, bottom⟩ := layered
  refine ⟨stacked.congr same.2, fun body last => bottom body ?_⟩
  rwa [same.2] at last

/-- A frame that a wake takes off is the top one of a stack that goes on below it. It waits
with a known block. -/
theorem Layered.popBlock_some (layered : thread.Layered registry)
    (popped : (thread.setStatus .running).popBlock = (some frame, woken)) :
    thread.frames = frame :: woken.frames ∧ frame.state = .waiting ∧
      (registry.block? frame.opcode).isSome := by
  obtain ⟨⟨blocks, body, frames, -, waits⟩, -⟩ := layered
  rw [Thread.popBlock, setStatus_frames] at popped
  cases stack : thread.frames with
  | nil => simp [stack] at popped
  | cons top rest =>
    cases rest with
    | nil => simp [stack] at popped
    | cons below others =>
      simp only [stack, Prod.mk.injEq, Option.some.injEq] at popped
      obtain ⟨rfl, rfl⟩ := popped
      have member : top ∈ blocks := by
        cases blocks with
        | nil => simp [stack] at frames
        | cons first more =>
          rw [stack, List.cons_append] at frames
          rw [(List.cons.inj frames).1]
          exact List.mem_cons_self
      exact ⟨rfl, waits top member⟩

/-- A wake that takes no frame off leaves the stack alone. -/
theorem popBlock_none (popped : (thread.setStatus .running).popBlock = (none, woken)) :
    SameStack thread woken := by
  unfold popBlock at popped
  split at popped
  case h_1 => cases popped
  case h_2 =>
    obtain rfl := (Prod.mk.inj popped).2
    exact ⟨(setStatus_leads thread (by decide)).target, setStatus_frames thread .running⟩

end Thread

namespace Scheduler

variable {τ α : Type} {now taken before after scheduler : Scheduler τ α} {id other : ThreadId}
  {target : TargetId} {block : Block} {frame : Frame α} {thread later : Thread α}

/-- Who is suspended has its frame on top of its stack, and yields. -/
theorem standing_suspend (scheduler : Scheduler τ α) (id : ThreadId) (frame : Frame α) :
    (scheduler.suspend id frame).standing id = (scheduler.standing id).map fun thread =>
      (thread.push { frame with state := .waiting }).setStatus .yielding := by
  change ((scheduler.threads.modify id _).find? id).filter Thread.isActive =
    ((scheduler.threads.find? id).filter Thread.isActive).map _
  rw [OrderedMap.find_modify, if_pos rfl]
  cases scheduler.threads.find? id with
  | none => rfl
  | some thread =>
    have pushed := Thread.setStatus_isActive (thread.push { frame with state := .waiting })
      (show ThreadStatus.yielding ≠ .done by decide)
    cases active : thread.isActive with
    | false => simp [Option.filter, active]
    | true =>
      have still : (thread.push { frame with state := .waiting }).isActive = true := active
      simp [Option.filter, active, pushed, still]

section Taking

variable [Transport τ α]

/-- Only the thread that is invoked may change where its frame is taken from. -/
theorem TakesUp.standing_other (takes : TakesUp now id target block frame taken)
    (spared : other ≠ id) : taken.standing other = now.standing other := by
  cases takes with
  | resumed wakes known =>
    obtain ⟨found, yielding, woken, popped, rfl⟩ := wakes
    rw [standing, OrderedMap.find_modify, if_neg spared, standing]
  | called received found active known => rfl
  | executed found active known => rfl

/-- To take up a block keeps settings and names. -/
theorem TakesUp.keeps (takes : TakesUp now id target block frame taken) : Keeps now taken := by
  cases takes with
  | resumed wakes known =>
    obtain ⟨found, yielding, woken, popped, rfl⟩ := wakes
    exact ⟨rfl, rfl, .refl _⟩
  | called received found active known => exact ⟨rfl, rfl, .refl _⟩
  | executed found active known => exact .refl now

/-- Nothing is done to any other thread than the one that is invoked. -/
theorem TakesUp.spares (takes : TakesUp now id target block frame taken) (spared : other ≠ id) :
    Stems Eq now taken other := by
  refine .still takes.keeps.ids takes.keeps.registry fun thread stands => ?_
  exact (takes.standing_other spared).symm.trans stands

/-- The thread that is resumed is woken. -/
theorem TakesUp.resumes (takes : TakesUp now id target block frame taken) (other : ThreadId) :
    Stems (Thread.Resumes now.registry) now taken other := by
  by_cases same : other = id
  · subst same
    have stays : Stems (Thread.Resumes now.registry) now now other :=
      (Stems.refl now).widen fun thread _ same => same ▸ Or.inl .same
    cases takes with
    | @resumed thread block frame taken wakes known =>
      obtain ⟨found, yielding, woken, popped, rfl⟩ := wakes
      refine ⟨.refl _, rfl, fun _ later lives => ⟨thread, Or.inr ⟨yielding, ?_⟩, Or.inl ?_⟩⟩
      · obtain ⟨present, -⟩ := standing_eq_some.mp lives
        rw [OrderedMap.find_modify, if_pos rfl, found] at present
        rw [← Option.some.inj present, Thread.woken, popped]
        exact .same
      · refine standing_eq_some.mpr ⟨found, ?_⟩
        rw [Thread.isActive, Thread.isDone, yielding]
        rfl
    | called received found active known => exact stays.aside rfl rfl rfl
    | executed found active known => exact stays
  · exact (takes.spares same).widen fun thread _ same => same ▸ Or.inl .same

/-- A new frame is on no stack, and a frame that waited was the top of that of its thread. -/
theorem TakesUp.stack (takes : TakesUp now id target block frame taken)
    (layered : ∀ thread, now.standing id = some thread → thread.Layered now.registry) :
    ∃ thread, taken.standing id = some thread ∧ thread.target = target ∧
      (frame.isFirstRun = true ∧ now.standing id = some thread ∨
        frame.isFirstRun = false ∧ ∃ earlier, now.standing id = some earlier ∧
          earlier.target = target ∧ earlier.frames = frame :: thread.frames) := by
  cases takes with
  | @resumed thread block frame taken wakes known =>
    obtain ⟨found, yielding, woken, popped, rfl⟩ := wakes
    have active : thread.isActive = true := by
      rw [Thread.isActive, Thread.isDone, yielding]
      rfl
    have stands : now.standing id = some thread := standing_eq_some.mpr ⟨found, active⟩
    obtain ⟨frames, waits, -⟩ := (layered thread stands).popBlock_some popped
    have runs : ThreadStatus.running ≠ .done := by decide
    have leads := (Thread.setStatus_leads thread runs).trans (Thread.popBlock_leads _)
    rw [popped] at leads
    have awake : woken.isActive = true := by
      have going := Thread.popBlock_isDone (thread.setStatus .running)
      rw [popped, Thread.setStatus_isDone thread (by decide)] at going
      rwa [Thread.isActive, going]
    refine ⟨woken, ?_, leads.target, Or.inr ⟨?_, thread, stands, rfl, frames⟩⟩
    · rw [standing, OrderedMap.find_modify, if_pos rfl, found, Option.map_some,
        Option.filter_some, if_pos awake]
    · rw [Frame.isFirstRun, waits]
      rfl
  | @called called opcode args token bridge thread block received found active known =>
    have stands : now.standing id = some thread :=
      standing_eq_some.mpr ⟨found, by rw [Thread.isActive, active]; rfl⟩
    exact ⟨thread, stands, rfl, Or.inl ⟨rfl, stands⟩⟩
  | @executed opcode args token thread block found active known =>
    have stands : now.standing id = some thread :=
      standing_eq_some.mpr ⟨found, by rw [Thread.isActive, active]; rfl⟩
    exact ⟨thread, stands, rfl, Or.inl ⟨rfl, stands⟩⟩

end Taking

variable [Scalar α] [Transport τ α]

section Invoking

/-- What a block makes of its invocation with a frame that was taken up. -/
def blockOutcome (taken : Scheduler τ α) (id : ThreadId) (target : TargetId) (block : Block)
    (frame : Frame α) : Except BlockFault (Value α) × Invocation τ α :=
  block.run frame.args ⟨taken.noteInvocation id target frame, id, target, frame, false⟩

/-- The block asks to be invoked again. -/
def Yields (outcome : Except BlockFault (Value α) × Invocation τ α) : Prop :=
  (∃ value, outcome.1 = .ok value) ∧ outcome.2.yielded = true

/-- The frame with which a block is to be invoked again. -/
def keptFrame (outcome : Except BlockFault (Value α) × Invocation τ α) : Frame α :=
  { outcome.2.frame with state := .waiting }

/-- A block that asks to be invoked again leaves its thread suspended with its frame. -/
theorem Yields.invoke (yields : Yields (blockOutcome taken id target block frame)) :
    (taken.invoke id target block frame).2 =
      (blockOutcome taken id target block frame).2.scheduler.suspend id
        (blockOutcome taken id target block frame).2.frame := by
  obtain ⟨⟨value, completes⟩, again⟩ := yields
  exact invoke_yielded (Prod.ext completes rfl) again

/-- While a block runs, its thread keeps the stack that the invocation left it, if it lives. -/
theorem blockOutcome_standing (orderly : Orderly now)
    (takes : TakesUp now id target block frame taken)
    (stands : taken.standing id = some thread)
    (lives : (blockOutcome taken id target block frame).2.scheduler.standing id = some later) :
    later = thread := by
  have works := Block.run_works block frame.args
    ⟨taken.noteInvocation id target frame, id, target, frame, false⟩
  have noted := (takes.advances orderly).1
  obtain ⟨found, -⟩ := standing_eq_some.mp stands
  obtain ⟨earlier, rfl, stood | ⟨fresh, -⟩⟩ :=
    (works.acts.strokes.stems id).thread noted.distinct later lives
  · exact Option.some.inj (stood.symm.trans stands)
  · exact absurd (noted.issued id thread found) fresh

/-- Behind an invocation its thread has the frames that it had, and on top that of the block if
it asked to be invoked again. -/
theorem invoke_stack (orderly : Orderly now) (takes : TakesUp now id target block frame taken)
    (stands : taken.standing id = some thread)
    (lives : (taken.invoke id target block frame).2.standing id = some later) :
    later.target = thread.target ∧
      (Yields (blockOutcome taken id target block frame) ∧
          later.frames = keptFrame (blockOutcome taken id target block frame) :: thread.frames ∨
        later.frames = thread.frames) := by
  have ran : block.run frame.args ⟨taken.noteInvocation id target frame, id, target, frame,
      false⟩ = ((blockOutcome taken id target block frame).1,
        (blockOutcome taken id target block frame).2) := rfl
  rcases invoke_ends ran with
    ⟨value, completes, again, -⟩ | ⟨bridge, results, same⟩
  · have yields : Yields (blockOutcome taken id target block frame) := ⟨⟨value, completes⟩, again⟩
    rw [yields.invoke, standing_suspend] at lives
    obtain ⟨earlier, stood, rfl⟩ := Option.map_eq_some_iff.mp lives
    obtain rfl := blockOutcome_standing orderly takes stands stood
    constructor
    · exact (Thread.setStatus_leads _ (by decide)).target
    · exact Or.inl ⟨yields, Thread.setStatus_frames _ _⟩
  · rw [same] at lives
    obtain rfl := blockOutcome_standing orderly takes stands lives
    exact ⟨rfl, Or.inr rfl⟩

end Invoking

section Turning

variable {allowed : Scheduler τ α → Operation τ α → Prop}

omit [Scalar α] [Transport τ α] in
/-- A thread that was left alone has its stack. -/
theorem Stems.sameStack (stems : Stems Eq before after id) :
    Stems Thread.SameStack before after id :=
  stems.widen fun thread _ same => same ▸ .refl thread

/-- An invocation leaves the stacks of all other threads alone. -/
theorem TakesUp.invoke_spares (takes : TakesUp now id target block frame taken)
    (spared : other ≠ id) : Stems Eq now (taken.invoke id target block frame).2 other :=
  (takes.spares spared).andThen (Scheduler.invoke_spares taken spared target block frame)

/-- No stack changes. -/
def KeepsStacks (before after : Scheduler τ α) : Prop :=
  ∀ id, Stems Thread.SameStack before after id

omit [Scalar α] [Transport τ α] in
/-- No stack changes where every thread is left alone or new. -/
theorem KeepsStacks.ofStems (stems : ∀ id, Stems Eq before after id) : KeepsStacks before after :=
  fun id => (stems id).sameStack

/-- Resuming a thread invokes its block, or no stack changes. -/
theorem resume_stacks (piled : Piled scheduler) (report : StepReport) (id : ThreadId) :
    Invokes scheduler (scheduler.resume report id).2 ∨
      KeepsStacks scheduler (scheduler.resume report id).2 := by
  have still : KeepsStacks scheduler scheduler := .ofStems fun _ => .refl scheduler
  unfold resume
  split
  case h_1 => exact Or.inr still
  case h_2 thread found =>
    split
    case isTrue => exact Or.inr still
    case isFalse status =>
      have yielding : thread.status = .yielding := Decidable.not_not.mp status
      have active : thread.isActive = true := by
        rw [Thread.isActive, Thread.isDone, yielding]
        rfl
      have stands : scheduler.standing id = some thread := standing_eq_some.mpr ⟨found, active⟩
      generalize popping : (thread.setStatus .running).popBlock = popped
      obtain ⟨frame, woken⟩ := popped
      dsimp only
      split
      case h_1 =>
        refine Or.inr fun other => ⟨.refl _, rfl, fun _ later lives => ?_⟩
        obtain ⟨present, lively⟩ := standing_eq_some.mp lives
        rw [OrderedMap.find_modify] at present
        split at present
        case isTrue same =>
          rw [same, found] at present
          obtain rfl := Option.some.inj present
          exact ⟨thread, Thread.popBlock_none popping, Or.inl (same ▸ stands)⟩
        case isFalse => exact ⟨later, .refl later, Or.inl (standing_eq_some.mpr ⟨present, lively⟩)⟩
      case h_2 frame =>
        obtain ⟨-, -, known⟩ := (piled.layered id thread stands).popBlock_some popping
        split
        case h_1 unknown =>
          have missing : scheduler.registry.block? frame.opcode = none := unknown
          rw [missing] at known
          cases known
        case h_2 block named =>
          refine Or.inl ⟨id, thread.target, block, frame, _,
            .resumed ⟨found, yielding, woken, popping, rfl⟩ named, ?_⟩
          split
          case h_1 result => rw [result]
          case h_2 result => rw [result]

/-- Dealing with a message invokes a block, or no stack changes. -/
theorem handleMessage_stacks {message : WorkerMessage α} {bridge : Bridge τ α}
    (received : scheduler.bridge.next = (.message message, bridge)) (report : StepReport) :
    Invokes scheduler (handleMessage { scheduler with bridge := bridge } report message).2 ∨
      KeepsStacks scheduler
        (handleMessage { scheduler with bridge := bridge } report message).2 := by
  by_cases calls : ∃ target caller opcode args token,
      message = .call target caller opcode args token
  · obtain ⟨target, caller, opcode, args, token, rfl⟩ := calls
    rcases handleCall_cases received report with invokes | ⟨later, same⟩
    · exact Or.inl invokes
    · refine Or.inr ?_
      change KeepsStacks scheduler (handleCall _ _ _ _ _ _).2
      rw [same]
      exact .ofStems fun _ => .ofThreads (.refl _) rfl rfl
  · refine Or.inr (.ofStems fun id => handleMessage_stems scheduler _ ?_ report id)
    intro target caller opcode args token same
    exact calls ⟨target, caller, opcode, args, token, same⟩

/-- From one moment to the next a block is invoked, or no stack changes. -/
theorem Turn.stacks (turn : Turn allowed before after) (piled : Piled before) :
    Invokes before after ∨ KeepsStacks before after := by
  cases turn with
  | operate operation permitted between =>
    by_cases executes : ∃ id opcode args token, operation = .execute id opcode args token
    · obtain ⟨id, opcode, args, token, rfl⟩ := executes
      rcases execute_cases before id opcode args token with invokes | same
      · exact Or.inl invokes
      · refine Or.inr ?_
        change KeepsStacks before (before.call id opcode args token).2
        rw [same]
        exact .ofStems fun _ => .refl before
    · refine Or.inr (.ofStems fun id => perform_stems before between ?_ id)
      intro thread opcode args token same
      exact executes ⟨thread, opcode, args, token, same⟩
  | phase phase =>
    cases phase with
    | begin => exact Or.inr (.ofStems fun _ => .ofThreads (.refl _) rfl rfl)
    | sweep =>
      refine Or.inr (.ofStems fun id => .still (.refl _) rfl fun thread stands => ?_)
      obtain ⟨found, active⟩ := standing_eq_some.mp stands
      change (before.threads.filter _).find? id = some thread at found
      rw [OrderedMap.find_filter] at found
      exact standing_eq_some.mpr ⟨(Option.filter_eq_some_iff.mp found).1, active⟩
    | resume report id => exact resume_stacks piled report id
    | look looked idle => exact Or.inr (.ofStems fun _ => .ofThreads (.refl _) rfl rfl)
    | receive received report => exact handleMessage_stacks received report
    | conclude report => exact Or.inr (.ofStems fun _ => .ofThreads (.refl _) rfl rfl)

/-- From one moment to the next is a step forward. -/
theorem Turn.advances (turn : Turn allowed before after) : Advances before after :=
  Moments.advances (.single turn)

/-- The stacks stay in layers. -/
theorem Turn.piled (turn : Turn allowed before after) (piled : Piled before) : Piled after := by
  obtain ⟨orderly, later⟩ := turn.advances piled.orderly
  refine ⟨orderly, fun other thread lives => ?_⟩
  rw [later.registry]
  rcases turn.stacks piled with ⟨id, target, block, frame, taken, takes, rfl⟩ | keeps
  · have known : (taken.registry.block? frame.opcode).isSome := by
      rw [takes.keeps.registry, takes.known]
      rfl
    have grows := invoke_grows taken id other target block frame known
    rw [takes.keeps.registry] at grows
    have resumes := (takes.resumes other).trans grows (fun _ => Or.inl .same)
      fun _ _ _ resumed grown => resumed.grow grown
    obtain ⟨earlier, resumed, stood | ⟨-, -, rests⟩⟩ :=
      resumes.thread piled.orderly.distinct thread lives
    · exact resumed.layered (piled.layered other earlier stood)
    · exact resumed.layered (rests.layered _)
  · obtain ⟨earlier, same, stood | ⟨-, -, rests⟩⟩ :=
      (keeps other).thread piled.orderly.distinct thread lives
    · exact same.layered (piled.layered other earlier stood)
    · exact same.layered (rests.layered _)

end Turning

end Scheduler

end SpriteMachine
