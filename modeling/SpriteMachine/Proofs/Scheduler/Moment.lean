import SpriteMachine.Proofs.Scheduler.Beat
import SpriteMachine.Proofs.Scheduler.Operation

/-!
# Moments of a run

A tick goes through phases: it begins, it sweeps, it resumes one thread after another, it
deals with one message after another, and it is over. The moments of a run lie between
operations and also between the phases of a tick; what every allowed operation and every
phase preserves holds at each of them.

An invocation is taken up off a stack, out of a message or for the host. All that a phase
does besides is to invoke what it takes up, or it invokes nothing.
-/

namespace SpriteMachine

namespace Scheduler

variable {τ α : Type} [Scalar α] [Transport τ α]

/-- A tick takes down the request for a redraw and counts itself. -/
def beginTick (scheduler : Scheduler τ α) : Scheduler τ α :=
  { scheduler with
    stage := scheduler.stage.takeRedraw.2
    stats := { scheduler.stats with ticks := scheduler.stats.ticks + 1 } }

/-- A tick lets the stage draw and counts the faults of its report. -/
def endTick (scheduler : Scheduler τ α) (report : StepReport) : Scheduler τ α :=
  { scheduler with
    stage := scheduler.stage.draw
    stats := { scheduler.stats with faults := scheduler.stats.faults + report.faults.length } }

/-- The first half of a tick: threads are evicted and resumed. -/
def resumeTick (scheduler : Scheduler τ α) : StepReport × Scheduler τ α :=
  scheduler.beginTick.sweep.2.resumeAll
    ⟨scheduler.beginTick.sweep.2.stats.ticks, scheduler.stage.takeRedraw.1,
      scheduler.beginTick.sweep.1, 0, 0, [], []⟩ scheduler.beginTick.sweep.2.yieldedThreads

/-- The second half of a tick: messages of the worker are dealt with. -/
def drainTick (scheduler : Scheduler τ α) : StepReport × Scheduler τ α :=
  drain scheduler.resumeTick.2.config.maxMessagesPerTick scheduler.resumeTick.2
    scheduler.resumeTick.1

/-- A tick drains the messages and then ends. -/
theorem step_eq (scheduler : Scheduler τ α) :
    scheduler.step =
      (scheduler.drainTick.1, scheduler.drainTick.2.endTick scheduler.drainTick.1) := rfl

/-- One phase of a tick. -/
inductive Phase : Scheduler τ α → Scheduler τ α → Prop where
  | begin (scheduler : Scheduler τ α) : Phase scheduler scheduler.beginTick
  | sweep (scheduler : Scheduler τ α) : Phase scheduler scheduler.sweep.2
  | resume (scheduler : Scheduler τ α) (report : StepReport) (id : ThreadId) :
      Phase scheduler (scheduler.resume report id).2
  | look {scheduler : Scheduler τ α} {receipt : Receipt α} {bridge : Bridge τ α}
      (looked : scheduler.bridge.next = (receipt, bridge))
      (idle : ∀ message, receipt ≠ .message message) :
      Phase scheduler { scheduler with bridge := bridge }
  | receive {scheduler : Scheduler τ α} {message : WorkerMessage α} {bridge : Bridge τ α}
      (received : scheduler.bridge.next = (.message message, bridge)) (report : StepReport) :
      Phase scheduler (handleMessage { scheduler with bridge := bridge } report message).2
  | conclude (scheduler : Scheduler τ α) (report : StepReport) :
      Phase scheduler (scheduler.endTick report)

/-- From one moment to the next: an allowed operation other than a tick, or a phase of one. -/
inductive Turn (allowed : Scheduler τ α → Operation τ α → Prop) :
    Scheduler τ α → Scheduler τ α → Prop where
  | operate (scheduler : Scheduler τ α) (operation : Operation τ α)
      (permitted : allowed scheduler operation) (between : operation ≠ .step) :
      Turn allowed scheduler (scheduler.perform operation)
  | phase {before after : Scheduler τ α} (phase : Phase before after) : Turn allowed before after

/-- One moment and a later one. -/
abbrev Moments (allowed : Scheduler τ α → Operation τ α → Prop) :
    Scheduler τ α → Scheduler τ α → Prop := Relation.ReflTransGen (Turn allowed)

/-- More operations may be allowed than happen. -/
theorem Moments.widen {allowed permitted : Scheduler τ α → Operation τ α → Prop}
    {before after : Scheduler τ α} (moments : Moments allowed before after)
    (within : ∀ scheduler operation, allowed scheduler operation → permitted scheduler operation) :
    Moments permitted before after := by
  refine Relation.ReflTransGen.mono (fun _ _ turn => ?_) _ _ moments
  cases turn with
  | operate operation allows between => exact .operate _ operation (within _ _ allows) between
  | phase phase => exact .phase phase

section Ticking

variable {allowed : Scheduler τ α → Operation τ α → Prop}

/-- The resumption of several threads is a sequence of moments. -/
theorem resumeAll_moments (ids : List ThreadId) (scheduler : Scheduler τ α)
    (report : StepReport) : Moments allowed scheduler (scheduler.resumeAll report ids).2 := by
  induction ids generalizing scheduler report with
  | nil => exact .refl
  | cons first rest inductionHypothesis =>
    exact (inductionHypothesis _ _).head (.phase (.resume scheduler report first))

/-- Handling the messages of a tick is a sequence of moments. -/
theorem drain_moments (budget : Nat) (scheduler : Scheduler τ α) (report : StepReport) :
    Moments allowed scheduler (drain budget scheduler report).2 := by
  induction budget generalizing scheduler report with
  | zero => exact .refl
  | succ budget inductionHypothesis =>
    unfold drain
    split
    case h_1 bridge looked => exact .single (.phase (.look looked fun _ same => by cases same))
    case h_2 bridge looked => exact .single (.phase (.look looked fun _ same => by cases same))
    case h_3 message bridge received =>
      exact (inductionHypothesis _ _).head (.phase (.receive received _))

/-- Behind the sweep of a tick threads are resumed and messages dealt with. -/
theorem swept_moments (scheduler : Scheduler τ α) :
    Moments allowed scheduler.beginTick.sweep.2 scheduler.step.2 := by
  have resumed : Moments allowed scheduler.beginTick.sweep.2 scheduler.resumeTick.2 :=
    resumeAll_moments _ _ _
  exact (resumed.trans (drain_moments _ _ _)).tail (.phase (.conclude _ _))

/-- A tick goes through its phases. -/
theorem step_moments (scheduler : Scheduler τ α) : Moments allowed scheduler scheduler.step.2 :=
  ((swept_moments scheduler).head (.phase (.sweep _))).head (.phase (.begin scheduler))

/-- A run of allowed operations leads from moment to moment. -/
theorem run_moments {permitted : Operation τ α → Prop} (operations : List (Operation τ α))
    (scheduler : Scheduler τ α) (every : ∀ operation ∈ operations, permitted operation) :
    Moments (fun _ operation => permitted operation) scheduler (scheduler.run operations) := by
  induction operations generalizing scheduler with
  | nil => exact .refl
  | cons first rest inductionHypothesis =>
    have later := inductionHypothesis (scheduler.perform first) fun operation member =>
      every operation (List.mem_cons_of_mem _ member)
    by_cases ticks : first = .step
    · rw [ticks] at later
      rw [ticks]
      exact (step_moments scheduler).trans later
    · exact later.head (.operate scheduler first (every first List.mem_cons_self) ticks)

end Ticking

section Advancing

/-- Every phase of a tick is a step forward. -/
theorem Phase.advances {before after : Scheduler τ α} (phase : Phase before after) :
    Advances before after := by
  cases phase with
  | begin => exact .still ⟨rfl, rfl, .refl _⟩ rfl rfl
  | sweep => exact sweep_advances before
  | resume report id => exact resume_advances before report id
  | look looked idle => exact bridge_advances before _
  | receive received report =>
    exact (bridge_advances before _).trans (handleMessage_advances _ report _)
  | conclude report => exact .still ⟨rfl, rfl, .refl _⟩ rfl rfl

/-- From one moment to a later one a scheduler moves forward. -/
theorem Moments.advances {allowed : Scheduler τ α → Operation τ α → Prop}
    {before after : Scheduler τ α} (moments : Moments allowed before after) :
    Advances before after := by
  induction moments with
  | refl => exact .refl before
  | tail _ turn inductionHypothesis =>
    refine inductionHypothesis.trans ?_
    cases turn with
    | operate operation permitted between => exact perform_advances _ operation
    | phase phase => exact phase.advances

end Advancing

section Beating

/-- What was reported before does not matter to a beat. -/
theorem Beat.rebase {before after : Instant τ α} (beat : Beat before after) :
    ∃ more, after.faults = before.faults ++ more ∧ ∀ faults,
      Beat ⟨before.scheduler, before.hand, faults⟩
        ⟨after.scheduler, after.hand, faults ++ more⟩ := by
  have silent : ∀ {before after : Scheduler τ α} {here there : Option (ThreadId × Frame α)}
      {faults : List SchedulerFault},
        (∀ faults, Beat ⟨before, here, faults⟩ ⟨after, there, faults⟩) →
      ∃ more, faults = faults ++ more ∧ ∀ faults,
        Beat ⟨before, here, faults⟩ ⟨after, there, faults ++ more⟩ := by
    intro before after here there faults beats
    refine ⟨[], (List.append_nil _).symm, fun faults => ?_⟩
    rw [List.append_nil]
    exact beats faults
  cases beat with
  | act act => exact silent fun _ => .act act
  | sweep scheduler _ => exact silent (.sweep scheduler)
  | wake found yielding popped known _ => exact silent (.wake found yielding popped known)
  | lose found yielding popped unknown _ =>
    exact ⟨_, rfl, .lose found yielding popped unknown⟩
  | note live target frame _ => exact silent (.note live target frame)
  | suspend scheduler id opcode token known _ =>
    exact silent (.suspend scheduler id opcode token known)
  | answer scheduler id frame reply answers more agreed _ =>
    exact ⟨more, rfl, .answer scheduler id frame reply answers more agreed⟩
  | look looked idle more agreed _ => exact ⟨more, rfl, .look looked idle more agreed⟩
  | hear received note _ => exact silent (.hear received note)
  | retire scheduler id _ => exact silent (.retire scheduler id)
  | ended received more missing _ => exact ⟨more, rfl, .ended received more missing⟩
  | call received live known _ => exact silent (.call received live known)
  | refuse received refused more due _ => exact ⟨more, rfl, .refuse received refused more due⟩

/-- The faults that beats report come behind those reported before, whatever these are. -/
theorem Beats.rebase {before after : Instant τ α} (beats : Beats before after) :
    ∃ more, after.faults = before.faults ++ more ∧ ∀ faults,
      Beats ⟨before.scheduler, before.hand, faults⟩
        ⟨after.scheduler, after.hand, faults ++ more⟩ := by
  induction beats with
  | refl =>
    exact ⟨[], (List.append_nil _).symm, fun faults => (List.append_nil faults).symm ▸ .refl⟩
  | tail _ beat inductionHypothesis =>
    obtain ⟨more, earlier, beats⟩ := inductionHypothesis
    obtain ⟨last, later, once⟩ := beat.rebase
    refine ⟨more ++ last, by rw [later, earlier, List.append_assoc], fun faults => ?_⟩
    rw [← List.append_assoc]
    exact (beats faults).tail (once _)

/-- A phase of a tick is a sequence of beats. -/
theorem Phase.beats {before after : Scheduler τ α} (phase : Phase before after) :
    ∃ faults, Beats ⟨before, none, []⟩ ⟨after, none, faults⟩ := by
  have rebased : ∀ {faults more}, Beats ⟨before, none, faults⟩ ⟨after, none, more⟩ →
      ∃ faults, Beats ⟨before, none, []⟩ ⟨after, none, faults⟩ := by
    intro faults more beats
    obtain ⟨last, -, based⟩ := beats.rebase
    exact ⟨_, based []⟩
  cases phase with
  | begin =>
    refine ⟨[], Quiet.beats ?_ none []⟩
    exact ⟨rfl, rfl, rfl, rfl, rfl, rfl, .refl _, .same rfl rfl, fun _ _ known => known⟩
  | sweep => exact ⟨[], .single (.sweep before [])⟩
  | resume report id => exact rebased (resume_beats before report id)
  | look looked idle => exact ⟨[], .single (.look looked idle [] (fun _ none => by cases none) [])⟩
  | receive received report => exact rebased (handleMessage_beats received report)
  | conclude report =>
    refine ⟨[], Quiet.beats ?_ none []⟩
    exact ⟨rfl, rfl, rfl, rfl, rfl, rfl, .refl _, .same rfl rfl, fun _ _ known => known⟩

/-- What allowed operations and beats preserve holds at every later moment. -/
theorem Moments.induct {allowed : Scheduler τ α → Operation τ α → Prop}
    (invariant : Scheduler τ α → Prop)
    (operates : ∀ scheduler operation, allowed scheduler operation → invariant scheduler →
      invariant (scheduler.perform operation))
    (beats : ∀ before after faults, Beats ⟨before, none, []⟩ ⟨after, none, faults⟩ →
      invariant before → invariant after)
    {before after : Scheduler τ α} (moments : Moments allowed before after)
    (initial : invariant before) : invariant after := by
  induction moments with
  | refl => exact initial
  | tail _ turn inductionHypothesis =>
    cases turn with
    | operate operation permitted between =>
      exact operates _ operation permitted inductionHypothesis
    | phase phase =>
      obtain ⟨faults, sequence⟩ := phase.beats
      exact beats _ _ faults sequence inductionHypothesis

end Beating

section Invoking

omit [Scalar α] in
/-- An answer reaches the bridge only. -/
theorem answer_bridge (scheduler : Scheduler τ α) (token : Option Token)
    (reply : Token → HostMessage α) :
    ∃ bridge, (scheduler.answer token reply).2 = { scheduler with bridge := bridge } := by
  cases token with
  | none => exact ⟨_, rfl⟩
  | some token => exact ⟨_, answer_some scheduler token reply⟩

variable {scheduler : Scheduler τ α} {id : ThreadId} {target : TargetId} {block : Block}
  {frame : Frame α} {value : Value α} {fault : BlockFault} {left : Invocation τ α}

/-- A block that asks to be invoked again leaves its frame on the stack. -/
theorem invoke_yielded (ran : block.run frame.args
      ⟨scheduler.noteInvocation id target frame, id, target, frame, false⟩ = (.ok value, left))
    (yields : left.yielded = true) :
    (scheduler.invoke id target block frame).2 = left.scheduler.suspend id left.frame := by
  simp only [invoke, ran, yields, if_true]

/-- A block that does not fail leaves its call open exactly when it asks to be invoked again. -/
theorem outcome_yielded (ran : block.run frame.args
      ⟨scheduler.noteInvocation id target frame, id, target, frame, false⟩ = (.ok value, left)) :
    (scheduler.invoke id target block frame).1 = .ok .yielded ↔ left.yielded = true := by
  unfold invoke
  dsimp only
  rw [ran]
  dsimp only
  split
  case isTrue yields => exact ⟨fun _ => yields, fun _ => rfl⟩
  case isFalse completes =>
    refine ⟨fun outcome => ?_, fun yields => absurd yields completes⟩
    split at outcome <;> cases outcome

/-- A block that completes gives its value to whoever called it. -/
theorem invoke_completed (ran : block.run frame.args
      ⟨scheduler.noteInvocation id target frame, id, target, frame, false⟩ = (.ok value, left))
    (completes : left.yielded = false) :
    (scheduler.invoke id target block frame).2 =
      ((left.scheduler.deliver id value).answer frame.token (.result · value)).2 := by
  simp only [invoke, ran, completes, Bool.false_eq_true, if_false]
  split
  case h_1 result => rw [result]
  case h_2 result => rw [result]

/-- A block that fails says why to whoever called it. -/
theorem invoke_failed (ran : block.run frame.args
      ⟨scheduler.noteInvocation id target frame, id, target, frame, false⟩ = (.error fault, left)) :
    (scheduler.invoke id target block frame).2 =
      (left.scheduler.answer frame.token (.failure · fault.message)).2 := by
  simp only [invoke, ran]
  split
  case h_1 result => rw [result]
  case h_2 result => rw [result]

/-- An invocation ends with the frame on the stack, or only bridge and results change behind
the block. -/
theorem invoke_ends {result : Except BlockFault (Value α)} (ran : block.run frame.args
      ⟨scheduler.noteInvocation id target frame, id, target, frame, false⟩ = (result, left)) :
    (∃ value, result = .ok value ∧ left.yielded = true ∧
      (scheduler.invoke id target block frame).2 = left.scheduler.suspend id left.frame) ∨
    ∃ bridge results, (scheduler.invoke id target block frame).2 =
      { left.scheduler with bridge := bridge, results := results } := by
  cases result with
  | error fault =>
    obtain ⟨bridge, same⟩ := answer_bridge left.scheduler frame.token (.failure · fault.message)
    exact Or.inr ⟨bridge, _, (invoke_failed ran).trans same⟩
  | ok value =>
    cases yields : left.yielded with
    | true => exact Or.inl ⟨value, rfl, rfl, invoke_yielded ran yields⟩
    | false =>
      obtain ⟨bridge, same⟩ := answer_bridge (left.scheduler.deliver id value) frame.token
        (.result · value)
      exact Or.inr ⟨bridge, _, (invoke_completed ran yields).trans same⟩

/-- A value is the outcome only when the block completes with it. -/
theorem outcome_completed (outcome : (scheduler.invoke id target block frame).1 =
      .ok (.completed value)) :
    ∃ left, block.run frame.args
        ⟨scheduler.noteInvocation id target frame, id, target, frame, false⟩ = (.ok value, left) ∧
      left.yielded = false := by
  unfold invoke at outcome
  dsimp only at outcome
  split at outcome
  case h_1 => split at outcome <;> cases outcome
  case h_2 given left ran =>
    split at outcome
    case isTrue => cases outcome
    case isFalse completes =>
      split at outcome
      case h_1 => cases outcome
      case h_2 =>
        obtain rfl := CallOutcome.completed.inj (Except.ok.inj outcome)
        exact ⟨left, ran, by simpa using completes⟩

end Invoking

section Taking

/-- A thread that yielded is woken, and the top frame is taken off its stack. -/
structure Wakes (now : Scheduler τ α) (id : ThreadId) (thread : Thread α)
    (frame : Option (Frame α)) (taken : Scheduler τ α) : Prop where
  found : now.threads.find? id = some thread
  yielding : thread.status = .yielding
  popped : ∃ woken, (thread.setStatus .running).popBlock = (frame, woken) ∧
    taken = { now with threads := now.threads.modify id fun _ => woken }

/-- A call whose block is known is invoked for an active thread. -/
theorem call_invokes {scheduler : Scheduler τ α} {id : ThreadId} {opcode : String} {args : Args α}
    {token : Option Token} {thread : Thread α} {block : Block}
    (found : scheduler.threads.find? id = some thread) (active : thread.isDone = false)
    (known : scheduler.registry.block? opcode = some block) :
    scheduler.call id opcode args token =
      scheduler.invoke id thread.target block (.fresh opcode args token) := by
  simp only [call, found, active, known, Bool.false_eq_true, if_false]

/-- A moment at which a block is about to be invoked with a frame, and the scheduler from which
the frame was taken: a thread is resumed, the worker calls, or the host executes a block. -/
inductive TakesUp (now : Scheduler τ α) (id : ThreadId) :
    TargetId → Block → Frame α → Scheduler τ α → Prop where
  | resumed {thread : Thread α} {block : Block} {frame : Frame α} {taken : Scheduler τ α}
      (wakes : Wakes now id thread (some frame) taken)
      (known : now.registry.block? frame.opcode = some block) :
      TakesUp now id thread.target block frame taken
  | called {target : TargetId} {opcode : String} {args : Args α} {token : Token}
      {bridge : Bridge τ α} {thread : Thread α} {block : Block}
      (received : now.bridge.next = (.message (.call target id opcode args token), bridge))
      (found : now.threads.find? id = some thread) (active : thread.isDone = false)
      (known : now.registry.block? opcode = some block) :
      TakesUp now id thread.target block (.fresh opcode args (some token))
        { now with bridge := bridge }
  | executed {opcode : String} {args : Args α} {token : Option Token} {thread : Thread α}
      {block : Block} (found : now.threads.find? id = some thread)
      (active : thread.isDone = false) (known : now.registry.block? opcode = some block) :
      TakesUp now id thread.target block (.fresh opcode args token) now

omit [Scalar α] in
/-- A block is invoked for a live thread only. -/
theorem TakesUp.live {now taken : Scheduler τ α} {id : ThreadId} {target : TargetId} {block : Block}
    {frame : Frame α} (takes : TakesUp now id target block frame taken) :
    now.isLive id = true := by
  cases takes with
  | resumed wakes known =>
    rw [isLive_of_find wakes.found, Thread.isDone, wakes.yielding]
    rfl
  | called received found active known => rw [isLive_of_find found, active]; rfl
  | executed found active known => rw [isLive_of_find found, active]; rfl

omit [Scalar α] in
/-- The block that is invoked is that of its frame. -/
theorem TakesUp.known {now taken : Scheduler τ α} {id : ThreadId} {target : TargetId}
    {block : Block}
    {frame : Frame α} (takes : TakesUp now id target block frame taken) :
    now.registry.block? frame.opcode = some block := by
  cases takes <;> assumption

omit [Scalar α] in
/-- The thread is live also where its frame was taken from. -/
theorem TakesUp.stays {now taken : Scheduler τ α} {id : ThreadId} {target : TargetId}
    {block : Block}
    {frame : Frame α} (takes : TakesUp now id target block frame taken) :
    taken.isLive id = true := by
  cases takes with
  | resumed wakes known =>
    obtain ⟨found, yielding, woken, popped, rfl⟩ := wakes
    rw [woken_isLive found popped, Thread.isDone, yielding]
    rfl
  | @called target opcode args token bridge thread block received found active known =>
    have live : now.isLive id = true := by rw [isLive_of_find found, active]; rfl
    exact live
  | executed found active known => rw [isLive_of_find found, active]; rfl

omit [Scalar α] in
/-- An invocation that is taken up and noted moves the scheduler forward. -/
theorem TakesUp.advances {now taken : Scheduler τ α} {id : ThreadId} {target : TargetId}
    {block : Block} {frame : Frame α} (takes : TakesUp now id target block frame taken) :
    Advances now (taken.noteInvocation id target frame) := by
  have noted : Advances taken (taken.noteInvocation id target frame) :=
    .note ⟨rfl, rfl, .refl _⟩ rfl rfl takes.stays
  cases takes with
  | resumed wakes known =>
    obtain ⟨found, yielding, woken, popped, rfl⟩ := wakes
    exact (woken_advances found popped).trans noted
  | called received found active known => exact (bridge_advances now _).trans noted
  | executed found active known => exact noted

/-- What is taken up is invoked from one moment to the next. -/
theorem TakesUp.turn {allowed : Scheduler τ α → Operation τ α → Prop} {now taken : Scheduler τ α}
    {id : ThreadId} {target : TargetId} {block : Block} {frame : Frame α}
    (takes : TakesUp now id target block frame taken)
    (executes : ∀ opcode args token, allowed now (.execute id opcode args token)) :
    Turn allowed now (taken.invoke id target block frame).2 := by
  cases takes with
  | @resumed thread block frame taken wakes known =>
    obtain ⟨found, yielding, woken, popped, rfl⟩ := wakes
    have resumes : Turn allowed now (now.resume ⟨0, false, [], 0, 0, [], []⟩ id).2 :=
      .phase (.resume now _ id)
    unfold resume at resumes
    rw [found] at resumes
    dsimp only at resumes
    rw [if_neg (not_not.mpr yielding), popped] at resumes
    dsimp only at resumes
    rw [known] at resumes
    dsimp only at resumes
    split at resumes
    case h_1 result =>
      rw [result]
      exact resumes
    case h_2 result =>
      rw [result]
      exact resumes
  | @called target opcode args token bridge thread block received found active known =>
    have receives : Turn allowed now (handleCall { now with bridge := bridge }
        ⟨0, false, [], 0, 0, [], []⟩ id opcode args token).2 :=
      .phase (.receive received ⟨0, false, [], 0, 0, [], []⟩)
    have calls : call { now with bridge := bridge } id opcode args (some token) =
        invoke { now with bridge := bridge } id thread.target block
          (.fresh opcode args (some token)) := call_invokes found active known
    unfold handleCall at receives
    rw [calls] at receives
    dsimp only at receives
    split at receives
    case h_1 result =>
      rw [result]
      exact receives
    case h_2 result =>
      rw [if_neg (by rw [invoke_fault (congrArg Prod.fst result)]; simp)] at receives
      rw [result]
      exact receives
  | @executed opcode args token thread block found active known =>
    have performs := Turn.operate now _ (executes opcode args token) (by simp)
    change Turn allowed now (now.call id opcode args token).2 at performs
    rwa [call_invokes found active known] at performs

/-- An invocation from one moment to another. -/
def Invokes (now after : Scheduler τ α) : Prop :=
  ∃ id target block frame taken, TakesUp now id target block frame taken ∧
    after = (taken.invoke id target block frame).2

/-- Resuming a thread invokes its block, or there is none and the thread is woken at most. -/
theorem resume_cases (scheduler : Scheduler τ α) (report : StepReport) (id : ThreadId) :
    Invokes scheduler (scheduler.resume report id).2 ∨
      (scheduler.resume report id).2 = scheduler ∨
        ∃ thread frame, Wakes scheduler id thread frame (scheduler.resume report id).2 := by
  unfold resume
  split
  case h_1 => exact Or.inr (Or.inl rfl)
  case h_2 thread found =>
    split
    case isTrue => exact Or.inr (Or.inl rfl)
    case isFalse status =>
      have yielding : thread.status = .yielding := Decidable.not_not.mp status
      generalize popping : (thread.setStatus .running).popBlock = popped
      obtain ⟨frame, woken⟩ := popped
      have wakes : Wakes scheduler id thread frame
          { scheduler with threads := scheduler.threads.modify id fun _ => woken } :=
        ⟨found, yielding, woken, popping, rfl⟩
      dsimp only
      split
      case h_1 => exact Or.inr (Or.inr ⟨thread, none, wakes⟩)
      case h_2 frame =>
        split
        case h_1 => exact Or.inr (Or.inr ⟨thread, some frame, wakes⟩)
        case h_2 block known =>
          refine Or.inl ⟨id, thread.target, block, frame, _, .resumed wakes known, ?_⟩
          split
          case h_1 result => rw [result]
          case h_2 result => rw [result]

/-- A call is refused without an effect, or its block is invoked on the target of its thread. -/
theorem call_forms (scheduler : Scheduler τ α) (id : ThreadId) (opcode : String) (args : Args α)
    (token : Option Token) :
    (∃ fault : SchedulerFault, fault.isDesync = true ∧
      scheduler.call id opcode args token = (.error fault, scheduler)) ∨
    ∃ thread block, scheduler.threads.find? id = some thread ∧ thread.isDone = false ∧
      scheduler.registry.block? opcode = some block ∧
      scheduler.call id opcode args token =
        scheduler.invoke id thread.target block (.fresh opcode args token) := by
  unfold call
  split
  case h_1 => exact Or.inl ⟨_, rfl, rfl⟩
  case h_2 thread found =>
    split
    case isTrue => exact Or.inl ⟨_, rfl, rfl⟩
    case isFalse active =>
      split
      case h_1 => exact Or.inl ⟨_, rfl, rfl⟩
      case h_2 block known =>
        exact Or.inr ⟨thread, block, found, Bool.not_eq_true _ ▸ active, known, rfl⟩

/-- Executing a block invokes it, or nothing happens. -/
theorem execute_cases (scheduler : Scheduler τ α) (id : ThreadId) (opcode : String)
    (args : Args α) (token : Option Token) :
    Invokes scheduler (scheduler.call id opcode args token).2 ∨
      (scheduler.call id opcode args token).2 = scheduler := by
  obtain ⟨fault, -, failed⟩ | ⟨thread, block, found, active, known, calls⟩ :=
    call_forms scheduler id opcode args token
  · exact Or.inr (congrArg Prod.snd failed)
  · exact Or.inl ⟨id, thread.target, block, _, scheduler, .executed found active known,
      congrArg Prod.snd calls⟩

/-- Dealing with a call invokes its block, or the worker is told why not. -/
theorem handleCall_cases {scheduler : Scheduler τ α} {bridge : Bridge τ α} {target : TargetId}
    {id : ThreadId} {opcode : String} {args : Args α} {token : Token}
    (received : scheduler.bridge.next = (.message (.call target id opcode args token), bridge))
    (report : StepReport) :
    Invokes scheduler
        (handleCall { scheduler with bridge := bridge } report id opcode args token).2 ∨
      ∃ later : Bridge τ α,
        (handleCall { scheduler with bridge := bridge } report id opcode args token).2 =
          { scheduler with bridge := later } := by
  unfold handleCall
  obtain ⟨fault, desync, failed⟩ | ⟨thread, block, found, active, known, calls⟩ :=
    call_forms { scheduler with bridge := bridge } id opcode args (some token)
  · rw [failed]
    dsimp only
    rw [if_pos desync]
    exact Or.inr ⟨_, rfl⟩
  · refine Or.inl ⟨id, thread.target, block, _, _, .called received found active known, ?_⟩
    rw [calls]
    split
    case h_1 outcome left result => rw [result]
    case h_2 fault left result =>
      rw [if_neg (by rw [invoke_fault (congrArg Prod.fst result)]; simp), result]

end Taking

end Scheduler

end SpriteMachine
