import SpriteMachine.Proofs.Scheduler.Progress
import SpriteMachine.Proofs.Scheduler.Stroke

/-!
# The beats of a tick

A tick is a sequence of beats. A beat is an act of a block, or it moves one invocation:
out of the worker's queue or off a thread's stack into the host's hand, and out of the hand
into an answer or back onto the stack. The rest sweeps threads and deals with the worker's
other messages. Each beat says which faults it adds to the report.

What every beat preserves, every tick preserves; properties of ticks are proved on beats.
-/

namespace SpriteMachine

namespace Scheduler

variable {τ α : Type}

/-- An instant of a tick: the scheduler, the invocation in hand and the faults reported so
far. -/
structure Instant (τ α : Type) where
  scheduler : Scheduler τ α
  hand : Option (ThreadId × Frame α)
  faults : List SchedulerFault

/-- A message of which the scheduler takes note at most. -/
def IsNote : WorkerMessage α → Prop
  | .call .. => False
  | .ended _ => False
  | _ => True

/-- A message that answers a call. -/
def IsAnswer (reply : Token → HostMessage α) : Prop :=
  (∃ value, reply = (.result · value)) ∨ ∃ message, reply = (.failure · message)

/-- The fault of what failed. -/
def faultOf {β : Type} : Except SchedulerFault β → List SchedulerFault
  | .error fault => [fault]
  | .ok _ => []

/-- Answering a call is sending a message. -/
theorem answer_some [Transport τ α] (scheduler : Scheduler τ α) (token : Token)
    (reply : Token → HostMessage α) :
    (scheduler.answer (some token) reply).2 =
      { scheduler with bridge := (scheduler.bridge.post (reply token)).2 } := by
  rw [answer]
  split
  case h_1 posted => rw [posted]
  case h_2 posted => rw [posted]

/-- An answer fails only when it cannot be sent. -/
theorem answer_agreed [Transport τ α] (scheduler : Scheduler τ α) (token : Option Token)
    (reply : Token → HostMessage α) :
    ∀ fault ∈ faultOf (scheduler.answer token reply).1, fault.isDesync = false := by
  intro fault member
  unfold answer at member
  split at member
  case h_1 => cases member
  case h_2 =>
    split at member
    case h_1 => cases member
    case h_2 =>
      rw [List.mem_singleton.mp member]
      rfl

variable [Scalar α] [Transport τ α]

/-- Why a call cannot start. -/
inductive Refused (scheduler : Scheduler τ α) (id : ThreadId) (opcode : String) :
    SchedulerFault → Prop where
  | missing (dead : scheduler.isLive id = false) : Refused scheduler id opcode (.notFound id)
  | unknown (none : scheduler.registry.block? opcode = none) :
      Refused scheduler id opcode (.unknownOpcode opcode)

/-- One beat. -/
inductive Beat : Instant τ α → Instant τ α → Prop where
  | act {before after : Scheduler τ α} {hand : Option (ThreadId × Frame α)}
      {faults : List SchedulerFault} (act : Act before after) :
      Beat ⟨before, hand, faults⟩ ⟨after, hand, faults⟩
  | sweep (scheduler : Scheduler τ α) (faults : List SchedulerFault) :
      Beat ⟨scheduler, none, faults⟩ ⟨scheduler.sweep.2, none, faults⟩
  | wake {scheduler : Scheduler τ α} {id : ThreadId} {thread woken : Thread α}
      {frame : Option (Frame α)} (found : scheduler.threads.find? id = some thread)
      (yielding : thread.status = .yielding)
      (popped : (thread.setStatus .running).popBlock = (frame, woken))
      (known : ∀ block ∈ frame, (scheduler.registry.block? block.opcode).isSome)
      (faults : List SchedulerFault) :
      Beat ⟨scheduler, none, faults⟩
        ⟨{ scheduler with threads := scheduler.threads.modify id fun _ => woken },
          frame.map (id, ·), faults⟩
  | lose {scheduler : Scheduler τ α} {id : ThreadId} {thread woken : Thread α}
      {frame : Frame α} (found : scheduler.threads.find? id = some thread)
      (yielding : thread.status = .yielding)
      (popped : (thread.setStatus .running).popBlock = (some frame, woken))
      (unknown : scheduler.registry.block? frame.opcode = none) (faults : List SchedulerFault) :
      Beat ⟨scheduler, none, faults⟩
        ⟨{ scheduler with threads := scheduler.threads.modify id fun _ => woken },
          none, faults ++ [.unknownOpcode frame.opcode]⟩
  | note {scheduler : Scheduler τ α} {id : ThreadId} (live : scheduler.isLive id = true)
      (target : TargetId) (frame : Frame α) (faults : List SchedulerFault) :
      Beat ⟨scheduler, some (id, frame), faults⟩
        ⟨scheduler.noteInvocation id target frame, some (id, frame), faults⟩
  | suspend (scheduler : Scheduler τ α) (id : ThreadId) {frame left : Frame α}
      (opcode : left.opcode = frame.opcode) (token : left.token = frame.token)
      (known : (scheduler.registry.block? frame.opcode).isSome) (faults : List SchedulerFault) :
      Beat ⟨scheduler, some (id, frame), faults⟩ ⟨scheduler.suspend id left, none, faults⟩
  | answer (scheduler : Scheduler τ α) (id : ThreadId) (frame : Frame α)
      (reply : Token → HostMessage α) (answers : IsAnswer reply)
      (more : List SchedulerFault) (agreed : ∀ fault ∈ more, fault.isDesync = false)
      (faults : List SchedulerFault) :
      Beat ⟨scheduler, some (id, frame), faults⟩
        ⟨(scheduler.answer frame.token reply).2, none, faults ++ more⟩
  | look {scheduler : Scheduler τ α} {receipt : Receipt α} {bridge : Bridge τ α}
      (looked : scheduler.bridge.next = (receipt, bridge))
      (idle : ∀ message, receipt ≠ .message message)
      (more : List SchedulerFault) (agreed : ∀ fault ∈ more, fault.isDesync = false)
      (faults : List SchedulerFault) :
      Beat ⟨scheduler, none, faults⟩ ⟨{ scheduler with bridge := bridge }, none, faults ++ more⟩
  | hear {scheduler : Scheduler τ α} {message : WorkerMessage α} {bridge : Bridge τ α}
      (received : scheduler.bridge.next = (.message message, bridge)) (note : IsNote message)
      (faults : List SchedulerFault) :
      Beat ⟨scheduler, none, faults⟩ ⟨{ scheduler with bridge := bridge }, none, faults⟩
  | retire (scheduler : Scheduler τ α) (id : ThreadId) (faults : List SchedulerFault) :
      Beat ⟨scheduler, none, faults⟩ ⟨scheduler.retire id, none, faults⟩
  | ended {scheduler : Scheduler τ α} {id : ThreadId} {bridge : Bridge τ α}
      (received : scheduler.bridge.next = (.message (.ended id), bridge))
      (more : List SchedulerFault) (missing : ∀ fault ∈ more, fault = .notFound id ∧
        scheduler.threads.find? id = none ∧ scheduler.isExcused fault = false)
      (faults : List SchedulerFault) :
      Beat ⟨scheduler, none, faults⟩
        ⟨(endThread { scheduler with bridge := bridge } id).2, none, faults ++ more⟩
  | call {scheduler : Scheduler τ α} {target : TargetId} {id : ThreadId} {opcode : String}
      {args : Args α} {token : Token} {bridge : Bridge τ α}
      (received : scheduler.bridge.next = (.message (.call target id opcode args token), bridge))
      (live : scheduler.isLive id = true) (known : (scheduler.registry.block? opcode).isSome)
      (faults : List SchedulerFault) :
      Beat ⟨scheduler, none, faults⟩
        ⟨{ scheduler with bridge := bridge }, some (id, .fresh opcode args (some token)), faults⟩
  | refuse {scheduler : Scheduler τ α} {target : TargetId} {id : ThreadId} {opcode : String}
      {args : Args α} {token : Token} {bridge : Bridge τ α}
      (received : scheduler.bridge.next = (.message (.call target id opcode args token), bridge))
      {fault : SchedulerFault} (refused : Refused scheduler id opcode fault)
      (more : List SchedulerFault) (due : ∀ other ∈ more, other.isDesync = false ∨
        other = fault ∧ scheduler.isExcused fault = false)
      (faults : List SchedulerFault) :
      Beat ⟨scheduler, none, faults⟩
        ⟨{ scheduler with bridge := (bridge.post (.failure token fault.message)).2 },
          none, faults ++ more⟩

/-- Beats one after another. -/
abbrev Beats : Instant τ α → Instant τ α → Prop := Relation.ReflTransGen Beat

/-- Acts are beats, whatever is in hand. -/
theorem Acts.beats {before after : Scheduler τ α} (acts : Acts before after)
    (hand : Option (ThreadId × Frame α)) (faults : List SchedulerFault) :
    Beats ⟨before, hand, faults⟩ ⟨after, hand, faults⟩ := by
  induction acts with
  | refl => exact .refl
  | tail _ act inductionHypothesis => exact inductionHypothesis.tail (.act act)

/-- A quiet change is one beat at most. -/
theorem Quiet.beats {before after : Scheduler τ α} (quiet : Quiet before after)
    (hand : Option (ThreadId × Frame α)) (faults : List SchedulerFault) :
    Beats ⟨before, hand, faults⟩ ⟨after, hand, faults⟩ :=
  .single (.act (.quiet quiet))

section Invoking

/-- An invocation of a live thread is noted, runs, and ends in an answer or on the stack. -/
theorem invoke_beats {scheduler : Scheduler τ α} {id : ThreadId} (target : TargetId)
    (block : Block) (frame : Frame α) (live : scheduler.isLive id = true)
    (known : (scheduler.registry.block? frame.opcode).isSome) (faults : List SchedulerFault) :
    Beats ⟨scheduler, some (id, frame), faults⟩
      ⟨(scheduler.invoke id target block frame).2, none,
        faults ++ faultOf (scheduler.invoke id target block frame).1⟩ := by
  have noted : Beats ⟨scheduler, some (id, frame), faults⟩
      ⟨scheduler.noteInvocation id target frame, some (id, frame), faults⟩ :=
    .single (.note live target frame faults)
  have works := Block.run_works block frame.args
    ⟨scheduler.noteInvocation id target frame, id, target, frame, false⟩
  have ran := noted.trans (works.acts.beats (some (id, frame)) faults)
  have registry := works.acts.strokes.keeps.registry
  unfold invoke
  dsimp only
  split
  case h_1 fault left result =>
    rw [result] at ran
    have agreed := answer_agreed left.scheduler frame.token (.failure · fault.message)
    have answers := fun more agreed => ran.tail (.answer left.scheduler id frame
      (.failure · fault.message) (Or.inr ⟨_, rfl⟩) more agreed faults)
    split
    case h_1 cut last answered =>
      rw [answered] at agreed answers
      exact answers _ agreed
    case h_2 last answered =>
      rw [answered] at answers
      refine answers _ fun other member => ?_
      rw [List.mem_singleton.mp member]
      rfl
  case h_2 value left result =>
    rw [result] at ran works registry
    split
    case isTrue =>
      have suspended := ran.tail (.suspend left.scheduler id works.opcode works.token
        (by rw [registry]; exact known) faults)
      exact (List.append_nil faults).symm ▸ suspended
    case isFalse =>
      have delivered : Quiet left.scheduler (left.scheduler.deliver id value) :=
        ⟨rfl, rfl, rfl, rfl, rfl, rfl, .refl _, .refl, fun _ _ known => known⟩
      have agreed := answer_agreed (left.scheduler.deliver id value) frame.token (.result · value)
      have answers := fun more agreed => (ran.trans (delivered.beats _ faults)).tail
        (.answer (left.scheduler.deliver id value) id frame
          (.result · value) (Or.inl ⟨_, rfl⟩) more agreed faults)
      split
      case h_1 cut last answered =>
        rw [answered] at agreed answers
        exact answers _ agreed
      case h_2 last answered =>
        rw [answered] at agreed answers
        exact answers _ agreed

end Invoking

section Ticking

/-- A thread that yielded is woken and its block invoked. -/
theorem resume_beats (scheduler : Scheduler τ α) (report : StepReport) (id : ThreadId) :
    Beats ⟨scheduler, none, report.faults⟩
      ⟨(scheduler.resume report id).2, none, (scheduler.resume report id).1.faults⟩ := by
  unfold resume
  split
  case h_1 => exact .refl
  case h_2 thread found =>
    split
    case isTrue => exact .refl
    case isFalse status =>
      have yielding : thread.status = .yielding := Decidable.not_not.mp status
      have activity := (thread.setStatus .running).popBlock_isDone.trans
        (thread.setStatus_isDone (by decide))
      generalize popping : (thread.setStatus .running).popBlock = popped at activity
      obtain ⟨frame, woken⟩ := popped
      dsimp only at activity ⊢
      cases frame with
      | none =>
        exact .single (.wake found yielding popping (fun _ none => by cases none) _)
      | some frame =>
        dsimp only
        split
        case h_1 unknown => exact .single (.lose found yielding popping unknown _)
        case h_2 block known =>
          have some : (scheduler.registry.block? frame.opcode).isSome := by
            rw [Option.isSome_iff_exists]
            exact ⟨block, known⟩
          have wakes := Beat.wake found yielding popping (fun other same => by
            obtain rfl := Option.some.inj same
            exact some) report.faults
          have live : isLive { scheduler with
              threads := scheduler.threads.modify id fun _ => woken } id = true := by
            have woke : (scheduler.threads.modify id fun _ => woken).find? id = .some woken := by
              rw [OrderedMap.find_modify, if_pos rfl, found]
              rfl
            rw [isLive_of_find woke, activity, Thread.isDone, yielding]
            rfl
          have invokes :=
            (invoke_beats thread.target block frame live some report.faults).head wakes
          split
          case h_1 outcome left result =>
            rw [result] at invokes
            simpa only [faultOf, List.append_nil] using invokes
          case h_2 fault left result =>
            rw [result] at invokes
            exact invokes

/-- The resumption of several threads is a sequence of beats. -/
theorem resumeAll_beats (ids : List ThreadId) (scheduler : Scheduler τ α)
    (report : StepReport) :
    Beats ⟨scheduler, none, report.faults⟩
      ⟨(scheduler.resumeAll report ids).2, none, (scheduler.resumeAll report ids).1.faults⟩ := by
  induction ids generalizing scheduler report with
  | nil => exact .refl
  | cons first rest inductionHypothesis =>
    exact (resume_beats scheduler report first).trans (inductionHypothesis _ _)

/-- A call is refused without an effect, or the block it names is invoked for a thread that
is live. -/
theorem call_cases (scheduler : Scheduler τ α) (id : ThreadId) (opcode : String) (args : Args α)
    (token : Option Token) :
    (∃ fault, Refused scheduler id opcode fault ∧ fault.isDesync = true ∧
      scheduler.call id opcode args token = (.error fault, scheduler)) ∨
    ∃ target block, scheduler.isLive id = true ∧ (scheduler.registry.block? opcode).isSome ∧
      scheduler.call id opcode args token =
        scheduler.invoke id target block (.fresh opcode args token) := by
  cases found : scheduler.threads.find? id with
  | none => exact Or.inl ⟨_, .missing (isLive_of_absent found), rfl, by rw [call, found]⟩
  | some thread =>
    have live := isLive_of_find found
    cases ended : thread.isDone with
    | true =>
      rw [ended] at live
      exact Or.inl ⟨_, .missing live, rfl, by simp only [call, found, ended, if_true]⟩
    | false =>
      rw [ended] at live
      cases known : scheduler.registry.block? opcode with
      | none =>
        refine Or.inl ⟨_, .unknown known, rfl, ?_⟩
        simp only [call, found, ended, known, Bool.false_eq_true, if_false]
      | some block =>
        refine Or.inr ⟨thread.target, block, live, rfl, ?_⟩
        simp only [call, found, ended, known, Bool.false_eq_true, if_false]

/-- A call that cannot start is refused, and any other is invoked. -/
theorem handleCall_beats {scheduler : Scheduler τ α} {bridge : Bridge τ α} {target : TargetId}
    {id : ThreadId} {opcode : String} {args : Args α} {token : Token}
    (received : scheduler.bridge.next = (.message (.call target id opcode args token), bridge))
    (report : StepReport) :
    Beats ⟨scheduler, none, report.faults⟩
      ⟨(handleCall { scheduler with bridge := bridge } report id opcode args token).2, none,
        (handleCall { scheduler with bridge := bridge } report id opcode args token).1.faults⟩ := by
  unfold handleCall
  obtain ⟨fault, refused, desync, failed⟩ | ⟨place, block, live, known, calls⟩ :=
    call_cases { scheduler with bridge := bridge } id opcode args (some token)
  · have refuses : Refused scheduler id opcode fault := by
      cases refused with
      | missing dead => exact .missing dead
      | unknown none => exact .unknown none
    have refusal := fun more due => Relation.ReflTransGen.single
      (Beat.refuse received refuses more due report.faults)
    rw [failed]
    dsimp only
    rw [if_pos desync]
    generalize bridge.post (.failure token fault.message) = posted at refusal ⊢
    obtain ⟨sent, left⟩ := posted
    have due : ¬ isExcused { scheduler with bridge := bridge } fault = true → ∀ other ∈ [fault],
        other.isDesync = false ∨ other = fault ∧ scheduler.isExcused fault = false := by
      intro unexcused other member
      refine Or.inr ⟨List.mem_singleton.mp member, ?_⟩
      rw [← Bool.not_eq_true]
      exact fun excused => unexcused (excused ▸ by cases fault <;> rfl)
    cases sent with
    | ok _ =>
      dsimp only at refusal ⊢
      split
      case isTrue => simpa only [List.append_nil] using refusal [] fun _ none => by cases none
      case isFalse unexcused => exact refusal [fault] (due unexcused)
    | error cut =>
      dsimp only at refusal ⊢
      split
      case isTrue =>
        refine refusal [.bridge cut] fun other member => ?_
        rw [List.mem_singleton.mp member]
        exact Or.inl rfl
      case isFalse unexcused =>
        have both := refusal [.bridge cut, fault] fun other member => by
          rcases List.mem_cons.mp member with rfl | same
          · exact Or.inl rfl
          · exact due unexcused other same
        simpa only [StepReport.withFault, List.append_assoc, List.singleton_append] using both
  · have called := Beat.call received live known report.faults
    have invokes := (invoke_beats place block (.fresh opcode args (some token)) live known
      report.faults).head called
    rw [calls]
    split
    case h_1 outcome left result =>
      rw [result] at invokes
      simpa only [faultOf, List.append_nil] using invokes
    case h_2 fault left result =>
      rw [result] at invokes
      rw [if_neg (by rw [invoke_fault (congrArg Prod.fst result)]; simp)]
      exact invokes

/-- Word that a thread ended is handled in beats. -/
theorem handleEnded_beats {scheduler : Scheduler τ α} {bridge : Bridge τ α} {id : ThreadId}
    (received : scheduler.bridge.next = (.message (.ended id), bridge)) (report : StepReport) :
    Beats ⟨scheduler, none, report.faults⟩
      ⟨(handleEnded { scheduler with bridge := bridge } report id).2, none,
        (handleEnded { scheduler with bridge := bridge } report id).1.faults⟩ := by
  have ends := fun more missing => Beat.ended received more missing report.faults
  have silent := ends [] fun _ none => by cases none
  rw [List.append_nil] at silent
  change ∀ more, (∀ fault ∈ more, fault = .notFound id ∧
    ({ scheduler with bridge := bridge } : Scheduler τ α).threads.find? id = none ∧
      isExcused { scheduler with bridge := bridge } fault = false) → _ at ends
  generalize ({ scheduler with bridge := bridge } : Scheduler τ α) = hearing at ends silent ⊢
  unfold handleEnded
  cases found : hearing.threads.find? id with
  | some thread =>
    rw [endThread_found found] at silent ⊢
    exact .single silent
  | none =>
    rw [endThread_missing found] at silent ends ⊢
    dsimp only
    split
    case isTrue => exact .single silent
    case isFalse due =>
      refine .single (ends [.notFound id] fun other member => ?_)
      rw [List.mem_singleton.mp member]
      exact ⟨rfl, found, by simpa using due⟩

/-- Word that a thread failed is handled in beats. -/
theorem handleScriptError_beats {scheduler : Scheduler τ α} {bridge : Bridge τ α}
    {thread : Option ThreadId} {message : String}
    (received : scheduler.bridge.next = (.message (.scriptError thread message), bridge))
    (report : StepReport) :
    Beats ⟨scheduler, none, report.faults⟩
      ⟨(handleScriptError { scheduler with bridge := bridge } report thread message).2, none,
        (handleScriptError { scheduler with bridge := bridge } report thread
          message).1.faults⟩ := by
  have heard : Beats ⟨scheduler, none, report.faults⟩
      ⟨{ scheduler with bridge := bridge }, none, report.faults⟩ :=
    .single (.hear received trivial report.faults)
  generalize ({ scheduler with bridge := bridge } : Scheduler τ α) = hearing at heard ⊢
  have counted : Quiet hearing { hearing with
      stats := { hearing.stats with scriptErrors := hearing.stats.scriptErrors + 1 } } :=
    ⟨rfl, rfl, rfl, rfl, rfl, rfl, .refl _, .refl, fun _ _ known => known⟩
  have counts := heard.trans (counted.beats none report.faults)
  unfold handleScriptError
  dsimp only
  split
  case h_1 => exact counts
  case h_2 =>
    split
    case isTrue => exact counts.tail (.retire _ _ _)
    case isFalse => exact counts

/-- Dealing with a message that was received. -/
theorem handleMessage_beats {scheduler : Scheduler τ α} {bridge : Bridge τ α}
    {message : WorkerMessage α} (received : scheduler.bridge.next = (.message message, bridge))
    (report : StepReport) :
    Beats ⟨scheduler, none, report.faults⟩
      ⟨(handleMessage { scheduler with bridge := bridge } report message).2, none,
        (handleMessage { scheduler with bridge := bridge } report message).1.faults⟩ := by
  cases message with
  | status status =>
    exact (Quiet.ofEmit _ (.workerStatus status)).beats none report.faults |>.head
      (.hear received trivial report.faults)
  | call target thread opcode args token => exact handleCall_beats received report
  | ended thread => exact handleEnded_beats received report
  | scriptError thread message => exact handleScriptError_beats received report
  | registered token refusal => exact .single (.hear received trivial report.faults)
  | started token threads => exact .single (.hear received trivial report.faults)

/-- The messages of a tick are handled in beats, by induction on the budget. -/
theorem drain_beats (budget : Nat) (scheduler : Scheduler τ α) (report : StepReport) :
    Beats ⟨scheduler, none, report.faults⟩
      ⟨(drain budget scheduler report).2, none, (drain budget scheduler report).1.faults⟩ := by
  induction budget generalizing scheduler report with
  | zero => exact .refl
  | succ budget inductionHypothesis =>
    unfold drain
    split
    case h_1 bridge looked =>
      have looks := Beat.look looked (fun _ same => by cases same) []
        (fun _ none => by cases none) report.faults
      simpa only [List.append_nil] using Relation.ReflTransGen.single looks
    case h_2 bridge looked =>
      refine .single (.look looked (fun _ same => by cases same) _ (fun other member => ?_) _)
      rw [List.mem_singleton.mp member]
      rfl
    case h_3 message bridge received =>
      exact (handleMessage_beats received
        { report with messages := report.messages + 1 }).trans (inductionHypothesis _ _)

/-- A tick is a sequence of beats that add the faults of its report. -/
theorem step_beats (scheduler : Scheduler τ α) :
    Beats ⟨scheduler, none, []⟩ ⟨scheduler.step.2, none, scheduler.step.1.faults⟩ := by
  have starting : Quiet scheduler { scheduler with
      stage := scheduler.stage.takeRedraw.2
      stats := { scheduler.stats with ticks := scheduler.stats.ticks + 1 } } :=
    ⟨rfl, rfl, rfl, rfl, rfl, rfl, .refl _, .same rfl rfl,
      fun _ _ known => known⟩
  have begins := starting.beats none []
  unfold step
  dsimp only
  generalize ({ scheduler with
    stage := scheduler.stage.takeRedraw.2
    stats := { scheduler.stats with ticks := scheduler.stats.ticks + 1 } } : Scheduler τ α) = begun
      at begins
  have swept := begins.tail (.sweep begun [])
  have resumes := resumeAll_beats begun.sweep.2.yieldedThreads begun.sweep.2
    ⟨begun.sweep.2.stats.ticks, scheduler.stage.takeRedraw.1, begun.sweep.1, 0, 0, [], []⟩
  generalize begun.sweep.2.resumeAll
    ⟨begun.sweep.2.stats.ticks, scheduler.stage.takeRedraw.1, begun.sweep.1, 0, 0, [], []⟩
    begun.sweep.2.yieldedThreads = resumed at resumes
  have drains := drain_beats resumed.2.config.maxMessagesPerTick resumed.2 resumed.1
  generalize drain resumed.2.config.maxMessagesPerTick resumed.2 resumed.1 = drained at drains
  refine ((swept.trans resumes).trans drains).trans (Quiet.beats ?_ none _)
  exact ⟨rfl, rfl, rfl, rfl, rfl, rfl, .refl _, .same rfl rfl,
    fun _ _ known => known⟩

end Ticking

/-- An operation that is a sequence of beats. The others load or register, invoke a block
for the host, drop threads, or happen outside of the scheduler. -/
def IsRhythmic : Operation τ α → Prop
  | .loadScripts _ => False
  | .runBatch _ => False
  | .openBackend _ => False
  | .registerThread .. => False
  | .endThread _ => False
  | .execute .. => False
  | .quit => False
  | .changeStage _ => False
  | .changeDevices _ => False
  | .changeBridge _ => False
  | _ => True

/-- But for ticks, such an operation is made of acts that leave the reported values alone. -/
theorem perform_tames (scheduler : Scheduler τ α) {operation : Operation τ α}
    (rhythmic : IsRhythmic operation) (between : operation ≠ .step) :
    Tames scheduler (scheduler.perform operation) := by
  cases operation with
  | addTarget target => exact .mild (addTarget_mild scheduler target)
  | attachRenderer => exact .mild (.ofStage scheduler (.attach _ _))
  | startHats hat filter => exact .single (.startHats scheduler hat filter)
  | greenFlag => exact .greenFlag scheduler
  | stopAll => exact .single (.stopAll scheduler)
  | stopForTarget target keep => exact .stopForTarget scheduler target keep
  | stopThread thread => exact .single (.stopThread scheduler thread)
  | makeClone source => exact .makeClone scheduler source
  | disposeClone target => exact .disposeClone scheduler target
  | postData device data => exact .postData scheduler device data
  | step => exact absurd rfl between
  | emit notice => exact .mild (.ofEmit scheduler notice)
  | start => exact .mild (start_mild scheduler)
  | dispose => exact .dispose scheduler
  | _ => exact rhythmic.elim

/-- A rhythmic operation is a sequence of beats. -/
theorem perform_beats (scheduler : Scheduler τ α) {operation : Operation τ α}
    (rhythmic : IsRhythmic operation) :
    ∃ faults, Beats ⟨scheduler, none, []⟩ ⟨scheduler.perform operation, none, faults⟩ := by
  by_cases ticks : operation = .step
  · rw [ticks]
    exact ⟨_, step_beats scheduler⟩
  · exact ⟨[], (perform_tames scheduler rhythmic ticks).acts.beats none []⟩

end Scheduler

end SpriteMachine
