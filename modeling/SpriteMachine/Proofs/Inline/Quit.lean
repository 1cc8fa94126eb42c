import SpriteMachine.Proofs.Inline.Agreement
import SpriteMachine.Proofs.Inline.Stillness
import SpriteMachine.Proofs.Scheduler.Memory

/-!
# What quitting leaves behind

Quitting drops the threads of the host and says nothing to the worker. What the worker has sent
by then still arrives: a call for a dropped thread, or its end, is a fault, since nobody retired
the thread. Over the ticks of a host without threads, what has been reported and what is still
due are together what was due at first.
-/

namespace SpriteMachine

variable {α : Type}

namespace Scheduler

/-- The fault that a missing thread is, unless it is remembered. -/
def absence (remembered : List ThreadId) (id : ThreadId) : List SchedulerFault :=
  if id ∈ remembered then [] else [.notFound id]

/-- The faults that a message is to a host without threads which remembers some: a call for a
thread, or the end of one. -/
def charges (remembered : List ThreadId) : WorkerMessage α → List SchedulerFault
  | .call _ id _ _ _ => absence remembered id
  | .ended id => absence remembered id
  | _ => []

/-- The faults that the queue of a host without threads has in store. -/
def dues (scheduler : Scheduler (Inline α) α) : List SchedulerFault :=
  scheduler.queue.flatMap (charges scheduler.retired)

/-- Messages that are faults to nobody charge nothing. -/
theorem charges_of_notes (remembered : List ThreadId) {messages : List (WorkerMessage α)}
    (notes : ∀ message ∈ messages, IsNote message) :
    messages.flatMap (charges remembered) = [] := by
  rw [List.flatMap_eq_nil_iff]
  intro message mem
  have note := notes message mem
  cases message with
  | call | ended => exact note.elim
  | _ => rfl

end Scheduler

/-! ## Messages that are faults to nobody -/

namespace ScriptWorker

open Scheduler (IsNote)

variable (worker : ScriptWorker α)

/-- The notice of an idle worker is a fault to nobody. -/
theorem idleNotice_notes : ∀ message ∈ worker.idleNotice, IsNote message := by
  unfold idleNotice
  split
  case isTrue =>
    intro message mem
    rw [List.mem_singleton.mp mem]
    trivial
  case isFalse => exact List.forall_mem_nil _

/-- Word that a thread failed is a fault to nobody. -/
theorem fail_notes (thread : ThreadId) (reason : String) :
    ∀ message ∈ (worker.fail thread reason).2, IsNote message :=
  List.forall_mem_cons.mpr ⟨trivial, idleNotice_notes _⟩

/-- Word that several calls were given up is a fault to nobody. -/
theorem failAll_notes (timeout : Nat) (expired : List (Token × ThreadId)) :
    ∀ message ∈ (failAll timeout worker expired).2, IsNote message := by
  induction expired generalizing worker with
  | nil => exact List.forall_mem_nil _
  | cons first rest inductionHypothesis =>
    exact List.forall_mem_append.mpr ⟨fail_notes worker first.2 _, inductionHypothesis _⟩

/-- What a poll gives up is a fault to nobody. -/
theorem poll_notes (now : Nat) : ∀ message ∈ (worker.poll now).2, IsNote message :=
  failAll_notes _ _ _

/-- What a refusal brings about is a fault to nobody. -/
theorem refuse_notes (token : Token) (reason : String) :
    ∀ message ∈ (worker.refuse token reason).2, IsNote message := by
  unfold refuse
  split
  case h_1 => exact List.forall_mem_nil _
  case h_2 => exact fail_notes _ _ _

end ScriptWorker

namespace Inline

open Scheduler (IsNote)

/-- A worker that looks at its deadlines adds what it gives up to what it has sent. -/
theorem refill_outbox (state : Inline α) : ∃ late, state.refill.outbox = state.outbox ++ late ∧
    ∀ message ∈ late, IsNote message := by
  unfold refill
  split
  case isTrue drained =>
    refine ⟨(state.worker.poll state.moment).2, ?_, ScriptWorker.poll_notes _ _⟩
    rw [List.isEmpty_iff.mp drained, List.nil_append]
  case isFalse => exact ⟨[], (List.append_nil _).symm, List.forall_mem_nil _⟩

/-- The message that is taken is the first of those sent, behind which the worker may add what it
gives up. -/
theorem receive_outbox {state later : Inline α} {message : WorkerMessage α}
    (received : state.receive = (.message message, later)) :
    ∃ late, state.outbox ++ late = message :: later.outbox ∧ ∀ message ∈ late, IsNote message := by
  obtain ⟨late, filled, notes⟩ := state.refill_outbox
  refine ⟨late, ?_, notes⟩
  rw [← filled]
  unfold receive at received
  dsimp only at received
  split at received
  case h_1 => cases received
  case h_2 first rest sent =>
    cases received
    exact sent

/-- Nothing is taken when nothing was sent. -/
theorem receive_nothing {state later : Inline α} (received : state.receive = (.nothing, later)) :
    state.outbox = [] ∧ later.outbox = [] := by
  obtain ⟨late, filled, -⟩ := state.refill_outbox
  unfold receive at received
  dsimp only at received
  split at received
  case h_1 sent =>
    cases received
    rw [sent] at filled
    exact ⟨(List.append_eq_nil_iff.mp filled.symm).1, sent⟩
  case h_2 => cases received

end Inline

namespace Scheduler

variable {before middle after scheduler : Scheduler (Inline α) α}

/-! ## A host without threads -/

/-- A host without threads goes on to be one, and reports some of the faults that are due. -/
structure Discharges (before : Scheduler (Inline α) α) (reported : List SchedulerFault)
    (after : Scheduler (Inline α) α) : Prop where
  deserted : ∀ id, after.threads.find? id = none
  retired : after.retired = before.retired
  balance : reported ++ after.dues = before.dues

/-- Faults are reported over two stretches in order. -/
theorem Discharges.trans {reported more : List SchedulerFault}
    (first : Discharges before reported middle) (second : Discharges middle more after) :
    Discharges before (reported ++ more) after where
  deserted := second.deserted
  retired := second.retired.trans first.retired
  balance := by rw [List.append_assoc, second.balance, first.balance]

/-- Messages that are faults to nobody may be added to the queue. -/
theorem Discharges.still (deserted : ∀ id, before.threads.find? id = none)
    (threads : after.threads = before.threads) (retired : after.retired = before.retired)
    {sent : List (WorkerMessage α)} (queue : after.queue = before.queue ++ sent)
    (notes : ∀ message ∈ sent, IsNote message) : Discharges before [] after where
  deserted := by rw [threads]; exact deserted
  retired := retired
  balance := by
    rw [List.nil_append, dues, dues, queue, retired, List.flatMap_append,
      charges_of_notes _ notes, List.append_nil]

variable [Scalar α]

/-- The message that is handed out is the first of the queue, behind which the worker may add what
it gives up for lack of an answer. -/
theorem queue_next {message : WorkerMessage α} {bridge : Bridge (Inline α) α}
    (received : scheduler.bridge.next = (.message message, bridge)) :
    ∃ late, scheduler.queue ++ late = message :: { scheduler with bridge := bridge }.queue ∧
      ∀ message ∈ late, IsNote message := by
  unfold queue
  unfold Bridge.next at received
  split at received
  case h_1 first rest kept =>
    cases received
    exact ⟨[], by rw [kept, List.append_nil]; rfl, List.forall_mem_nil _⟩
  case h_2 kept =>
    obtain ⟨taken, rfl⟩ := Prod.mk.inj received
    obtain ⟨late, sent, notes⟩ := Inline.receive_outbox (Prod.ext taken rfl)
    exact ⟨late, by rw [kept, List.nil_append, sent]; rfl, notes⟩

/-- A host that is handed nothing has nothing in its queue. -/
theorem queue_nothing {bridge : Bridge (Inline α) α}
    (looked : scheduler.bridge.next = (.nothing, bridge)) :
    scheduler.queue = [] ∧ { scheduler with bridge := bridge }.queue = [] := by
  unfold queue
  unfold Bridge.next at looked
  split at looked
  case h_1 => cases looked
  case h_2 kept =>
    obtain ⟨taken, rfl⟩ := Prod.mk.inj looked
    obtain ⟨sent, left⟩ := Inline.receive_nothing (Prod.ext taken rfl)
    exact ⟨by rw [kept, sent]; rfl, by rw [kept]; exact left⟩

/-- Refusing a call adds to the queue what the worker gives up for it. -/
theorem queue_refuse (token : Token) (reason : String) :
    ∃ sent, { scheduler with
        bridge := (scheduler.bridge.post (.failure token reason)).2 }.queue =
          scheduler.queue ++ sent ∧ ∀ message ∈ sent, IsNote message := by
  refine ⟨(scheduler.worker.refuse token reason).2, ?_, ScriptWorker.refuse_notes _ _ _⟩
  rw [queue, queue, Bridge.post_inline, List.append_assoc]
  rfl

/-- A host without threads deals with a message: it reports what the message is to it, and adds to
the queue at most what the worker gives up. -/
structure Settled (before : Scheduler (Inline α) α) (report : StepReport)
    (message : WorkerMessage α) (handled : StepReport × Scheduler (Inline α) α) : Prop where
  threads : handled.2.threads = before.threads
  retired : handled.2.retired = before.retired
  faults : handled.1.faults = report.faults ++ charges before.retired message
  queue : ∃ sent, handled.2.queue = before.queue ++ sent ∧ ∀ message ∈ sent, IsNote message

omit [Scalar α] in
/-- A message that only leaves a note is no fault and changes neither threads nor queue. -/
theorem Settled.note {report noted : StepReport} {message : WorkerMessage α}
    (note : IsNote message) (faults : noted.faults = report.faults)
    (threads : after.threads = before.threads) (retired : after.retired = before.retired)
    (bridge : after.bridge = before.bridge) : Settled before report message (noted, after) where
  threads := threads
  retired := retired
  faults := by
    have uncharged : charges before.retired message = [] := by
      cases message with
      | call | ended => exact note.elim
      | _ => rfl
    rw [uncharged, List.append_nil]
    exact faults
  queue := ⟨[], by rw [Scheduler.queue, bridge, List.append_nil]; rfl, List.forall_mem_nil _⟩

omit [Scalar α] in
/-- Whether a missing thread is a fault depends on whether it is remembered. -/
theorem faults_missing (scheduler : Scheduler (Inline α) α) (report : StepReport) (id : ThreadId) :
    (if scheduler.isExcused (.notFound id) then report
      else report.withFault (.notFound id)).faults =
        report.faults ++ absence scheduler.retired id := by
  have excused : scheduler.isExcused (.notFound id) = decide (id ∈ scheduler.retired) := rfl
  rw [excused, absence]
  by_cases remembered : id ∈ scheduler.retired
  · rw [if_pos (decide_eq_true remembered), if_pos remembered, List.append_nil]
  · rw [if_neg (by rw [decide_eq_false remembered]; exact Bool.false_ne_true),
      if_neg remembered]
    rfl

/-- A host without threads settles every message. -/
theorem handleMessage_settled (deserted : ∀ id, scheduler.threads.find? id = none)
    (report : StepReport) (message : WorkerMessage α) :
    Settled scheduler report message (scheduler.handleMessage report message) := by
  cases message with
  | status | registered | started => exact .note trivial rfl rfl rfl rfl
  | ended id =>
    have missing : scheduler.endThread id = (.error (.notFound id), scheduler) :=
      endThread_missing (deserted id)
    change Settled _ _ _ (handleEnded scheduler report id)
    unfold handleEnded
    rw [missing]
    exact ⟨rfl, rfl, faults_missing scheduler report id, [], (List.append_nil _).symm,
      List.forall_mem_nil _⟩
  | scriptError thread reason =>
    change Settled _ _ _ (handleScriptError scheduler report thread reason)
    unfold handleScriptError
    cases thread with
    | none => exact .note trivial rfl rfl rfl rfl
    | some id =>
      dsimp only
      rw [OrderedMap.contains_eq_isSome, deserted id, Option.isSome_none, Bool.and_false]
      exact .note trivial rfl rfl rfl rfl
  | call target id opcode args token =>
    have refused : scheduler.call id opcode args (some token) =
        (.error (.notFound id), scheduler) := by
      simp only [call, deserted id]
    change Settled _ _ _ (handleCall scheduler report id opcode args token)
    unfold handleCall
    have desync : (SchedulerFault.notFound id).isDesync = true := rfl
    rw [refused]
    dsimp only
    rw [if_pos desync]
    exact ⟨rfl, rfl, faults_missing scheduler report id, queue_refuse token _⟩

/-- A host without threads reads a message and deals with it. The queue loses the message and gains
at most what the worker gives up. -/
theorem receive_settled (deserted : ∀ id, scheduler.threads.find? id = none)
    {message : WorkerMessage α} {bridge : Bridge (Inline α) α}
    (received : scheduler.bridge.next = (.message message, bridge)) (report : StepReport)
    {handled : StepReport × Scheduler (Inline α) α}
    (handles : handleMessage { scheduler with bridge := bridge } report message = handled) :
    handled.2.threads = scheduler.threads ∧ handled.2.retired = scheduler.retired ∧
      handled.1.faults = report.faults ++ charges scheduler.retired message ∧
      ∃ more, message :: handled.2.queue = scheduler.queue ++ more ∧
        ∀ message ∈ more, IsNote message := by
  obtain ⟨late, read, lateNotes⟩ := queue_next received
  have heard : ∀ id, { scheduler with bridge := bridge }.threads.find? id = none := deserted
  obtain ⟨threads, retired, faults, sent, queued, notes⟩ :=
    handles ▸ handleMessage_settled heard report message
  refine ⟨threads, retired, faults, late ++ sent, ?_, List.forall_mem_append.mpr ⟨lateNotes, notes⟩⟩
  rw [queued, ← List.cons_append, ← read, List.append_assoc]

/-- Whatever is read of the queue, what is reported of it and what is still due are together what
was due. -/
theorem drain_discharges (budget : Nat) (deserted : ∀ id, scheduler.threads.find? id = none)
    (report : StepReport) :
    ∃ reported, (drain budget scheduler report).1.faults = report.faults ++ reported ∧
      Discharges scheduler reported (drain budget scheduler report).2 := by
  induction budget generalizing scheduler report with
  | zero => exact ⟨[], (List.append_nil _).symm, deserted, rfl, rfl⟩
  | succ budget inductionHypothesis =>
    unfold drain
    split
    case h_1 bridge looked =>
      obtain ⟨empty, left⟩ := queue_nothing looked
      have same : { scheduler with bridge := bridge }.queue = scheduler.queue ++ [] := by
        rw [left, empty]
        rfl
      exact ⟨[], (List.append_nil _).symm, .still deserted rfl rfl same (List.forall_mem_nil _)⟩
    case h_2 bridge looked => exact absurd looked (next_connected scheduler)
    case h_3 message bridge received =>
      split
      case h_1 handledReport handled handles =>
        obtain ⟨threads, retired, faults, more, read, notes⟩ :=
          receive_settled deserted received _ handles
        dsimp only at threads retired faults read
        obtain ⟨reported, told, discharges⟩ :=
          inductionHypothesis (threads ▸ deserted) handledReport
        have due : charges scheduler.retired message ++ handled.dues = scheduler.dues := by
          have before : scheduler.dues =
              (scheduler.queue ++ more).flatMap (charges scheduler.retired) := by
            rw [List.flatMap_append, charges_of_notes _ notes, List.append_nil, dues]
          rw [before, ← read, List.flatMap_cons, dues, retired]
        have first : Discharges scheduler (charges scheduler.retired message) handled :=
          ⟨threads ▸ deserted, retired, due⟩
        refine ⟨charges scheduler.retired message ++ reported, ?_, first.trans discharges⟩
        rw [told, faults, List.append_assoc]

/-- A tick without threads has none to sweep and resumes nobody before it reads the queue. -/
theorem resumeTick_empty (deserted : ∀ id, scheduler.threads.find? id = none) :
    scheduler.resumeTick.1.faults = [] ∧
      scheduler.resumeTick.2 = scheduler.beginTick.sweep.2 ∧
      ∀ id, scheduler.beginTick.sweep.2.threads.find? id = none := by
  have ended : ∀ id thread, scheduler.threads.find? id = some thread → thread.isDone = true :=
    fun id thread found => by rw [deserted id] at found; cases found
  obtain ⟨faults, resumed⟩ := resumeTick_deserted ended
  exact ⟨faults, resumed, swept_deserted ended⟩

/-- A tick without threads reports some of what is due. -/
theorem step_discharges (deserted : ∀ id, scheduler.threads.find? id = none) :
    Discharges scheduler scheduler.step.1.faults scheduler.step.2 := by
  obtain ⟨faults, resumed, swept⟩ := resumeTick_empty deserted
  obtain ⟨reported, told, discharges⟩ := drain_discharges
    scheduler.resumeTick.2.config.maxMessagesPerTick (resumed ▸ swept) scheduler.resumeTick.1
  rw [faults, List.nil_append] at told
  rw [step_eq, drainTick, told]
  exact ⟨discharges.deserted, discharges.retired.trans (by rw [resumed]; rfl),
    discharges.balance.trans (by rw [resumed]; rfl)⟩

/-- A tick that may read a whole queue reports all that is due. -/
theorem drain_clears {budget : Nat} {front back : List (WorkerMessage α)}
    (deserted : ∀ id, scheduler.threads.find? id = none) (queued : scheduler.queue = front ++ back)
    (notes : ∀ message ∈ back, IsNote message) (enough : front.length ≤ budget)
    (report : StepReport) : (drain budget scheduler report).2.dues = [] := by
  induction budget generalizing scheduler front back report with
  | zero =>
    rw [List.length_eq_zero_iff.mp (Nat.le_zero.mp enough), List.nil_append] at queued
    change scheduler.dues = []
    rw [dues, queued, charges_of_notes _ notes]
  | succ budget inductionHypothesis =>
    unfold drain
    split
    case h_1 bridge looked =>
      change List.flatMap _ { scheduler with bridge := bridge }.queue = []
      rw [(queue_nothing looked).2]
      rfl
    case h_2 bridge looked => exact absurd looked (next_connected scheduler)
    case h_3 message bridge received =>
      split
      case h_1 handledReport handled handles =>
        obtain ⟨threads, -, -, more, read, moreNotes⟩ := receive_settled deserted received _ handles
        dsimp only at threads read
        have behind : ∀ message ∈ back ++ more, IsNote message :=
          List.forall_mem_append.mpr ⟨notes, moreNotes⟩
        rw [queued, List.append_assoc] at read
        cases front with
        | nil =>
          rw [List.nil_append] at read
          have rest : ∀ note ∈ handled.queue, IsNote note := fun note mem =>
            behind note (read ▸ List.mem_cons_of_mem message mem)
          exact inductionHypothesis (threads ▸ deserted) (List.nil_append _).symm rest
            (Nat.zero_le _) handledReport
        | cons first front =>
          rw [List.cons_append] at read
          exact inductionHypothesis (threads ▸ deserted) (List.cons.inj read).2 behind
            (Nat.le_of_succ_le_succ enough) handledReport

/-- A tick that may read the whole queue of a host without threads reports all that is due. -/
theorem step_clears (deserted : ∀ id, scheduler.threads.find? id = none)
    (enough : scheduler.queue.length ≤ scheduler.config.maxMessagesPerTick) :
    scheduler.step.1.faults = scheduler.dues := by
  obtain ⟨-, resumed, swept⟩ := resumeTick_empty deserted
  have cleared : scheduler.step.2.dues = [] := by
    rw [step_eq]
    change scheduler.drainTick.2.dues = []
    rw [drainTick, resumed]
    exact drain_clears swept (List.append_nil _).symm (List.forall_mem_nil _) enough _
  rw [← (step_discharges deserted).balance, cleared, List.append_nil]

end Scheduler

/-! ## Behind the quitting -/

/-- What a host does that starts no thread and leaves the worker alone: it starts the runtime,
ticks, quits again, and does what it likes with targets and devices; the wall clock may show
anything. -/
def Operation.IsIdle : Operation (Inline α) α → Prop
  | .step | .start | .quit | .emit _ | .attachRenderer | .addTarget _ => True
  | .changeStage _ | .changeDevices _ => True
  | .changeBridge change => ∃ now, change =
      fun bridge => { bridge with transport := { bridge.transport with moment := now } }
  | _ => False

namespace Scheduler

variable [Scalar α] {scheduler : Scheduler (Inline α) α}

/-- The faults that an operation reports, if it is a tick. -/
def faultsOf (scheduler : Scheduler (Inline α) α) : Operation (Inline α) α → List SchedulerFault
  | .step => scheduler.step.1.faults
  | _ => []

/-- The faults that the ticks among some operations report. -/
def faultsAlong (scheduler : Scheduler (Inline α) α) :
    List (Operation (Inline α) α) → List SchedulerFault
  | [] => []
  | operation :: later =>
    scheduler.faultsOf operation ++ (scheduler.perform operation).faultsAlong later

/-- An idle operation reports some of what is due. -/
theorem perform_discharges (deserted : ∀ id, scheduler.threads.find? id = none)
    {operation : Operation (Inline α) α} (idle : operation.IsIdle) :
    Discharges scheduler (scheduler.faultsOf operation) (scheduler.perform operation) := by
  have still {after : Scheduler (Inline α) α} (threads : after.threads = scheduler.threads)
      (retired : after.retired = scheduler.retired) (queue : after.queue = scheduler.queue) :
      Discharges scheduler [] after :=
    .still deserted threads retired (queue.trans (List.append_nil _).symm) (List.forall_mem_nil _)
  have quiet {after : Scheduler (Inline α) α} (quiet : Quiet scheduler after) :
      Discharges scheduler [] after :=
    still quiet.threads quiet.retired (by rw [queue, quiet.bridge, queue])
  cases operation with
  | step => exact step_discharges deserted
  | start => exact quiet (start_mild scheduler).toQuiet
  | quit => exact ⟨fun _ => rfl, rfl, rfl⟩
  | addTarget target => exact quiet (addTarget_mild scheduler target).toQuiet
  | changeBridge change =>
    obtain ⟨now, rfl⟩ := idle
    exact still rfl rfl rfl
  | emit | attachRenderer | changeStage | changeDevices => exact still rfl rfl rfl
  | _ => exact idle.elim

/-- Idle operations report some of what is due, each fault once and in order. -/
theorem run_discharges (deserted : ∀ id, scheduler.threads.find? id = none)
    {later : List (Operation (Inline α) α)} (idle : ∀ operation ∈ later, operation.IsIdle) :
    Discharges scheduler (scheduler.faultsAlong later) (scheduler.run later) := by
  induction later generalizing scheduler with
  | nil => exact ⟨deserted, rfl, rfl⟩
  | cons operation later inductionHypothesis =>
    rw [List.forall_mem_cons] at idle
    have first := perform_discharges deserted idle.1
    exact first.trans (inductionHypothesis first.deserted idle.2)

omit [Scalar α] in
/-- What is due about a thread that is not remembered is due to its calls and its end. -/
theorem mem_dues_iff {id : ThreadId} (forgotten : id ∉ scheduler.retired) :
    .notFound id ∈ scheduler.dues ↔
      (∃ target opcode args token, .call target id opcode args token ∈ scheduler.queue) ∨
        .ended id ∈ scheduler.queue := by
  have absent (other : ThreadId) :
      .notFound id ∈ absence scheduler.retired other ↔ other = id := by
    unfold absence
    split
    case isTrue remembered =>
      exact iff_of_false List.not_mem_nil fun same => forgotten (same ▸ remembered)
    case isFalse =>
      rw [List.mem_singleton, SchedulerFault.notFound.injEq]
      exact eq_comm
  rw [dues, List.mem_flatMap]
  constructor
  · rintro ⟨message, mem, charged⟩
    cases message with
    | call target other opcode args token =>
      exact .inl ⟨target, opcode, args, token, (absent other).mp charged ▸ mem⟩
    | ended other => exact .inr ((absent other).mp charged ▸ mem)
    | _ => cases charged
  · rintro (⟨target, opcode, args, token, mem⟩ | mem)
    · exact ⟨_, mem, (absent id).mpr rfl⟩
    · exact ⟨_, mem, (absent id).mpr rfl⟩

omit [Scalar α] in
/-- A thread that stands has a body in the worker exactly when it is served. -/
theorem Sound.runs_iff {id : ThreadId} {thread : Thread α} (sound : Sound none tight scheduler)
    (stands : scheduler.standing id = some thread) :
    (scheduler.worker.running.contains id = true ↔ scheduler.IsServed id thread) ∧
      ((∃ token, scheduler.worker.Owns token id) ↔ scheduler.IsServed id thread) := by
  have place : scheduler.worker.running.contains id = (scheduler.worker.seat id).place.isSome :=
    OrderedMap.contains_eq_isSome _ _
  rcases sound.served_or_leaving stands with served | leaving
  · have seated := served
    obtain ⟨running, token, deadline, seated, -⟩ := seated
    refine ⟨iff_of_true ?_ served, iff_of_true ⟨token, ?_⟩ served⟩
    · rw [place, seated]
      rfl
    · rw [ScriptWorker.owns_iff, seated]
      exact ⟨deadline, List.mem_singleton_self _⟩
  · have unserved : ¬scheduler.IsServed id thread := fun served => served.not_leaving leaving
    refine ⟨iff_of_false ?_ unserved, iff_of_false ?_ unserved⟩
    · rw [place, leaving.1]
      exact Bool.false_ne_true
    · rintro ⟨token, owns⟩
      obtain ⟨deadline, mem⟩ := ScriptWorker.owns_iff.mp owns
      rw [leaving.1] at mem
      cases mem

/-- What quitting leaves behind, whatever the host did through the scheduler before. The worker goes
on to run a body for every dropped thread that it served, and to await the reply to its call. A
dropped thread has a fault in store if a call for it or its end was queued. Whatever idle operations
follow, the faults that their ticks report and those still in store are together those in store at
first, in order; and a tick that may read the whole queue reports all of them. -/
theorem quit_leaves_the_worker_alone (config : SchedulerConfig) (registry : Registry)
    (motors : Motors (LoopbackLink α) α) {ids : IdSource} (distinct : ids.Distinct)
    (strict : config.endFaultedThreads = true) (patient : 0 < config.requestTimeout)
    {operations : List (Operation (Inline α) α)}
    (regular : ∀ operation ∈ operations, operation.IsRegular) :
    let now := (fresh config registry (Inline.idle config.blockTimeout) ids motors).run operations
    let left := now.quit
    (∀ id thread, now.standing id = some thread →
      (left.worker.running.contains id = true ↔ now.IsServed id thread) ∧
        ((∃ token, left.worker.Owns token id) ↔ now.IsServed id thread) ∧
        (.notFound id ∈ left.dues ↔
          (∃ target opcode args token, .call target id opcode args token ∈ now.queue) ∨
            .ended id ∈ now.queue)) ∧
      (∀ later, (∀ operation ∈ later, operation.IsIdle) →
        left.faultsAlong later ++ (left.run later).dues = left.dues) ∧
      (left.queue.length ≤ left.config.maxMessagesPerTick → left.step.1.faults = left.dues) := by
  intro now left
  have sound : Sound none tight now :=
    run_induction (fun scheduler operation allowed sound => sound.perform allowed)
      (fresh_sound registry motors distinct strict patient) regular
  have recollects : Recollects now := run_recollects config registry _ ids motors operations
  have deserted : ∀ id, left.threads.find? id = none := fun _ => rfl
  refine ⟨fun id thread stands => ?_, fun later idle => (run_discharges deserted idle).balance,
    step_clears deserted⟩
  obtain ⟨runs, awaits⟩ := sound.runs_iff stands
  have live : now.isLive id = true := by rw [isLive_eq_standing, stands]; rfl
  have forgotten : id ∉ left.retired := sound.orderly.not_remembered recollects live
  exact ⟨runs, awaits, mem_dues_iff forgotten⟩

/-- A script whose first call is queued when the host quits. -/
def queuedCall : List (Operation (Inline Rat) Rat) :=
  [.addTarget (.sprite ⟨"cat"⟩ "Cat"), .runBatch singleScript]

/-- The faults of two ticks behind a new start are all that was in store. -/
theorem queuedCall_settled :
    (∀ operation ∈ queuedCall, operation.IsRegular) ∧
      let left := (standardScheduler.run queuedCall).quit
      (∀ operation ∈ [.start, .step, .step], Operation.IsIdle (α := Rat) operation) ∧
        left.dues = [.notFound ⟨"#1"⟩] ∧
        left.faultsAlong [.start, .step, .step] ++ (left.run [.start, .step, .step]).dues =
          left.dues := by
  have regular : ∀ operation ∈ queuedCall, operation.IsRegular := by
    simp [queuedCall, Operation.IsRegular]
  have idle : ∀ operation ∈ [.start, .step, .step], Operation.IsIdle (α := Rat) operation := by
    simp [Operation.IsIdle]
  have leaves := quit_leaves_the_worker_alone .standard .standard
    (.atRest .reliable Motors.defaultBackoff : Motors (LoopbackLink Rat) Rat)
    IdSource.numbered_distinct rfl (by decide) regular
  exact ⟨regular, idle, by decide +kernel, leaves.2.1 _ idle⟩

/-- Quitting leaves a body in the worker that awaits a reply, and a fault about the dropped thread
behind a new start. -/
theorem queuedCall_outlives_quitting :
    let now := standardScheduler.run queuedCall
    let left := now.quit
    now.isLive ⟨"#1"⟩ = true ∧ left.worker.running.contains ⟨"#1"⟩ = true ∧
      left.worker.pending.size = 1 ∧ left.start.step.1.faults = [.notFound ⟨"#1"⟩] := by
  decide +kernel

end Scheduler

end SpriteMachine
