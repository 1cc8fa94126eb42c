import SpriteMachine.Project.Run
import SpriteMachine.Proofs.Block.Exact
import SpriteMachine.Proofs.Inline.Agreement
import SpriteMachine.Proofs.Scheduler.Moment
import SpriteMachine.Proofs.Worker.Remaining
import SpriteMachine.Proofs.Worker.Untimed

/-!
# Schedulers that get on

Where only swift blocks are called and no call is given up, every message of the worker is
dealt with once and for all: a call is answered at once, and an end is taken note of. What
the worker sends on an answer it had ahead, so each message that is dealt with is one message
less. A tick deals with as many messages as it may, or there is none left; and when none is
left, no thread stands.

What is said of the arithmetic of the blocks hangs on a condition: if it is met, only blocks are
called whose arithmetic is exact, and an exact stage stays so.
-/

namespace SpriteMachine

variable {α : Type}

/-- Nothing is due in a worker that gives up no call. -/
theorem Inline.refill_untimed {state : Inline α} (untimed : state.worker.Untimed) :
    state.refill = state := by
  unfold refill
  split
  case isTrue empty =>
    rw [untimed.poll]
    dsimp only
    rw [← List.isEmpty_iff.mp empty]
  case isFalse => rfl

namespace ScriptWorker

/-- On an answer a worker says what it had ahead, asks for allowed blocks only, and gives up no
call. -/
structure Responds (allowed : String → Prop) (worker : ScriptWorker α) (outcome : Sent α) :
    Prop where
  scripts : outcome.1.scripts = worker.scripts
  untimed : outcome.1.Untimed
  asks : AsksOnly allowed outcome.2
  remaining : outcome.1.remaining + outcome.2.length ≤ worker.remaining

/-- The worker deals with an answer by asking what its scripts allow, and less is ahead than
before. -/
theorem handle_responds [Scalar α] {worker : ScriptWorker α} {allowed : String → Prop}
    (untimed : worker.Untimed) (calls : worker.CallsOnly allowed)
    (waits : ∀ token awaited, worker.pending.table.find? token = some awaited →
      worker.running.contains awaited.continuation = true)
    {reply : Token → HostMessage α} (answers : Scheduler.IsAnswer reply) (now : Nat)
    (token : Token) : Responds allowed worker (worker.handle now (reply token)) := by
  rcases answers with ⟨value, rfl⟩ | ⟨reason, rfl⟩
  · exact ⟨(resume_keeps worker now token value).1, untimed.resume now token value,
      calls.resume now token value, resume_remaining worker now token value⟩
  · exact ⟨(refuse_keeps worker token reason).1, untimed.refuse token reason,
      asks_refuse worker token reason, refuse_remaining waits token reason⟩

end ScriptWorker

namespace Scheduler

section Threads

variable {τ : Type} {before after first second third scheduler : Scheduler τ α} {sure : Prop}

/-- No thread waits with a block that is to be invoked again. -/
def Awake (scheduler : Scheduler τ α) : Prop :=
  ∀ id thread, scheduler.threads.find? id = some thread → thread.status ≠ .yielding

/-- A finished thread waits for nothing. -/
theorem Awake.finish (awake : before.Awake) {id : ThreadId}
    (threads : after.threads = before.threads.modify id Thread.finish) : after.Awake := by
  intro other thread found
  rw [threads, OrderedMap.find_modify] at found
  split at found
  case isTrue =>
    obtain ⟨earlier, -, rfl⟩ := Option.map_eq_some_iff.mp found
    exact ThreadStatus.noConfusion
  case isFalse => exact awake other thread found

/-- So there is no thread to resume. -/
theorem Awake.yieldedThreads (awake : scheduler.Awake) : scheduler.yieldedThreads = [] := by
  rw [Scheduler.yieldedThreads, List.map_eq_nil_iff, List.filter_eq_nil_iff]
  intro thread member
  obtain ⟨id, found⟩ := OrderedMap.mem_values_iff.mp member
  simpa using awake id thread found

/-- The settings stay, no thread is registered, and none begins to wait; if the condition is met,
an exact stage stays exact. -/
structure Settles (sure : Prop) (before after : Scheduler τ α) : Prop where
  config : after.config = before.config
  registry : after.registry = before.registry
  started : after.started = before.started
  registered : after.stats.threadsRegistered = before.stats.threadsRegistered
  awake : before.Awake → after.Awake
  exact : sure → before.stage.Exact → after.stage.Exact

namespace Settles

/-- Nothing happens. -/
theorem refl (scheduler : Scheduler τ α) : Settles sure scheduler scheduler :=
  ⟨rfl, rfl, rfl, rfl, id, fun _ exact => exact⟩

/-- One thing happens after another. -/
theorem trans (before : Settles sure first second) (after : Settles sure second third) :
    Settles sure first third :=
  ⟨after.config.trans before.config, after.registry.trans before.registry,
    after.started.trans before.started, after.registered.trans before.registered,
    after.awake ∘ before.awake, fun met exact => after.exact met (before.exact met exact)⟩

/-- Only the bridge changes. -/
theorem ofBridge (scheduler : Scheduler τ α) (bridge : Bridge τ α) :
    Settles sure scheduler { scheduler with bridge := bridge } :=
  ⟨rfl, rfl, rfl, rfl, id, fun _ exact => exact⟩

/-- Threads that have ended go. -/
theorem sweep (scheduler : Scheduler τ α) : Settles sure scheduler scheduler.sweep.2 := by
  refine ⟨rfl, rfl, rfl, rfl, fun awake id thread found => ?_, fun _ exact => exact⟩
  change (scheduler.threads.filter fun _ thread => thread.isActive).find? id = some thread at found
  rw [OrderedMap.find_filter] at found
  exact awake id thread (Option.filter_eq_some_iff.mp found).1

end Settles

/-- The bridge is left alone, or an answer is posted. -/
def Answers [Transport τ α] (before after : Scheduler τ α) : Prop :=
  after.bridge = before.bridge ∨ ∃ reply token, IsAnswer reply ∧
    after.bridge = (before.bridge.post (reply token)).2

variable [Scalar α] [Transport τ α]

omit [Scalar α] in
/-- Posting an answer, if there is a call to answer. -/
theorem answer_settles {left : Scheduler τ α} (settles : Settles sure scheduler left)
    (bridge : left.bridge = scheduler.bridge) (token : Option Token)
    {reply : Token → HostMessage α} (answers : IsAnswer reply) :
    Settles sure scheduler (left.answer token reply).2 ∧
      Answers scheduler (left.answer token reply).2 := by
  cases token with
  | none => exact ⟨settles, Or.inl bridge⟩
  | some token =>
    rw [answer_some]
    refine ⟨settles.trans (.ofBridge left _), Or.inr ⟨reply, token, answers, ?_⟩⟩
    rw [bridge]

/-- A swift block is answered at once. -/
theorem invoke_settles (scheduler : Scheduler τ α) {block : Block} (swift : block.IsSwift)
    (precise : sure → block.IsExact) (id : ThreadId) (target : TargetId) (frame : Frame α) :
    Settles sure scheduler (scheduler.invoke id target block frame).2 ∧
      Answers scheduler (scheduler.invoke id target block frame).2 := by
  have runs := Block.run_swift swift frame.args
    ⟨scheduler.noteInvocation id target frame, id, target, frame, false⟩
  obtain ⟨stage, devices, motors, -, same⟩ := runs.scheduler
  have noted : Settles sure scheduler { scheduler.noteInvocation id target frame with
      stage := stage, devices := devices, motors := motors } := by
    refine ⟨rfl, rfl, rfl, rfl, fun awake => awake, fun met exact => ?_⟩
    have ran : (block.run frame.args ⟨scheduler.noteInvocation id target frame, id, target, frame,
        false⟩).2.scheduler.stage.Exact := Block.run_exact swift (precise met) frame.args exact
    rw [same] at ran
    exact ran
  rw [← same] at noted
  have bridge := congrArg Scheduler.bridge same
  cases ran : block.run frame.args
      ⟨scheduler.noteInvocation id target frame, id, target, frame, false⟩ with
  | mk result left =>
    rw [ran] at runs noted bridge
    cases result with
    | error fault =>
      rw [invoke_failed ran]
      exact answer_settles noted bridge frame.token (Or.inr ⟨fault.message, rfl⟩)
    | ok value =>
      have delivered : Settles sure left.scheduler (left.scheduler.deliver id value) :=
        ⟨rfl, rfl, rfl, rfl, fun awake => awake, fun _ exact => exact⟩
      rw [invoke_completed ran runs.yielded]
      exact answer_settles (noted.trans delivered) bridge frame.token (Or.inl ⟨value, rfl⟩)

/-- Dealing with a message that calls a swift block, or none, leaves nothing behind but the
answer. -/
theorem handleMessage_settles (scheduler : Scheduler τ α) (report : StepReport)
    {message : WorkerMessage α}
    (asks : ∀ target id opcode args token, message = .call target id opcode args token →
      scheduler.registry.Offers sure opcode) :
    Settles sure scheduler (scheduler.handleMessage report message).2 ∧
      Answers scheduler (scheduler.handleMessage report message).2 := by
  have still : Settles sure scheduler scheduler ∧ Answers scheduler scheduler :=
    ⟨.refl scheduler, Or.inl rfl⟩
  cases message with
  | status status => exact ⟨⟨rfl, rfl, rfl, rfl, id, fun _ exact => exact⟩, Or.inl rfl⟩
  | call target id opcode args token =>
    obtain ⟨named, offered, swift, precise⟩ := asks target id opcode args token rfl
    change Settles sure scheduler (scheduler.handleCall report id opcode args token).2 ∧
      Answers scheduler (scheduler.handleCall report id opcode args token).2
    unfold handleCall
    obtain ⟨fault, desync, failed⟩ | ⟨thread, block, found, active, known, calls⟩ :=
      call_forms scheduler id opcode args (some token)
    · rw [failed]
      dsimp only
      rw [if_pos desync]
      exact ⟨.ofBridge scheduler _, Or.inr ⟨_, token, Or.inr ⟨fault.message, rfl⟩, rfl⟩⟩
    · obtain rfl := Option.some.inj (offered.symm.trans known)
      have invoked := invoke_settles scheduler swift precise id thread.target
        (.fresh opcode args (some token))
      rw [← calls] at invoked
      split
      case h_1 outcome left result =>
        rw [result] at invoked
        exact invoked
      case h_2 fault left result =>
        rw [if_neg (by rw [invoke_fault (congrArg Prod.fst (calls.symm.trans result))]; simp)]
        rw [result] at invoked
        exact invoked
  | ended id =>
    rw [handleMessage, handleEnded_left]
    unfold endThread
    split
    case isTrue =>
      exact ⟨⟨rfl, rfl, rfl, rfl, fun awake => awake.finish rfl, fun _ exact => exact⟩,
        Or.inl rfl⟩
    case isFalse => exact still
  | scriptError thread reason =>
    change Settles sure scheduler (scheduler.handleScriptError report thread reason).2 ∧
      Answers scheduler (scheduler.handleScriptError report thread reason).2
    unfold handleScriptError
    dsimp only
    split
    case h_1 => exact ⟨⟨rfl, rfl, rfl, rfl, id, fun _ exact => exact⟩, Or.inl rfl⟩
    case h_2 =>
      split
      case isTrue =>
        exact ⟨⟨rfl, rfl, rfl, rfl, fun awake => awake.finish rfl, fun _ exact => exact⟩,
          Or.inl rfl⟩
      case isFalse =>
        exact ⟨⟨rfl, rfl, rfl, rfl, fun awake => awake, fun _ exact => exact⟩, Or.inl rfl⟩
  | registered token refusal => exact still
  | started token threads => exact still

end Threads

/-! ## Messages -/

section Messages

variable [Scalar α] {scheduler before after : Scheduler (Inline α) α} {message : WorkerMessage α}
  {sure : Prop}

/-- Host and worker agree, no call is given up, only swift blocks are called, exact ones if the
condition is met, and no thread waits with one. -/
structure Brisk (sure : Prop) (scheduler : Scheduler (Inline α) α) : Prop where
  sound : Sound none tight scheduler
  untimed : scheduler.worker.Untimed
  calls : scheduler.worker.CallsOnly (scheduler.registry.Offers sure)
  asks : AsksOnly (scheduler.registry.Offers sure) scheduler.queue
  awake : scheduler.Awake

/-- The messages that are queued and those that the worker has ahead. -/
def workload (scheduler : Scheduler (Inline α) α) : Nat :=
  scheduler.queue.length + scheduler.worker.remaining

omit [Scalar α] in
/-- No thread stands when nothing is queued. -/
theorem Brisk.nobody (brisk : Brisk sure scheduler) (silent : scheduler.queue = [])
    (id : ThreadId) :
    scheduler.standing id = none := by
  have fits := brisk.sound.fits id fun untied => untied
  rw [silent, about_nil] at fits
  cases stands : scheduler.standing id with
  | none => rfl
  | some thread =>
    rw [stands] at fits
    have awake := brisk.awake id thread (standing_eq_some.mp stands).1
    generalize scheduler.worker.seat id = seat at fits
    cases fits with
    | yielded waits running deadline => exact absurd waits.1 awake

/-- The host takes the first message that is queued, if there is one. -/
theorem Brisk.next (brisk : Brisk sure scheduler) :
    (scheduler.queue = [] ∧ scheduler.bridge.next = (.nothing, scheduler.bridge)) ∨
      ∃ message bridge, scheduler.bridge.next = (.message message, bridge) ∧
        Taken scheduler message { scheduler with bridge := bridge } := by
  have full : scheduler.refill = scheduler := by
    unfold Scheduler.refill
    rw [Inline.refill_untimed brisk.untimed]
  rcases next_forms scheduler with ⟨-, silent, looked⟩ | ⟨message, bridge, looked, forms⟩
  · rw [full] at silent looked
    exact Or.inl ⟨silent, looked⟩
  · rw [full] at forms
    exact Or.inr ⟨message, bridge, looked, forms.elim id And.right⟩

omit [Scalar α] in
/-- A change of the host that leaves the bridge alone. -/
theorem Brisk.host (brisk : Brisk sure before) (sound : Sound none tight after)
    (bridge : after.bridge = before.bridge) (registry : after.registry = before.registry)
    (awake : after.Awake) : Brisk sure after ∧ after.workload = before.workload := by
  have worker : after.worker = before.worker := by
    rw [Scheduler.worker, bridge, Scheduler.worker]
  have queue : after.queue = before.queue := by rw [Scheduler.queue, bridge, Scheduler.queue]
  refine ⟨⟨sound, ?_, ?_, ?_, awake⟩, ?_⟩
  · rw [worker]
    exact brisk.untimed
  · rw [worker, registry]
    exact brisk.calls
  · rw [queue, registry]
    exact brisk.asks
  · rw [workload, workload, worker, queue]

/-- Every message that is dealt with is one message less. -/
theorem Brisk.handleMessage (brisk : Brisk sure before) (taken : Taken before message after)
    (report : StepReport) :
    Brisk sure (after.handleMessage report message).2 ∧
      Settles sure before (after.handleMessage report message).2 ∧
      (after.handleMessage report message).2.workload + 1 ≤ before.workload := by
  have host : Settles sure before after := taken.host ▸ .ofBridge before after.bridge
  have queued : ∀ later ∈ after.queue, later ∈ before.queue := by
    intro later member
    rw [taken.queue]
    exact List.mem_cons_of_mem _ member
  have asks : ∀ target id opcode args token, message = .call target id opcode args token →
      after.registry.Offers sure opcode := by
    rintro target id opcode args token rfl
    rw [host.registry]
    refine brisk.asks target id opcode args token ?_
    rw [taken.queue]
    exact List.mem_cons_self
  have left : AsksOnly (before.registry.Offers sure) after.queue :=
    fun target id opcode args token member =>
      brisk.asks target id opcode args token (queued _ member)
  have shorter : before.queue.length = after.queue.length + 1 := by
    rw [taken.queue, List.length_cons]
  have sound := brisk.sound.handleMessage taken report
  obtain ⟨settles, answers⟩ := handleMessage_settles after report asks
  have settled := host.trans settles
  generalize (after.handleMessage report message).2 = done at sound settled answers ⊢
  rcases answers with silent | ⟨reply, token, answers, posted⟩
  · have worker : done.worker = before.worker := by
      rw [← taken.worker, Scheduler.worker, silent, Scheduler.worker]
    have queue : done.queue = after.queue := by rw [Scheduler.queue, silent, Scheduler.queue]
    refine ⟨⟨sound, ?_, ?_, ?_, settled.awake brisk.awake⟩, settled, ?_⟩
    · rw [worker]
      exact brisk.untimed
    · rw [worker, settled.registry]
      exact brisk.calls
    · rw [queue, settled.registry]
      exact left
    · rw [workload, workload, worker, queue]
      omega
  · have responds := ScriptWorker.handle_responds brisk.untimed brisk.calls
      brisk.sound.agrees.pending answers after.bridge.transport.moment token
    have worker : done.worker =
        (before.worker.handle after.bridge.transport.moment (reply token)).1 := by
      rw [← taken.worker, Scheduler.worker, posted]
      rfl
    have queue : done.queue =
        after.queue ++ (before.worker.handle after.bridge.transport.moment (reply token)).2 := by
      rw [← taken.worker, Scheduler.queue, posted, Scheduler.queue, List.append_assoc]
      rfl
    refine ⟨⟨sound, ?_, ?_, ?_, settled.awake brisk.awake⟩, settled, ?_⟩
    · rw [worker]
      exact responds.untimed
    · rw [worker, settled.registry]
      exact brisk.calls.congr responds.scripts
    · rw [queue, settled.registry]
      exact left.append responds.asks
    · have remaining := responds.remaining
      rw [workload, workload, worker, queue, List.length_append]
      omega

/-- Dealing with messages goes on until there is none, or as many as are allowed are dealt
with. -/
theorem Brisk.drain (budget : Nat) (brisk : Brisk sure scheduler) (report : StepReport) :
    Brisk sure (drain budget scheduler report).2 ∧
      Settles sure scheduler (drain budget scheduler report).2 ∧
      ((drain budget scheduler report).2.queue = [] ∨
        (drain budget scheduler report).2.workload + budget ≤ scheduler.workload) := by
  induction budget generalizing scheduler report with
  | zero => exact ⟨brisk, .refl scheduler, Or.inr (Nat.le_refl _)⟩
  | succ budget inductionHypothesis =>
    rcases brisk.next with ⟨silent, received⟩ | ⟨message, bridge, received, taken⟩
    · simp only [Scheduler.drain, received]
      exact ⟨brisk, .refl scheduler, Or.inl silent⟩
    · simp only [Scheduler.drain, received]
      obtain ⟨handled, settles, lower⟩ :=
        brisk.handleMessage taken { report with messages := report.messages + 1 }
      obtain ⟨drained, later, outcome⟩ := inductionHypothesis handled
        (Scheduler.handleMessage { scheduler with bridge := bridge }
          { report with messages := report.messages + 1 } message).1
      refine ⟨drained, settles.trans later, outcome.imp_right fun lowered => ?_⟩
      omega

/-- There is nothing to deal with when nothing is queued. -/
theorem Brisk.drain_silent (brisk : Brisk sure scheduler) (silent : scheduler.queue = [])
    (budget : Nat) (report : StepReport) :
    Scheduler.drain budget scheduler report = (report, scheduler) := by
  cases budget with
  | zero => rfl
  | succ budget =>
    rcases brisk.next with ⟨-, received⟩ | ⟨message, bridge, received, taken⟩
    · simp only [Scheduler.drain, received]
    · have queued := taken.queue
      rw [silent] at queued
      cases queued

/-! ## Ticks -/

/-- A tick that begins and sweeps. -/
theorem Brisk.sweep (brisk : Brisk sure scheduler) :
    Brisk sure scheduler.beginTick.sweep.2 ∧
      scheduler.beginTick.sweep.2.workload = scheduler.workload ∧
      Settles sure scheduler scheduler.beginTick.sweep.2 := by
  have begun : Quiet scheduler scheduler.beginTick :=
    ⟨rfl, rfl, rfl, rfl, rfl, rfl, .refl _, .same rfl rfl, fun _ _ known => known⟩
  have began : Settles sure scheduler scheduler.beginTick :=
    ⟨rfl, rfl, rfl, rfl, fun awake => awake, fun _ exact => exact.perform .takeRedraw trivial⟩
  have settles := began.trans (.sweep scheduler.beginTick)
  obtain ⟨swept, same⟩ := brisk.host (brisk.sound.quiet begun).sweep rfl rfl
    (settles.awake brisk.awake)
  exact ⟨swept, same, settles⟩

/-- No thread is resumed in a tick. -/
theorem Brisk.resumeTick (brisk : Brisk sure scheduler) :
    scheduler.resumeTick.2 = scheduler.beginTick.sweep.2 ∧
      scheduler.resumeTick.1.messages = 0 := by
  unfold Scheduler.resumeTick
  rw [brisk.sweep.1.awake.yieldedThreads]
  exact ⟨rfl, rfl⟩

/-- A tick deals with as many messages as it may, or leaves none. -/
theorem Brisk.step (brisk : Brisk sure scheduler) :
    Brisk sure scheduler.step.2 ∧ Settles sure scheduler scheduler.step.2 ∧
      (scheduler.step.2.queue = [] ∨
        scheduler.step.2.workload + scheduler.config.maxMessagesPerTick ≤ scheduler.workload) := by
  have sound := brisk.sound.step
  obtain ⟨swept, same, settles⟩ := brisk.sweep
  obtain ⟨drained, later, outcome⟩ := swept.drain
    scheduler.beginTick.sweep.2.config.maxMessagesPerTick scheduler.resumeTick.1
  rw [step_eq] at sound ⊢
  unfold drainTick at sound ⊢
  rw [brisk.resumeTick.1] at sound ⊢
  generalize Scheduler.drain scheduler.beginTick.sweep.2.config.maxMessagesPerTick
    scheduler.beginTick.sweep.2 scheduler.resumeTick.1 = draining at sound drained later outcome ⊢
  have ended : Settles sure draining.2 (draining.2.endTick draining.1) :=
    ⟨rfl, rfl, rfl, rfl, fun awake => awake, fun _ exact => exact.perform .draw trivial⟩
  obtain ⟨brisk, kept⟩ := drained.host sound rfl rfl (ended.awake drained.awake)
  refine ⟨brisk, settles.trans (later.trans ended), outcome.imp_right fun lowered => ?_⟩
  rw [settles.config, same] at lowered
  rw [kept]
  exact lowered

/-- A tick with nothing queued at its beginning is the last one. -/
theorem Brisk.step_silent (brisk : Brisk sure scheduler) (silent : scheduler.queue = []) :
    scheduler.step.2.isBusy scheduler.step.1 = false := by
  obtain ⟨swept, -, -⟩ := brisk.sweep
  obtain ⟨resumed, unheard⟩ := brisk.resumeTick
  have nobody : scheduler.beginTick.sweep.2.threads.entries = [] := by
    refine List.filter_eq_nil_iff.mpr fun entry inside active => ?_
    have stands : scheduler.standing entry.1 = some entry.2 :=
      standing_eq_some.mpr ⟨OrderedMap.mem_entries_iff.mp inside, active⟩
    rw [brisk.nobody silent] at stands
    cases stands
  rw [step_eq, drainTick, resumed, swept.drain_silent silent, isBusy, unheard]
  change (decide (scheduler.beginTick.sweep.2.threads.entries.length > 0) || _) = false
  rw [nobody]
  rfl

/-! ## Runs -/

/-- Time passes between two ticks. -/
theorem Brisk.elapseTicks (brisk : Brisk sure scheduler) (interval : Nat) :
    Brisk sure (elapseTicks interval scheduler) ∧
      (Scheduler.elapseTicks interval scheduler).queue = scheduler.queue ∧
      (Scheduler.elapseTicks interval scheduler).workload = scheduler.workload ∧
      Settles sure scheduler (Scheduler.elapseTicks interval scheduler) := by
  have passed := brisk.sound.setMoment (scheduler.stats.ticks * interval / 1000000)
  have sound : Sound none tight (Scheduler.elapseTicks interval scheduler) :=
    passed.quiet ⟨rfl, rfl, rfl, rfl, rfl, rfl, .refl _, .refl, fun _ _ known => known⟩
  exact ⟨⟨sound, brisk.untimed, brisk.calls, brisk.asks, brisk.awake⟩, rfl, rfl,
    ⟨rfl, rfl, rfl, rfl, fun awake => awake, fun _ exact => exact⟩⟩

/-- A run goes on while there is something to do, and time passes between its ticks. -/
def whileBusy (interval : Nat) : Pace (Inline α) α :=
  ⟨fun _ report scheduler => scheduler.isBusy report, Scheduler.elapseTicks interval⟩

/-- Its first tick comes behind the start. -/
theorem driveWhileBusy_eq (scheduler : Scheduler (Inline α) α) (limit interval : Nat) :
    scheduler.driveWhileBusy limit interval =
      driveFrom (whileBusy interval) limit 0 scheduler.start := rfl

/-- A run is over behind a tick that leaves nothing to do. -/
theorem driveFrom_idle (interval : Nat) (going : scheduler.started = true)
    (idle : scheduler.step.2.isBusy scheduler.step.1 = false) (ticks : Nat) :
    scheduler.step.2.threads.size = 0 ∧ ∀ budget, 1 ≤ budget →
      driveFrom (whileBusy interval) budget ticks scheduler = (ticks + 1, scheduler.step.2) := by
  constructor
  · rw [isBusy, Bool.or_eq_false_iff] at idle
    simpa using idle.1
  · intro budget enough
    obtain ⟨more, rfl⟩ := Nat.exists_eq_add_of_le' enough
    simp only [driveFrom, whileBusy, going, idle, Bool.not_true, Bool.false_eq_true, if_false]

/-- It goes on behind any other tick. -/
theorem driveFrom_busy (interval : Nat) (going : scheduler.started = true)
    (busy : scheduler.step.2.isBusy scheduler.step.1 = true) (budget ticks : Nat) :
    driveFrom (whileBusy interval) (budget + 1) ticks scheduler =
      driveFrom (whileBusy interval) budget (ticks + 1)
        (Scheduler.elapseTicks interval scheduler.step.2) := by
  simp only [driveFrom, whileBusy, going, busy, Bool.not_true, Bool.false_eq_true, if_false,
    if_true]

/-- A scheduler that gets on is done within as many ticks as it takes to deal with its workload
and one more, however many are granted beyond. -/
theorem Brisk.ends {rounds : Nat} (brisk : Brisk sure scheduler) (going : scheduler.started = true)
    (within : scheduler.queue = [] ∨
      scheduler.workload ≤ rounds * scheduler.config.maxMessagesPerTick) (interval ticks : Nat) :
    ∃ count ended, count ≤ rounds + 1 ∧ Settles sure scheduler ended ∧ ended.threads.size = 0 ∧
      ∀ budget, rounds + 1 ≤ budget →
        driveFrom (whileBusy interval) budget ticks scheduler = (ticks + count, ended) := by
  induction rounds generalizing scheduler ticks with
  | zero =>
    have silent : scheduler.queue = [] := by
      refine within.elim id fun nothing => List.eq_nil_of_length_eq_zero ?_
      rw [Nat.zero_mul, workload] at nothing
      omega
    obtain ⟨empty, stops⟩ := driveFrom_idle interval going (brisk.step_silent silent) ticks
    exact ⟨1, scheduler.step.2, Nat.le_refl 1, brisk.step.2.1, empty, stops⟩
  | succ rounds inductionHypothesis =>
    obtain ⟨stepped, settles, outcome⟩ := brisk.step
    cases busy : scheduler.step.2.isBusy scheduler.step.1 with
    | false =>
      obtain ⟨empty, stops⟩ := driveFrom_idle interval going busy ticks
      exact ⟨1, scheduler.step.2, Nat.le_add_left 1 _, settles, empty,
        fun budget enough => stops budget (by omega)⟩
    | true =>
      obtain ⟨elapsed, queue, same, passes⟩ := stepped.elapseTicks interval
      have kept := settles.trans passes
      have left : scheduler.step.2.queue = [] ∨
          scheduler.step.2.workload ≤ rounds * scheduler.config.maxMessagesPerTick := by
        refine outcome.imp_right fun lowered => ?_
        rcases within with silent | within
        · rw [brisk.step_silent silent] at busy
          cases busy
        · rw [Nat.succ_mul] at within
          omega
      rw [← queue, ← same, ← kept.config] at left
      obtain ⟨count, ended, bound, later, empty, stops⟩ :=
        inductionHypothesis elapsed (kept.started.trans going) left (ticks + 1)
      refine ⟨count + 1, ended, Nat.succ_le_succ bound, kept.trans later, empty,
        fun budget enough => ?_⟩
      obtain ⟨more, rfl⟩ : ∃ more, budget = more + 1 := ⟨budget - 1, by omega⟩
      rw [driveFrom_busy interval going busy, stops more (by omega), Nat.add_assoc,
        Nat.add_comm 1 count]

end Messages

end Scheduler

end SpriteMachine
