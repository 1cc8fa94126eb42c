import SpriteMachine.Proofs.Block.Effect
import SpriteMachine.Proofs.Scheduler.Advance
import SpriteMachine.Proofs.Scheduler.Operation
import SpriteMachine.Proofs.Script.Linker

/-!
# Whatever the host does advances

Every operation of a host advances the scheduler, and so does every tick, whatever the
worker says.
-/

namespace SpriteMachine

namespace Scheduler

variable {τ α : Type}

section Hosting

/-- The threads of a batch are registered under issued names. -/
theorem adoptAll_advances (entries : List (ScriptId × Registration))
    (scheduler : Scheduler τ α) :
    Advances scheduler (scheduler.adoptAll entries).2 ∧
      (Orderly scheduler → ∀ start ∈ (scheduler.adoptAll entries).1,
        (scheduler.adoptAll entries).2.ids.Issued start.thread.text) := by
  induction entries generalizing scheduler with
  | nil =>
    refine ⟨.refl scheduler, ?_⟩
    intro _ start member
    cases member
  | cons entry rest inductionHypothesis =>
    obtain ⟨script, registration⟩ := entry
    have adopts : Advances scheduler (scheduler.addThread registration.target false).2 :=
      adopt_advances scheduler (fun id => .plain id registration.target false)
        (fun _ => rfl) (fun _ => rfl)
    obtain ⟨advances, issued⟩ := inductionHypothesis
      (scheduler.addThread registration.target false).2
    refine ⟨adopts.trans advances, ?_⟩
    intro orderly start member
    have adopted := adopts orderly
    rcases List.mem_cons.mp member with rfl | later
    · exact (advances adopted.1).2.ids.issued_of (nextThreadId_fresh scheduler).2.2
    · exact issued adopted.1 start later

/-- Quitting is a step forward. -/
theorem quit_advances (scheduler : Scheduler τ α) : Advances scheduler scheduler.quit := by
  refine .ofChange [] ⟨rfl, rfl, .refl _⟩ ?_ rfl (Nat.zero_le 1) ?_ ?_ ?_
  · intro _ id thread found
    cases found
  all_goals
    intros
    contradiction

/-- To open a backend is a step forward. -/
theorem openBackend_advances [Transport τ α] (scheduler : Scheduler τ α) (url : String) :
    Advances scheduler (scheduler.openBackend url).2 := by
  unfold openBackend
  split
  case h_1 => exact bridge_advances scheduler _
  case h_2 =>
    split
    case h_1 => exact bridge_advances scheduler _
    case h_2 => exact bridge_advances scheduler _

variable [Scalar α]

/-- Linking draws names and does nothing else to a scheduler. -/
theorem linkKnown_quiet (scheduler : Scheduler τ α) (batch : Batch) :
    Quiet scheduler (scheduler.linkKnown batch).2 := by
  have continues := Linker.link_continues α batch scheduler.stage.contains scheduler.ids
  unfold linkKnown
  split
  case h_1 fault ids result =>
    rw [result] at continues
    exact ⟨rfl, rfl, rfl, rfl, rfl, rfl, continues, .refl, fun _ _ known => known⟩
  case h_2 linked ids result =>
    rw [result] at continues
    exact ⟨rfl, rfl, rfl, rfl, rfl, rfl, continues, .refl, fun _ _ known => known⟩

/-- What is accepted was linked and calls known blocks only. -/
theorem linkKnown_ok {scheduler left : Scheduler τ α} {batch : Batch} {linked : Linked}
    (result : scheduler.linkKnown batch = (.ok linked, left)) :
    Linker.link α batch scheduler.stage.contains scheduler.ids = (.ok linked, left.ids) ∧
      left = { scheduler with ids := left.ids } ∧
      scheduler.registry.missing linked.opcodes = [] := by
  unfold linkKnown at result
  split at result
  case h_1 => cases result
  case h_2 found ids links =>
    obtain ⟨accepted, rfl⟩ := Prod.mk.inj result
    split at accepted
    case isTrue known =>
      obtain rfl := Except.ok.inj accepted
      exact ⟨links, rfl, known⟩
    case isFalse => cases accepted

/-- A linked batch reads back. -/
theorem linkKnown_reads {scheduler left : Scheduler τ α} {batch : Batch}
    {linked : Linked} (result : scheduler.linkKnown batch = (.ok linked, left)) :
    ∃ scripts : List (Script α), Linker.Reads linked scripts :=
  Linker.link_reads (linkKnown_ok result).1

/-- To link a batch is a step forward. -/
theorem linkKnown_advances (scheduler : Scheduler τ α) (batch : Batch) :
    Advances scheduler (scheduler.linkKnown batch).2 :=
  (linkKnown_quiet scheduler batch).advances

variable [Transport τ α]

/-- To install a linked batch is a step forward. -/
theorem install_advances (scheduler : Scheduler τ α) (linked : Linked) :
    Advances scheduler (scheduler.install linked) :=
  (retireAll_advances scheduler _ fun orderly _ member => issued_of_keys orderly member).trans
    (.still ⟨rfl, rfl, .refl _⟩ rfl rfl)

/-- To load scripts is a step forward, also where it fails. -/
theorem loadScripts_advances (scheduler : Scheduler τ α) (batch : Batch) :
    Advances scheduler (scheduler.loadScripts batch).2 := by
  have links := linkKnown_advances scheduler batch
  unfold loadScripts
  split
  case h_1 fault left result =>
    rw [result] at links
    exact links
  case h_2 linked left result =>
    rw [result] at links
    split
    case h_1 => exact links.trans (bridge_advances left _)
    case h_2 => exact (links.trans (bridge_advances left _)).trans (install_advances _ linked)

/-- To run a batch at once is a step forward, also where it fails. -/
theorem runBatch_advances (scheduler : Scheduler τ α) (batch : Batch) :
    Advances scheduler (scheduler.runBatch batch).2 := by
  have links := linkKnown_advances scheduler batch
  unfold runBatch
  split
  case h_1 fault left result =>
    rw [result] at links
    exact links
  case h_2 linked left result =>
    rw [result] at links
    obtain ⟨adopts, issued⟩ := adoptAll_advances linked.registrations.entries left
    generalize left.adoptAll linked.registrations.entries = registered at adopts issued
    obtain ⟨starts, adopted⟩ := registered
    dsimp only at adopts issued ⊢
    split
    case h_1 fault bridge posted =>
      intro orderly
      have linkedOrderly := (links orderly).1
      refine ((links.trans adopts).trans ((bridge_advances adopted bridge).trans
        (retireAll_advances _ _ fun _ id member => ?_))) orderly
      obtain ⟨start, present, rfl⟩ := List.mem_map.mp member
      exact issued linkedOrderly start present
    case h_2 => exact (links.trans adopts).trans (bridge_advances adopted _)

end Hosting

section Executing

/-- To answer the worker is a step forward. -/
theorem answer_advances [Transport τ α] (scheduler : Scheduler τ α) (token : Option Token)
    (reply : Token → HostMessage α) : Advances scheduler (scheduler.answer token reply).2 := by
  unfold answer
  split
  case h_1 => exact .refl scheduler
  case h_2 =>
    split
    case h_1 => exact bridge_advances scheduler _
    case h_2 => exact bridge_advances scheduler _

/-- An answer can only fail on its way. -/
theorem answer_fault [Transport τ α] {scheduler : Scheduler τ α} {token : Option Token}
    {reply : Token → HostMessage α} {fault : SchedulerFault}
    (failed : (scheduler.answer token reply).1 = .error fault) : fault.isDesync = false := by
  unfold answer at failed
  split at failed
  case h_1 => cases failed
  case h_2 =>
    split at failed
    case h_1 => cases failed
    case h_2 =>
      cases failed
      rfl

/-- A waiting thread keeps its name and is done only when it was done. -/
theorem suspend_advances (scheduler : Scheduler τ α) (id : ThreadId) (frame : Frame α) :
    Advances scheduler (scheduler.suspend id frame) := by
  have waits : (scheduler.suspend id frame).threads = scheduler.threads.modify id fun thread =>
      if thread.isActive then (thread.push { frame with state := .waiting }).setStatus .yielding
      else thread := rfl
  refine .modify id _ ⟨rfl, rfl, .refl _⟩ waits rfl ?_ ?_
  · intro thread _
    split
    case isTrue => exact Thread.setStatus_id _ _
    case isFalse => rfl
  · intro thread _
    split
    case isTrue => exact Thread.setStatus_isDone _ (by decide)
    case isFalse => rfl

variable [Scalar α] [Transport τ α]

/-- An invocation fails by its block or on the way of its answer. -/
theorem invoke_fault {scheduler : Scheduler τ α} {thread : ThreadId} {target : TargetId}
    {block : Block} {frame : Frame α} {fault : SchedulerFault}
    (failed : (scheduler.invoke thread target block frame).1 = .error fault) :
    fault.isDesync = false := by
  have answered : ∀ (scheduler : Scheduler τ α) (reply : Token → HostMessage α) cut,
      (scheduler.answer frame.token reply).1 = .error cut → cut.isDesync = false :=
    fun _ _ _ => answer_fault
  unfold invoke at failed
  dsimp only at failed
  split at failed
  case h_1 =>
    split at failed
    case h_1 cut last result =>
      obtain rfl := Except.error.inj failed
      exact answered _ _ _ (congrArg Prod.fst result)
    case h_2 =>
      obtain rfl := Except.error.inj failed
      rfl
  case h_2 =>
    split at failed
    case isTrue => cases failed
    case isFalse =>
      split at failed
      case h_1 cut last result =>
        obtain rfl := Except.error.inj failed
        exact answered _ _ _ (congrArg Prod.fst result)
      case h_2 => cases failed

/-- Invoking a block for a live thread. -/
theorem invoke_advances {scheduler : Scheduler τ α} {thread : ThreadId} (target : TargetId)
    (block : Block) (frame : Frame α) (live : scheduler.isLive thread = true) :
    Advances scheduler (scheduler.invoke thread target block frame).2 := by
  have noted : Advances scheduler (scheduler.noteInvocation thread target frame) :=
    .note ⟨rfl, rfl, .refl _⟩ rfl rfl live
  have works := (Block.run_works block frame.args
    ⟨scheduler.noteInvocation thread target frame, thread, target, frame, false⟩).acts.advances
  unfold invoke
  dsimp only
  split
  case h_1 fault left result =>
    rw [result] at works
    have answers := answer_advances left.scheduler frame.token (.failure · fault.message)
    split
    case h_1 cut last answered =>
      rw [answered] at answers
      exact (noted.trans works).trans answers
    case h_2 last answered =>
      rw [answered] at answers
      exact (noted.trans works).trans answers
  case h_2 value left result =>
    rw [result] at works
    split
    case isTrue => exact (noted.trans works).trans (suspend_advances _ thread left.frame)
    case isFalse =>
      have delivered : Advances left.scheduler (left.scheduler.deliver thread value) :=
        .still ⟨rfl, rfl, .refl _⟩ rfl rfl
      have answers := answer_advances (left.scheduler.deliver thread value) frame.token
        (.result · value)
      split
      case h_1 cut last answered =>
        rw [answered] at answers
        exact ((noted.trans works).trans delivered).trans answers
      case h_2 last answered =>
        rw [answered] at answers
        exact ((noted.trans works).trans delivered).trans answers

/-- To call a block is a step forward, whoever calls it. -/
theorem call_advances (scheduler : Scheduler τ α) (thread : ThreadId) (opcode : String)
    (args : Args α) (token : Option Token) :
    Advances scheduler (scheduler.call thread opcode args token).2 := by
  unfold call
  split
  case h_1 => exact .refl scheduler
  case h_2 running found =>
    split
    case isTrue => exact .refl scheduler
    case isFalse active =>
      split
      case h_1 => exact .refl scheduler
      case h_2 =>
        refine invoke_advances running.target _ _ ?_
        rw [isLive_of_find found]
        simpa using active

end Executing

section Ticking

/-- To sweep the ended threads away is a step forward. -/
theorem sweep_advances (scheduler : Scheduler τ α) : Advances scheduler scheduler.sweep.2 :=
  .remove (fun _ thread => thread.isActive) ⟨rfl, rfl, .refl _⟩ rfl rfl

/-- Word that a thread ended is handled by a step forward. -/
theorem handleEnded_advances (scheduler : Scheduler τ α) (report : StepReport)
    (thread : ThreadId) : Advances scheduler (scheduler.handleEnded report thread).2 := by
  rw [handleEnded_left]
  exact endThread_advances scheduler thread

/-- Word that a thread failed is handled by a step forward. -/
theorem handleScriptError_advances (scheduler : Scheduler τ α) (report : StepReport)
    (thread : Option ThreadId) (message : String) :
    Advances scheduler (scheduler.handleScriptError report thread message).2 := by
  have counted : Advances scheduler { scheduler with
      stats := { scheduler.stats with scriptErrors := scheduler.stats.scriptErrors + 1 } } :=
    .still ⟨rfl, rfl, .refl _⟩ rfl rfl
  unfold handleScriptError
  dsimp only
  split
  case h_1 => exact counted
  case h_2 id =>
    split
    case isTrue configured =>
      refine counted.trans (retire_advances _ id fun orderly => ?_)
      have present := (Bool.and_eq_true_iff.mp configured).2
      rw [OrderedMap.contains_eq_isSome, Option.isSome_iff_exists] at present
      obtain ⟨running, found⟩ := present
      exact orderly.issued id running found
    case isFalse => exact counted

/-- A thread gives way to one of its name that has ended if it has. -/
theorem exchange_advances {scheduler : Scheduler τ α} {id : ThreadId} {thread other : Thread α}
    (found : scheduler.threads.find? id = some thread) (named : other.id = thread.id)
    (kept : other.isDone = thread.isDone) :
    Advances scheduler
      { scheduler with threads := scheduler.threads.modify id fun _ => other } := by
  refine .modify id (fun _ => other) ⟨rfl, rfl, .refl _⟩ rfl rfl ?_ ?_
  all_goals
    intro present same
    obtain rfl : thread = present := Option.some.inj (found.symm.trans same)
  · exact named
  · exact kept

/-- A thread that is woken keeps its name and its end. -/
theorem woken_same {thread woken : Thread α} {frame : Option (Frame α)}
    (popped : (thread.setStatus .running).popBlock = (frame, woken)) :
    woken.id = thread.id ∧ woken.isDone = thread.isDone := by
  have sameId := (thread.setStatus .running).popBlock_id.trans (thread.setStatus_id .running)
  have sameEnd := (thread.setStatus .running).popBlock_isDone.trans
    (thread.setStatus_isDone (by decide))
  rw [popped] at sameId sameEnd
  exact ⟨sameId, sameEnd⟩

/-- A thread is woken and gives up its top frame. -/
theorem woken_advances {scheduler : Scheduler τ α} {id : ThreadId} {thread woken : Thread α}
    {frame : Option (Frame α)} (found : scheduler.threads.find? id = some thread)
    (popped : (thread.setStatus .running).popBlock = (frame, woken)) :
    Advances scheduler { scheduler with threads := scheduler.threads.modify id fun _ => woken } :=
  exchange_advances found (woken_same popped).1 (woken_same popped).2

/-- A thread that is woken is live if it was. -/
theorem woken_isLive {scheduler : Scheduler τ α} {id : ThreadId} {thread woken : Thread α}
    {frame : Option (Frame α)} (found : scheduler.threads.find? id = some thread)
    (popped : (thread.setStatus .running).popBlock = (frame, woken)) :
    isLive { scheduler with threads := scheduler.threads.modify id fun _ => woken } id =
      !thread.isDone := by
  have woke : (scheduler.threads.modify id fun _ => woken).find? id = some woken := by
    rw [OrderedMap.find_modify, if_pos rfl, found]
    rfl
  rw [isLive_of_find woke, (woken_same popped).2]

variable [Scalar α] [Transport τ α]

/-- A thread is woken before its block is invoked, and it is live then. -/
theorem resume_advances (scheduler : Scheduler τ α) (report : StepReport) (id : ThreadId) :
    Advances scheduler (scheduler.resume report id).2 := by
  unfold resume
  split
  case h_1 => exact .refl scheduler
  case h_2 thread found =>
    split
    case isTrue => exact .refl scheduler
    case isFalse yielding =>
      have active : thread.isDone = false := by
        rw [Thread.isDone, Decidable.not_not.mp yielding]
        rfl
      cases popped : (thread.setStatus .running).popBlock with
      | mk frame woken =>
      have takes := woken_advances found popped
      have live := woken_isLive found popped
      rw [active] at live
      dsimp only
      split
      case h_1 => exact takes
      case h_2 frame =>
        split
        case h_1 => exact takes
        case h_2 block known =>
          have invokes := invoke_advances thread.target block frame live
          split
          case h_1 outcome left result =>
            rw [result] at invokes
            exact takes.trans invokes
          case h_2 fault left result =>
            rw [result] at invokes
            exact takes.trans invokes

/-- The resumption of several threads is a step forward. -/
theorem resumeAll_advances (ids : List ThreadId) (scheduler : Scheduler τ α)
    (report : StepReport) : Advances scheduler (scheduler.resumeAll report ids).2 := by
  induction ids generalizing scheduler report with
  | nil => exact .refl scheduler
  | cons first rest inductionHypothesis =>
    exact (resume_advances scheduler report first).trans (inductionHypothesis _ _)

/-- A call of the worker is handled by a step forward. -/
theorem handleCall_advances (scheduler : Scheduler τ α) (report : StepReport)
    (thread : ThreadId) (opcode : String) (args : Args α) (token : Token) :
    Advances scheduler (scheduler.handleCall report thread opcode args token).2 := by
  have calls := call_advances scheduler thread opcode args (some token)
  unfold handleCall
  split
  case h_1 outcome left result =>
    rw [result] at calls
    exact calls
  case h_2 fault left result =>
    rw [result] at calls
    split
    case isTrue => exact calls.trans (bridge_advances left _)
    case isFalse => exact calls

/-- Whatever the worker says, dealing with it advances. -/
theorem handleMessage_advances (scheduler : Scheduler τ α) (report : StepReport)
    (message : WorkerMessage α) :
    Advances scheduler (scheduler.handleMessage report message).2 := by
  cases message with
  | status status => exact (Quiet.ofEmit scheduler (.workerStatus status)).advances
  | call target thread opcode args token =>
    exact handleCall_advances scheduler report thread opcode args token
  | ended thread => exact handleEnded_advances scheduler report thread
  | scriptError thread message => exact handleScriptError_advances scheduler report thread message
  | registered token refusal => exact .refl scheduler
  | started token threads => exact .refl scheduler

/-- Handling the messages of a tick is a step forward, by induction on the budget. -/
theorem drain_advances (budget : Nat) (scheduler : Scheduler τ α) (report : StepReport) :
    Advances scheduler (drain budget scheduler report).2 := by
  induction budget generalizing scheduler report with
  | zero => exact .refl scheduler
  | succ budget inductionHypothesis =>
    unfold drain
    split
    case h_1 => exact bridge_advances scheduler _
    case h_2 => exact bridge_advances scheduler _
    case h_3 message bridge received =>
      have handles := handleMessage_advances { scheduler with bridge := bridge }
        { report with messages := report.messages + 1 } message
      exact ((bridge_advances scheduler bridge).trans handles).trans (inductionHypothesis _ _)

/-- A tick sweeps, and whatever follows advances. -/
theorem step_sweeps (scheduler : Scheduler τ α) :
    ∃ begun : Scheduler τ α, begun.threads = scheduler.threads ∧ Advances scheduler begun ∧
      Advances begun.sweep.2 scheduler.step.2 := by
  refine ⟨{ scheduler with
    stage := scheduler.stage.takeRedraw.2
    stats := { scheduler.stats with ticks := scheduler.stats.ticks + 1 } }, rfl,
    .still ⟨rfl, rfl, .refl _⟩ rfl rfl, ?_⟩
  unfold step
  dsimp only
  generalize { scheduler with
    stage := scheduler.stage.takeRedraw.2
    stats := { scheduler.stats with ticks := scheduler.stats.ticks + 1 } } = begun
  have resumes := resumeAll_advances begun.sweep.2.yieldedThreads begun.sweep.2
    ⟨begun.sweep.2.stats.ticks, scheduler.stage.takeRedraw.1, begun.sweep.1, 0, 0, [], []⟩
  generalize begun.sweep.2.resumeAll
    ⟨begun.sweep.2.stats.ticks, scheduler.stage.takeRedraw.1, begun.sweep.1, 0, 0, [], []⟩
    begun.sweep.2.yieldedThreads = resumed at resumes
  have drains := drain_advances resumed.2.config.maxMessagesPerTick resumed.2 resumed.1
  exact (resumes.trans drains).trans (.still ⟨rfl, rfl, .refl _⟩ rfl rfl)

/-- A tick advances. -/
theorem step_advances (scheduler : Scheduler τ α) : Advances scheduler scheduler.step.2 := by
  obtain ⟨begun, -, begins, follows⟩ := step_sweeps scheduler
  exact (begins.trans (sweep_advances begun)).trans follows

/-- A thread that ended before a tick is gone behind it. -/
theorem step_evicts {scheduler : Scheduler τ α} {id : ThreadId} (orderly : Orderly scheduler)
    (issued : scheduler.ids.Issued id.text) (ended : scheduler.isLive id = false) :
    scheduler.step.2.threads.find? id = none := by
  obtain ⟨begun, same, begins, follows⟩ := step_sweeps scheduler
  obtain ⟨begunOrderly, begunLater⟩ := begins orderly
  obtain ⟨sweptOrderly, sweptLater⟩ := sweep_advances begun begunOrderly
  refine (follows sweptOrderly).2.absent id ?_ ?_
  · exact sweptLater.ids.issued_of (begunLater.ids.issued_of issued)
  · change (begun.threads.filter fun _ thread => thread.isActive).find? id = none
    rw [OrderedMap.find_filter, same, Option.filter_eq_none_iff]
    intro thread found active
    rw [isLive_of_find found] at ended
    rw [Thread.isActive, ended] at active
    cases active

end Ticking

variable [Scalar α]

/-- A scheduler without threads is in order. -/
theorem fresh_orderly (config : SchedulerConfig) (registry : Registry) (transport : τ)
    (motors : Motors (LoopbackLink α) α) {ids : IdSource} (distinct : ids.Distinct) :
    Orderly (fresh config registry transport ids motors) where
  distinct := distinct
  keyed _ _ found := by cases found
  issued _ _ found := by cases found
  recorded _ member := by cases member
  ended _ member := by cases member
  marked _ _ found := by cases found
  ordered := .nil

variable [Transport τ α] {scheduler : Scheduler τ α}

/-- Every operation of a host advances. -/
theorem perform_advances (scheduler : Scheduler τ α) (operation : Operation τ α) :
    Advances scheduler (scheduler.perform operation) := by
  cases operation with
  | addTarget target => exact (addTarget_mild scheduler target).toQuiet.advances
  | attachRenderer => exact .still ⟨rfl, rfl, .refl _⟩ rfl rfl
  | openBackend url => exact openBackend_advances scheduler url
  | loadScripts batch => exact loadScripts_advances scheduler batch
  | runBatch batch => exact runBatch_advances scheduler batch
  | startHats hat filter => exact startHats_advances scheduler hat filter
  | greenFlag => exact (Tames.greenFlag scheduler).acts.advances
  | stopAll => exact stopAll_advances scheduler
  | stopForTarget target keep => exact (Tames.stopForTarget scheduler target keep).acts.advances
  | stopThread thread => exact stopThread_advances scheduler thread
  | makeClone source => exact (Tames.makeClone scheduler source).acts.advances
  | disposeClone target => exact (Tames.disposeClone scheduler target).acts.advances
  | postData device data => exact (Tames.postData scheduler device data).acts.advances
  | registerThread target hasListener =>
    exact adopt_advances scheduler (fun id => .plain id target hasListener) (fun _ => rfl)
      (fun _ => rfl)
  | endThread thread => exact endThread_advances scheduler thread
  | execute thread opcode args token => exact call_advances scheduler thread opcode args token
  | step => exact step_advances scheduler
  | emit notice => exact (Quiet.ofEmit scheduler notice).advances
  | start => exact (start_mild scheduler).toQuiet.advances
  | quit => exact quit_advances scheduler
  | dispose => exact (Tames.dispose scheduler).acts.advances
  | changeStage change => exact .still ⟨rfl, rfl, .refl _⟩ rfl rfl
  | changeDevices change => exact .still ⟨rfl, rfl, .refl _⟩ rfl rfl
  | changeBridge change => exact .still ⟨rfl, rfl, .refl _⟩ rfl rfl

/-- A run is a step forward. -/
theorem run_advances (operations : List (Operation τ α)) (scheduler : Scheduler τ α) :
    Advances scheduler (scheduler.run operations) := by
  induction operations generalizing scheduler with
  | nil => exact .refl scheduler
  | cons first rest inductionHypothesis =>
    exact (perform_advances scheduler first).trans (inductionHypothesis _)

end Scheduler

end SpriteMachine
