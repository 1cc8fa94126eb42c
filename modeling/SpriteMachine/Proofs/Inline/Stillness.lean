import SpriteMachine.Proofs.Inline.Reload
import SpriteMachine.Proofs.Link.Interleaving
import SpriteMachine.Proofs.Scheduler.Idle
import SpriteMachine.Proofs.Scheduler.Scenery

/-!
# Stillness behind a stop

Stopping everything leaves originals without bubbles and effects, threads that have ended,
and a worker that neither runs nor awaits anything, whether the host asks for it between two
ticks or a block does in the middle of one. While nothing is started anew, it stays so: what
the worker sent before it was stopped finds nobody, and whoever it names was retired.
-/

namespace SpriteMachine

variable {α : Type}

namespace Inline

/-- A worker on the same thread as a link: nothing is ever on its way to it. -/
def link (state : Inline α) : Link α := ⟨state.worker, [], state.outbox⟩

variable [Scalar α]

/-- Looking at deadlines is a move of the worker. -/
theorem refill_moves (state : Inline α) : Link.Moves state.link state.refill.link := by
  unfold refill
  split
  case isTrue drained =>
    rw [List.isEmpty_iff] at drained
    have looks := Link.Move.look state.moment state.worker [] state.outbox
    rw [drained] at looks
    rw [link, drained]
    exact .single looks
  case isFalse => exact .refl

/-- What is received inline may be heard over a link. -/
theorem receive_hears (state : Inline α) :
    Link.Hears state.link state.receive.1 state.receive.2.link := by
  refine ⟨state.refill.link, state.receive.2.link, state.refill_moves, ?_, .refl⟩
  unfold receive
  dsimp only
  split
  case h_1 => rfl
  case h_2 message rest filled => rw [Link.Delivers, link, link, filled]

/-- The worker handles whatever it is sent at once. -/
theorem relays_link : Relays (link : Inline α → Link α) where
  send message state :=
    ⟨state.link, .refl, .single (.handle state.moment state.worker message [] state.outbox)⟩
  receive := receive_hears
  await _ := receive_hears

omit [Scalar α] in
/-- A worker on the same thread is never cut off. -/
theorem receive_connected (state : Inline α) : state.receive.1 ≠ .disconnected := by
  unfold receive
  dsimp only
  split <;> exact fun same => by cases same

end Inline

/-- What a host does when it loads, starts and stops scripts, makes and removes clones, posts
data and ticks. It ends no thread behind the scheduler's back, changes the stage by the
stage's own operations, and leaves the bridge to the scheduler; the wall clock may show
anything. -/
def Operation.IsManaged : Operation (Inline α) α → Prop
  | .endThread _ => False
  | .quit => False
  | .changeStage change => ∀ stage, Stage.Changes stage (change stage)
  | .changeBridge change => ∃ now, change =
      fun bridge => { bridge with transport := { bridge.transport with moment := now } }
  | _ => True

/-- What the host manages keeps the stage. -/
theorem Operation.IsManaged.keepsStage {operation : Operation (Inline α) α}
    (managed : operation.IsManaged) : operation.KeepsStage := by
  cases operation with
  | changeStage change => exact managed
  | _ => exact trivial

/-- What the host manages is graceful on the inline link. -/
theorem Operation.IsManaged.graceful [Scalar α] {operation : Operation (Inline α) α}
    (managed : operation.IsManaged) : operation.IsGraceful Inline.link := by
  cases operation with
  | endThread thread => exact managed
  | quit => exact managed
  | changeBridge change =>
    obtain ⟨now, rfl⟩ := managed
    exact fun bridge => ⟨rfl, .refl⟩
  | _ => exact trivial

namespace Scheduler

variable {before after scheduler : Scheduler (Inline α) α}

/-- Everything stands still: originals without bubbles and effects, threads on originals that
have ended, no reported values, and a worker that neither runs nor awaits anything. -/
structure Still (scheduler : Scheduler (Inline α) α) : Prop where
  originals : ∀ id target, scheduler.stage.target? id = some target → target.isClone = false
  uncounted : scheduler.stage.cloneCount = 0
  bound : ∀ id thread, scheduler.threads.find? id = some thread →
    ∃ target, scheduler.stage.target? thread.target = some target ∧ target.isClone = false
  ended : ∀ id thread, scheduler.threads.find? id = some thread → thread.isDone = true
  unreported : ∀ id, scheduler.returns.find? id = none
  plain : ∀ id target, scheduler.stage.target? id = some target →
    target.bubble = none ∧ target.effects = .empty
  idle : ∀ id, scheduler.worker.running.find? id = none
  unawaited : ∀ token, scheduler.worker.pending.table.find? token = none

/-- Only threads, stage, reported values and worker matter. -/
theorem Still.congr (still : Still before) (threads : after.threads = before.threads)
    (stage : after.stage = before.stage) (returns : after.returns = before.returns)
    (worker : after.worker = before.worker) : Still after where
  originals := by rw [stage]; exact still.originals
  uncounted := by rw [stage]; exact still.uncounted
  bound := by rw [threads, stage]; exact still.bound
  ended := by rw [threads]; exact still.ended
  unreported := by rw [returns]; exact still.unreported
  plain := by rw [stage]; exact still.plain
  idle := by rw [worker]; exact still.idle
  unawaited := by rw [worker]; exact still.unawaited

section Stopping

variable [Scalar α]

/-- Everything stands still behind a stop. -/
theorem Stops.still (stops : Stops before after) (keyed : before.stage.Keyed)
    (counted : after.stage.Counted) : Still after := by
  have halted : after.worker = before.worker.halt.1 := by
    rw [worker, stops.bridge, Bridge.post_inline]
    rfl
  have originals : ∀ id target, after.stage.target? id = some target → target.isClone = false := by
    intro id target found
    rw [stops.targets keyed] at found
    simpa using (Option.filter_eq_some_iff.mp found).2
  refine ⟨originals, counted.none originals, fun id thread found => ?_, fun id thread found =>
    stops.ended found, fun id => by rw [stops.returns]; rfl, fun id target found => ?_,
    fun id => by rw [halted]; rfl, fun token => by rw [halted]; rfl⟩
  · rw [stops.threads] at found
    obtain ⟨-, kept⟩ := Option.filter_eq_some_iff.mp found
    cases present : before.stage.target? thread.target with
    | none =>
      rw [present] at kept
      cases kept
    | some target =>
      rw [present, Option.any_some] at kept
      have original : target.isClone = false := by simpa using kept
      refine ⟨target.unadorned, ?_, original⟩
      rw [stops.targets keyed, present]
      exact Option.filter_eq_some_iff.mpr ⟨rfl, kept⟩
  · rw [stops.targets keyed] at found
    obtain ⟨kept, -⟩ := Option.filter_eq_some_iff.mp found
    obtain ⟨earlier, -, rfl⟩ := Option.map_eq_some_iff.mp kept
    exact ⟨rfl, rfl⟩

/-- A block that stops everything completes, and its result is given out. -/
theorem invoke_stopAll {τ : Type} [Transport τ α] {taken : Scheduler τ α} (id : ThreadId)
    (target : TargetId) {frame : Frame α} (option : frame.args.text "STOP_OPTION" = "all") :
    (taken.invoke id target (.control .stop) frame).2 =
      (((taken.noteInvocation id target frame).stopAll.deliver id .null).answer frame.token
        (.result · .null)).2 := by
  have ran : (Block.control .stop).run frame.args
      ⟨taken.noteInvocation id target frame, id, target, frame, false⟩ =
        (.ok .null,
          ⟨(taken.noteInvocation id target frame).stopAll, id, target, frame, false⟩) := by
    unfold Block.run ControlBlock.run ControlBlock.runStop
    rw [option]
    rfl
  rw [invoke_completed ran rfl]

/-- A result for a call that is not awaited has no effect in the worker. -/
theorem answer_unawaited (scheduler : Scheduler (Inline α) α)
    (unawaited : ∀ token, scheduler.worker.pending.table.find? token = none)
    (token : Option Token) (value : Value α) :
    (scheduler.answer token (.result · value)).2.worker = scheduler.worker := by
  cases token with
  | none => rfl
  | some token =>
    have ignored : scheduler.worker.resume scheduler.bridge.transport.moment token value =
        (scheduler.worker, []) := by
      unfold ScriptWorker.resume PendingTokens.resolve
      rw [unawaited]
      rfl
    rw [answer_some, worker, Bridge.post_inline]
    exact congrArg Prod.fst ignored

/-- Everything is stopped: the host asks for it, or a block does, between two ticks or in the
middle of one. -/
inductive StopsAll (now : Scheduler (Inline α) α) : Scheduler (Inline α) α → Prop where
  | asked : StopsAll now now.stopAll
  | invoked {taken : Scheduler (Inline α) α} {id : ThreadId} {target : TargetId} {frame : Frame α}
      (takes : TakesUp now id target (.control .stop) frame taken)
      (option : frame.args.text "STOP_OPTION" = "all") :
      StopsAll now (taken.invoke id target (.control .stop) frame).2

/-- A stop of everything leads from one moment to the next. -/
theorem StopsAll.turn (stops : StopsAll before after) :
    Turn (fun _ operation => operation.IsManaged) before after := by
  cases stops with
  | asked => exact .operate before .stopAll trivial (by simp)
  | invoked takes option => exact takes.turn fun _ _ _ => trivial

/-- Everything stands still, whoever stopped it. -/
theorem StopsAll.still (stops : StopsAll before after) (keyed : before.stage.Keyed)
    (counted : after.stage.Counted) : Still after := by
  cases stops with
  | asked => exact (stopAll_stops before).still keyed counted
  | @invoked taken id target frame takes option =>
    rw [invoke_stopAll id target option] at counted ⊢
    rw [← takes.stage] at keyed
    have stops := stopAll_stops (taken.noteInvocation id target frame)
    generalize (taken.noteInvocation id target frame).stopAll = stopped at *
    obtain ⟨bridge, same⟩ := answer_bridge (stopped.deliver id .null) frame.token (.result · .null)
    have stage : ((stopped.deliver id .null).answer frame.token (.result · .null)).2.stage =
        stopped.stage := by rw [same]; rfl
    have still := stops.still keyed (stage ▸ counted)
    refine still.congr (by rw [same]; rfl) stage (by rw [same]; rfl) ?_
    exact answer_unawaited (stopped.deliver id .null) still.unawaited frame.token .null

end Stopping

section Waiting

variable [Scalar α]

/-- What allowed operations leave in concord is so at every later moment. -/
theorem Moments.concord {allowed : Scheduler (Inline α) α → Operation (Inline α) α → Prop}
    (graceful : ∀ scheduler operation, allowed scheduler operation →
      operation.IsGraceful Inline.link)
    (moments : Moments allowed before after) (concord : Concord Inline.link before) :
    Concord Inline.link after :=
  moments.induct (Concord Inline.link)
    (fun scheduler operation permitted concord =>
      concord.perform Inline.relays_link (graceful scheduler operation permitted))
    (fun _ _ _ beats concord => (beats.calm Inline.relays_link (concord.calm none)).concord) concord

/-- The host stays in concord over a phase of a tick. -/
theorem Concord.phase (concord : Concord Inline.link before) (phase : Phase before after) :
    Concord Inline.link after := by
  obtain ⟨faults, beats⟩ := phase.beats
  exact (beats.calm Inline.relays_link (concord.calm none)).concord

/-- The inline link is never cut. -/
theorem next_connected (scheduler : Scheduler (Inline α) α) {bridge : Bridge (Inline α) α} :
    scheduler.bridge.next ≠ (.disconnected, bridge) := by
  unfold Bridge.next
  split
  case h_1 => exact fun same => by cases (Prod.mk.inj same).1
  case h_2 =>
    exact fun same => Inline.receive_connected scheduler.bridge.transport (Prod.mk.inj same).1

/-- Nothing happens to threads and chronicle. -/
structure Ignores (before after : Scheduler (Inline α) α) : Prop where
  config : after.config = before.config
  threads : after.threads = before.threads
  chronicle : after.chronicle = before.chronicle

omit [Scalar α] in
/-- Where nothing happens to the threads there is room as before. -/
theorem Ignores.room (ignores : Ignores before after) (room : before.HasRoom) : after.HasRoom := by
  rw [HasRoom, retirees, ignores.chronicle, ignores.config]
  exact room

/-- A message about a thread that is gone is ignored, and nobody reports it. -/
theorem handleMessage_deserted (concord : Concord Inline.link scheduler) (room : scheduler.HasRoom)
    (deserted : ∀ id, scheduler.threads.find? id = none) {message : WorkerMessage α}
    {bridge : Bridge (Inline α) α} (received : scheduler.bridge.next = (.message message, bridge))
    (report : StepReport) :
    (handleMessage { scheduler with bridge := bridge } report message).1.faults = report.faults ∧
      Ignores scheduler (handleMessage { scheduler with bridge := bridge } report message).2 := by
  have heard := concord.hears Inline.relays_link received
  have excused : ∀ id, message.thread? = some id →
      isExcused { scheduler with bridge := bridge } (.notFound id) = true := fun id named =>
    heard.concord.excused room (heard.tracked id named) (isLive_of_absent (deserted id))
  cases message with
  | status status => exact ⟨rfl, rfl, rfl, rfl⟩
  | call target id opcode args token =>
    have refused : call { scheduler with bridge := bridge } id opcode args (some token) =
        (.error (.notFound id), { scheduler with bridge := bridge }) := by
      simp only [call, deserted id]
    change (handleCall _ _ _ _ _ _).1.faults = _ ∧ Ignores _ (handleCall _ _ _ _ _ _).2
    unfold handleCall
    rw [refused]
    dsimp only
    have desync : (SchedulerFault.notFound id).isDesync = true := rfl
    rw [if_pos desync, if_pos (excused id rfl)]
    exact ⟨rfl, rfl, rfl, rfl⟩
  | ended id =>
    change (handleEnded _ _ _).1.faults = _ ∧ Ignores _ (handleEnded _ _ _).2
    have missing : endThread { scheduler with bridge := bridge } id =
        (.error (.notFound id), { scheduler with bridge := bridge }) :=
      endThread_missing (deserted id)
    unfold handleEnded
    rw [missing]
    dsimp only
    rw [if_pos (excused id rfl)]
    exact ⟨rfl, rfl, rfl, rfl⟩
  | scriptError id reason =>
    change (handleScriptError _ _ _ _).1.faults = _ ∧ Ignores _ (handleScriptError _ _ _ _).2
    unfold handleScriptError
    dsimp only
    split
    case h_1 => exact ⟨rfl, rfl, rfl, rfl⟩
    case h_2 id =>
      rw [OrderedMap.contains_eq_isSome, deserted id, Option.isSome_none, Bool.and_false]
      exact ⟨rfl, rfl, rfl, rfl⟩
  | registered token refusal => exact ⟨rfl, rfl, rfl, rfl⟩
  | started token threads => exact ⟨rfl, rfl, rfl, rfl⟩

/-- Whatever is still queued is ignored. -/
theorem drain_deserted (budget : Nat) (concord : Concord Inline.link scheduler)
    (room : scheduler.HasRoom) (deserted : ∀ id, scheduler.threads.find? id = none)
    (report : StepReport) : (drain budget scheduler report).1.faults = report.faults := by
  induction budget generalizing scheduler report with
  | zero => rfl
  | succ budget inductionHypothesis =>
    unfold drain
    split
    case h_1 => rfl
    case h_2 bridge looked => exact absurd looked (next_connected scheduler)
    case h_3 message bridge received =>
      obtain ⟨faults, ignores⟩ := handleMessage_deserted concord room deserted received
        { report with messages := report.messages + 1 }
      have later := concord.phase (.receive received
        { report with messages := report.messages + 1 })
      have gone : ∀ id, (handleMessage { scheduler with bridge := bridge }
          { report with messages := report.messages + 1 } message).2.threads.find? id = none := by
        rw [ignores.threads]
        exact deserted
      exact (inductionHypothesis later (ignores.room room) gone _).trans faults

omit [Scalar α] in
/-- The sweep of a tick removes every thread when all have ended. -/
theorem swept_deserted
    (ended : ∀ id thread, scheduler.threads.find? id = some thread → thread.isDone = true)
    (id : ThreadId) : scheduler.beginTick.sweep.2.threads.find? id = none := by
  change (scheduler.threads.filter fun _ thread => thread.isActive).find? id = none
  rw [OrderedMap.find_filter]
  cases found : scheduler.threads.find? id with
  | none => rfl
  | some thread => rw [Option.filter_some, Thread.isActive, ended id thread found]; rfl

/-- A tick without live threads resumes nobody. -/
theorem resumeTick_deserted
    (ended : ∀ id thread, scheduler.threads.find? id = some thread → thread.isDone = true) :
    scheduler.resumeTick.1.faults = [] ∧ scheduler.resumeTick.2 = scheduler.beginTick.sweep.2 := by
  have nobody : scheduler.beginTick.sweep.2.yieldedThreads = [] := by
    rw [yieldedThreads, List.map_eq_nil_iff, List.filter_eq_nil_iff]
    intro thread member
    obtain ⟨id, found⟩ := OrderedMap.mem_values_iff.mp member
    rw [swept_deserted ended] at found
    cases found
  rw [resumeTick, nobody]
  exact ⟨rfl, rfl⟩

/-- A tick without live threads reports no fault. -/
theorem step_deserted (concord : Concord Inline.link scheduler) (room : scheduler.HasRoom)
    (ended : ∀ id thread, scheduler.threads.find? id = some thread → thread.isDone = true) :
    scheduler.step.1.faults = [] := by
  obtain ⟨faults, resumed⟩ := resumeTick_deserted ended
  have swept := (concord.phase (.begin scheduler)).phase (.sweep _)
  rw [step_eq, drainTick, resumed]
  exact (drain_deserted _ swept room (swept_deserted ended) _).trans faults

/-- The host starts nothing: whoever is live behind an operation was live before. -/
def StartsNothing (scheduler : Scheduler (Inline α) α) (operation : Operation (Inline α) α) :
    Prop :=
  ∀ id, (scheduler.perform operation).isLive id = true → scheduler.isLive id = true

/-- What a stopped scheduler does later: no block was invoked since the stop, and a tick
invokes none, reports no fault and leaves no thread. -/
structure StaysStill (stopped now : Scheduler (Inline α) α) : Prop where
  silent : ∃ recent, now.chronicle = recent ++ stopped.chronicle ∧
    ∀ deed ∈ recent, ∀ id, ¬ deed.Invokes id
  unmoved : ∃ recent, now.step.2.chronicle = recent ++ stopped.chronicle ∧
    ∀ deed ∈ recent, ∀ id, ¬ deed.Invokes id
  faultless : now.HasRoom → now.step.1.faults = []
  deserted : ∀ id, now.step.2.threads.find? id = none

/-- No thread is live, and no block was invoked since a stop. -/
structure Dormant (stopped now : Scheduler (Inline α) α) : Prop where
  dead : ∀ id, now.isLive id = false
  hushed : Hushed stopped now

/-- Where no thread is live, none is taken up. -/
theorem Invokes.live {now : Scheduler (Inline α) α} (invokes : Invokes now after) :
    ∃ id, now.isLive id = true := by
  obtain ⟨id, target, block, frame, taken, takes, -⟩ := invokes
  exact ⟨id, takes.live⟩

/-- A dormant scheduler stays so while nothing is started. -/
theorem Dormant.turn {stopped : Scheduler (Inline α) α} (dormant : Dormant stopped before)
    (turn : Turn (fun scheduler operation => scheduler.StartsNothing operation) before after) :
    Dormant stopped after := by
  have uninvoked : ¬ Invokes before after := by
    intro invokes
    obtain ⟨id, live⟩ := invokes.live
    rw [dormant.dead id] at live
    cases live
  refine ⟨fun id => ?_, dormant.hushed.trans (turn.cases.resolve_left uninvoked).toHushed⟩
  rw [Bool.eq_false_iff]
  intro live
  cases turn with
  | operate operation permitted between =>
    have lived := permitted id live
    rw [dormant.dead id] at lived
    cases lived
  | phase phase =>
    obtain ⟨-, thins⟩ := phase.cases.resolve_left uninvoked
    obtain ⟨thread, found, running⟩ := find_of_isLive live
    obtain ⟨earlier, present, leads⟩ := thins.threads id thread found
    have lived := isLive_of_find present
    rw [dormant.dead id] at lived
    have active := leads.active (by rw [Thread.isActive, running]; rfl)
    rw [Thread.isActive, ← lived] at active
    cases active

/-- Nothing wakes up over moments that start nothing. -/
theorem Dormant.moments {stopped : Scheduler (Inline α) α} (dormant : Dormant stopped before)
    (moments :
      Moments (fun scheduler operation => scheduler.StartsNothing operation) before after) :
    Dormant stopped after := by
  induction moments with
  | refl => exact dormant
  | tail _ turn inductionHypothesis => exact inductionHypothesis.turn turn

omit [Scalar α] in
/-- Whoever is not live is not found, or has ended. -/
theorem Dormant.ended {stopped now : Scheduler (Inline α) α} (dormant : Dormant stopped now)
    (id : ThreadId) (thread : Thread α) (found : now.threads.find? id = some thread) :
    thread.isDone = true := by
  have dead := dormant.dead id
  rw [isLive_of_find found] at dead
  simpa using dead

/-- Where no thread is found, no phase of a tick brings one. -/
theorem deserted_moments (moments : Moments (fun _ _ => False) before after)
    (deserted : ∀ id, before.threads.find? id = none) : ∀ id, after.threads.find? id = none := by
  induction moments with
  | refl => exact deserted
  | tail _ turn inductionHypothesis =>
    cases turn with
    | operate operation permitted between => exact permitted.elim
    | phase phase =>
      rcases phase.cases with invokes | ⟨-, thins⟩
      · obtain ⟨id, live⟩ := invokes.live
        rw [isLive_of_absent (inductionHypothesis id)] at live
        cases live
      · intro id
        refine Option.eq_none_iff_forall_ne_some.mpr fun thread found => ?_
        obtain ⟨earlier, present, -⟩ := thins.threads id thread found
        rw [inductionHypothesis id] at present
        cases present

/-- A dormant scheduler in concord with its worker stays still. -/
theorem Dormant.staysStill {stopped now : Scheduler (Inline α) α} (dormant : Dormant stopped now)
    (concord : Concord Inline.link now) : StaysStill stopped now := by
  have ticked := dormant.moments (step_moments now)
  exact ⟨dormant.hushed.chronicle, ticked.hushed.chronicle,
    fun room => step_deserted concord room dormant.ended,
    deserted_moments (swept_moments now) (swept_deserted dormant.ended)⟩

end Waiting

/-- Stopping everything quiesces the whole system. Beside an inline worker, at any moment that
operations and ticks lead to, whether the host asks for the stop or a block does: everything
stands still, and while nothing is started anew no block is invoked any more, no tick reports
a fault as long as the retired threads are remembered, and from the next tick on no thread is
there. -/
theorem stop_all_quiesces [Scalar α] (config : SchedulerConfig) (registry : Registry)
    (motors : Motors (LoopbackLink α) α) {ids : IdSource} (distinct : ids.Distinct)
    {now stopped : Scheduler (Inline α) α}
    (reached : Moments (fun _ operation => operation.IsManaged)
      (fresh config registry (Inline.idle config.blockTimeout) ids motors) now)
    (stops : StopsAll now stopped) :
    Still stopped ∧ ∀ later, Moments (fun scheduler operation =>
      operation.IsManaged ∧ scheduler.StartsNothing operation) stopped later →
        StaysStill stopped later := by
  have reaches : Moments (fun _ operation => operation.IsManaged)
      (fresh config registry (Inline.idle config.blockTimeout) ids motors) stopped :=
    reached.tail stops.turn
  have idle : (Inline.idle config.blockTimeout : Inline α).link = .idle config.blockTimeout := rfl
  have concord : Concord Inline.link stopped :=
    reaches.concord (fun _ _ managed => managed.graceful)
      (fresh_concord config registry idle motors distinct)
  have stage := reached.changes fun _ _ managed => managed.keepsStage
  have stageLater := reaches.changes fun _ _ managed => managed.keepsStage
  have still := stops.still (stage.keyed (Stage.keyed_empty _))
    (stageLater.counted (Stage.counted_empty _))
  refine ⟨still, fun later moments => ?_⟩
  have dormant : Dormant stopped stopped := by
    refine ⟨fun id => ?_, .refl stopped⟩
    cases found : stopped.threads.find? id with
    | none => exact isLive_of_absent found
    | some thread => rw [isLive_of_find found, still.ended id thread found]; rfl
  have unstarted : Moments (fun scheduler operation => scheduler.StartsNothing operation)
      stopped later := moments.widen fun _ _ both => both.2
  exact (dormant.moments unstarted).staysStill
    (moments.concord (fun _ _ both => both.1.graceful) concord)

/-- A script of a sprite with a clone runs. -/
def crowded : List (Operation (Inline Rat) Rat) :=
  [.addTarget (.sprite ⟨"cat"⟩ "Cat"),
    .loadScripts (.ofList [(⟨"cat"⟩, .ofList [(greenFlagHat, .plain ["looks_show\nlooks_hide"])])]),
    .startHats greenFlagHat .any, .makeClone ⟨"cat"⟩]

/-- A block stops everything on its own thread while a call of this thread is queued. -/
theorem crowded_quiesces :
    let now := standardScheduler.run crowded
    let frame : Frame Rat := .fresh "control_stop" (.ofList [("STOP_OPTION", .text "all")]) none
    let stopped := (now.invoke ⟨"#1"⟩ ⟨"cat"⟩ (.control .stop) frame).2
    now.isLive ⟨"#1"⟩ = true ∧ now.stage.cloneCount = 1 ∧ Still stopped ∧
      StaysStill stopped stopped := by
  intro now frame stopped
  have live : now.isLive ⟨"#1"⟩ = true := by decide +kernel
  have on : (now.threads.find? ⟨"#1"⟩).map Thread.target = some ⟨"cat"⟩ := by decide +kernel
  obtain ⟨thread, found, active⟩ := find_of_isLive live
  rw [found] at on
  have takes : TakesUp now ⟨"#1"⟩ thread.target (.control .stop) frame now :=
    .executed found active (by decide +kernel)
  rw [Option.some.inj on] at takes
  obtain ⟨still, stays⟩ := stop_all_quiesces .standard .standard
    (.atRest .reliable Motors.defaultBackoff : Motors (LoopbackLink Rat) Rat)
    IdSource.numbered_distinct
    (run_moments crowded standardScheduler (by simp [crowded, Operation.IsManaged]))
    (.invoked takes rfl)
  exact ⟨live, by decide +kernel, still, stays stopped .refl⟩

end Scheduler

end SpriteMachine
