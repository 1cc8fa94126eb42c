import Mathlib.Algebra.Order.BigOperators.Group.List
import Mathlib.Algebra.Order.Group.Nat
import SpriteMachine.Proofs.Inline.Brisk
import SpriteMachine.Proofs.Inline.Restart

/-!
# Before the first thread

Until a first hat is started nobody runs in the worker, and the notices that it has sent are
few and counted. The green flag then starts one thread for each of its scripts and leaves a
scheduler that gets on: ahead of it are the notices from before, a call for each statement of
these scripts, the ends of the threads, and the notices that somebody runs and that nobody
does.
-/

namespace SpriteMachine

variable {α : Type}

/-- A notice is about the worker itself: it neither asks nor answers. -/
def WorkerMessage.IsNotice : WorkerMessage α → Prop
  | .status _ => True
  | _ => False

section Noticing

variable {messages : List (WorkerMessage α)}

/-- Notices call no opcode. -/
theorem asks_of_notices (notices : ∀ message ∈ messages, message.IsNotice)
    (allowed : String → Prop) : AsksOnly allowed messages :=
  fun _ _ _ _ _ member => (notices _ member).elim

/-- Notices reply to nothing. -/
theorem replies_of_notices (notices : ∀ message ∈ messages, message.IsNotice) :
    replies messages = [] := by
  refine List.eq_nil_iff_forall_not_mem.mpr fun token member => ?_
  obtain ⟨message, inside, answers⟩ := mem_replies.mp member
  have notice := notices message inside
  cases message with
  | status report => cases answers
  | _ => exact notice.elim

end Noticing

/-! ## The worker -/

namespace Bridge

variable {bridge : Bridge (Inline α) α} {count : Nat}

/-- Nobody runs in a worker that gives up no call, and all it has sent are notices, so many at
most. -/
structure Rests (count : Nat) (bridge : Bridge (Inline α) α) : Prop where
  nobody : bridge.transport.worker.running.entries = []
  untimed : bridge.transport.worker.Untimed
  notices : ∀ message ∈ bridge.backlog ++ bridge.transport.outbox, message.IsNotice
  few : (bridge.backlog ++ bridge.transport.outbox).length ≤ count

/-- A worker that was not told anything. -/
theorem across_rests (timeout : Nat) : (across (Inline.idle none : Inline α) timeout).Rests 0 :=
  ⟨rfl, ⟨rfl, fun _ _ none => by cases none⟩, fun _ none => (List.not_mem_nil none).elim,
    Nat.le_refl 0⟩

/-- Over a bridge that rests no thread runs. -/
theorem Rests.isEmpty (rests : bridge.Rests count) :
    bridge.transport.worker.running.isEmpty = true := by
  rw [OrderedMap.isEmpty, rests.nobody]
  rfl

/-- Over a bridge that rests no reply is under way. -/
theorem Rests.unasked (rests : bridge.Rests count) : replies bridge.transport.outbox = [] :=
  replies_of_notices fun message member => rests.notices message (List.mem_append_right _ member)

variable [Scalar α]

/-- A message that leaves nobody running. -/
theorem Rests.post (rests : bridge.Rests count) {message : HostMessage α}
    {worker : ScriptWorker α} {sent : List (WorkerMessage α)}
    (handled : bridge.transport.worker.handle bridge.transport.moment message = (worker, sent))
    (nobody : worker.running.entries = []) (untimed : worker.Untimed)
    (notices : ∀ message ∈ sent, message.IsNotice) :
    (bridge.post message).2.Rests (count + sent.length) := by
  have sends : (bridge.post message).2 = { bridge with
      transport := ⟨worker, bridge.transport.outbox ++ sent, bridge.transport.moment⟩ } := by
    rw [post_inline, Inline.send, handled]
  have few := rests.few
  rw [List.length_append] at few
  rw [sends]
  refine ⟨nobody, untimed, fun message member => ?_, ?_⟩
  · dsimp only at member
    rw [← List.append_assoc] at member
    exact (List.mem_append.mp member).elim (rests.notices message) (notices message)
  · simp only [List.length_append]
    omega

/-- The worker gives two notices about its environment. -/
theorem Rests.openBackend (rests : bridge.Rests count) (url : String) :
    ((bridge.post .connected).2.post (.prepare url)).2.Rests (count + 2) := by
  have connected : (bridge.post .connected).2.Rests count := by
    have silent : bridge.transport.worker.handle bridge.transport.moment .connected =
        (bridge.transport.worker, []) := rfl
    exact rests.post silent rests.nobody rests.untimed fun _ none => (List.not_mem_nil none).elim
  generalize (bridge.post .connected).2 = connecting at connected
  have told : connecting.transport.worker.handle connecting.transport.moment (.prepare url) =
      (connecting.transport.worker,
        [.status .environmentLoading, .status .environmentLoaded]) := rfl
  refine connected.post told connected.nobody connected.untimed fun message member => ?_
  rcases List.mem_pair.mp member with rfl | rfl <;> exact trivial

/-- A stop of everything is not even noticed. -/
theorem Rests.stopAll (rests : bridge.Rests count) : (bridge.post .stopAll).2.Rests count := by
  have handled : bridge.transport.worker.handle bridge.transport.moment .stopAll =
      (bridge.transport.worker.halt.1, []) := by
    rw [ScriptWorker.handle, ScriptWorker.halt, rests.isEmpty]
    rfl
  exact rests.post handled rfl (rests.untimed.fewer rfl fun _ _ none => by cases none)
    fun _ none => (List.not_mem_nil none).elim

/-- Neither is the stop of some threads. -/
theorem Rests.stopThreads (rests : bridge.Rests count) (ids : List ThreadId) :
    (bridge.stopThreads ids).2.Rests count := by
  unfold Bridge.stopThreads
  split
  case isTrue => exact rests
  case isFalse =>
    have handled : bridge.transport.worker.handle bridge.transport.moment (.stopThreads ids) =
        ((bridge.transport.worker.stopThreads ids).1, []) := by
      rw [ScriptWorker.handle, ScriptWorker.stopThreads, rests.isEmpty]
      rfl
    refine rests.post handled ?_ (rests.untimed.fewer rfl fun token awaited found => ?_)
      fun _ none => (List.not_mem_nil none).elim
    · change bridge.transport.worker.running.entries.filter _ = []
      rw [rests.nobody]
      rfl
    · exact (Option.filter_eq_some_iff.mp ((OrderedMap.find_filter _ _ _).symm.trans found)).1

/-- Loading scripts gives one notice. -/
theorem Rests.register (rests : bridge.Rests count) (patient : 0 < bridge.timeout)
    {unit : LinkedUnit} {scripts : List (Script α)}
    (read : ScriptUnit.parse unit.source = .ok scripts) :
    (bridge.register unit).2.Rests (count + 1) := by
  have silent : (bridge.transport.worker.replaceScripts scripts).2 = [] := by
    rw [ScriptWorker.replaceScripts, ScriptWorker.halt, rests.isEmpty]
    rfl
  have few := rests.few
  rw [List.length_append] at few
  rw [register_inline patient rests.unasked read, silent]
  refine ⟨rfl, rests.untimed.fewer rfl (fun _ _ none => by cases none),
    fun message member => ?_, ?_⟩
  · rw [List.append_nil, ← List.append_assoc] at member
    rcases List.mem_append.mp member with before | new
    · exact rests.notices message before
    · rw [List.mem_singleton.mp new]
      exact trivial
  · simp only [List.length_append, List.length_singleton, List.append_nil]
    omega

/-- A worker where nobody ran goes on with its scripts: it gives up no call and asks for what
they call, and so many messages are under way or ahead at most. -/
structure Starts (allowed : String → Prop) (messages : Nat) (before after : Bridge (Inline α) α) :
    Prop where
  scripts : after.transport.worker.scripts = before.transport.worker.scripts
  untimed : after.transport.worker.Untimed
  asks : AsksOnly allowed (after.backlog ++ after.transport.outbox)
  few : (after.backlog ++ after.transport.outbox).length + after.transport.worker.remaining ≤
    messages

omit [Scalar α] in
/-- Nothing is ahead while nobody runs. -/
theorem Rests.starts (rests : bridge.Rests count) (allowed : String → Prop) {messages : Nat}
    (within : count ≤ messages) : Starts allowed messages bridge bridge := by
  refine ⟨rfl, rests.untimed, asks_of_notices rests.notices allowed, ?_⟩
  have few := rests.few
  rw [ScriptWorker.remaining, ScriptWorker.outstanding, OrderedMap.values, rests.nobody,
    rests.isEmpty]
  exact few.trans within

/-- Every statement of the scripts that are started is a message ahead, every thread ends, and
there are two notices more. -/
theorem Rests.startHats (rests : bridge.Rests count) (patient : 0 < bridge.timeout)
    {allowed : String → Prop} (calls : bridge.transport.worker.CallsOnly allowed) (hat : String)
    (option : Option String) {starts : List ThreadStart}
    (distinct : (starts.map ThreadStart.thread).Nodup) :
    Starts allowed (count +
        (starts.map fun start => bridge.transport.worker.ahead start.script 0).sum + 2)
      bridge (bridge.startHats hat option starts).2 := by
  have kept : (bridge.transport.worker.admitted starts).Sublist starts := List.filter_sublist
  have ahead := ScriptWorker.launch_remaining bridge.transport.worker bridge.transport.moment
    rests.nobody (distinct.sublist (kept.map ThreadStart.thread))
  have within := (kept.map fun start => bridge.transport.worker.ahead start.script 0).sum_le_sum
    fun _ _ => Nat.zero_le _
  have notice : ∀ message ∈ (bridge.transport.worker.start starts).2.2, message.IsNotice := by
    intro message member
    unfold ScriptWorker.start at member
    dsimp only at member
    split at member
    case isTrue =>
      rw [List.mem_singleton.mp member]
      exact trivial
    case isFalse => cases member
  have few := rests.few
  rw [List.length_append] at few
  rw [startHats_inline patient rests.unasked hat option starts]
  refine ⟨(ScriptWorker.launch_keeps _ _ starts).1, rests.untimed.launch _ starts, ?_, ?_⟩
  · refine AsksOnly.append ?_ (calls.launch _ starts)
    dsimp only
    rw [← List.append_assoc]
    exact (asks_of_notices rests.notices allowed).append (asks_of_notices notice allowed)
  · simp only [List.length_append]
    omega

end Bridge

namespace Scheduler

/-! ## Counts -/

section Counting

variable {τ : Type} [Scalar α] [Transport τ α] {scheduler : Scheduler τ α}

omit [Scalar α] in
/-- Whatever the worker answers, a request to start threads changes nothing else on the bridge. -/
theorem requestStarts_bridge (scheduler : Scheduler τ α) (hat : String) (option : Option String)
    (starts : List ThreadStart) : (scheduler.requestStarts hat option starts).2.bridge =
      (scheduler.bridge.startHats hat option starts).2 := by
  unfold requestStarts
  split
  case h_1 asked => rw [(retireAll_framed _ _).bridge, asked]
  case h_2 asked => rw [(retireAll_framed _ _).bridge, asked]

omit [Scalar α] in
/-- A hat counts the threads that it begins. -/
theorem startHats_registered {hat : String} {restarting : Bool}
    (known : scheduler.registry.hat? hat = some restarting) (filter : HatFilter) :
    (scheduler.startHats hat filter).2.stats.threadsRegistered =
      scheduler.stats.threadsRegistered +
        (beginAll hat restarting scheduler (scheduler.hatCandidates hat filter)).1.1.length := by
  have counted := beginAll_registered hat restarting (scheduler.hatCandidates hat filter) scheduler
  unfold Scheduler.startHats
  rw [known]
  dsimp only
  split
  case isTrue => exact counted
  case isFalse =>
    unfold requestStarts
    split
    case h_1 =>
      rw [retireAll_stats]
      exact counted
    case h_2 =>
      rw [retireAll_stats]
      exact counted

/-- To remove every clone counts nothing. -/
theorem disposeClones_stats (scheduler : Scheduler τ α) :
    scheduler.disposeClones.stats = scheduler.stats := by
  obtain ⟨motors, notices, same⟩ := announceRemoved_eq
    (scheduler.stage.disposeClones.1.map Target.id)
    ({ scheduler with stage := scheduler.stage.disposeClones.2 } : Scheduler τ α)
  unfold Scheduler.disposeClones
  dsimp only
  rw [same]

/-- Nothing is counted before the green flag starts its scripts. -/
theorem cleared_stats (scheduler : Scheduler τ α) : scheduler.cleared.stats = scheduler.stats := by
  unfold Scheduler.cleared Scheduler.emit Scheduler.stopAll
  dsimp only
  rw [disposeClones_stats]
  exact retireAll_stats _ _

end Counting

/-! ## The green flag -/

section Flagging

variable [Scalar α] {scheduler : Scheduler (Inline α) α} {count limit : Nat}

/-- A hat that is started where nobody runs. -/
theorem startHats_starts (rests : scheduler.bridge.Rests count)
    (sound : Sound none tight scheduler) {allowed : String → Prop}
    (calls : scheduler.worker.CallsOnly allowed) (hat : String) (filter : HatFilter) :
    Bridge.Starts allowed (count + ((scheduler.hatCandidates hat filter).map fun candidate =>
        scheduler.worker.ahead candidate.script 0).sum + 2)
      scheduler.bridge (scheduler.startHats hat filter).2.bridge := by
  unfold Scheduler.startHats
  split
  case h_1 => exact rests.starts allowed (by omega)
  case h_2 restarting _ =>
    have framed := beginAll_framed hat restarting (scheduler.hatCandidates hat filter) scheduler
    have scripts := (beginAll_sublist hat restarting (scheduler.hatCandidates hat filter)
      scheduler).map fun script => scheduler.worker.ahead script 0
    have distinct := (beginAll_begun hat restarting
      (hatCandidates_single sound.keyed hat filter) sound.orderly).distinct
    generalize beginAll hat restarting scheduler (scheduler.hatCandidates hat filter) = result
      at framed scripts distinct
    obtain ⟨⟨starts, replaced⟩, begun⟩ := result
    dsimp only at framed scripts distinct ⊢
    have told : (begun.tellStopped replaced).bridge.Rests count := by
      rw [tellStopped, framed.bridge]
      exact rests.stopThreads replaced
    have same : (begun.tellStopped replaced).bridge.transport.worker.scripts =
          scheduler.worker.scripts ∧
        (begun.tellStopped replaced).bridge.timeout = scheduler.bridge.timeout := by
      rw [tellStopped, framed.bridge]
      unfold Bridge.stopThreads
      split <;> exact ⟨rfl, rfl⟩
    generalize begun.tellStopped replaced = telling at told same
    split
    case isTrue => exact { told.starts allowed (by omega) with scripts := same.1 }
    case isFalse =>
      have within := scripts.sum_le_sum fun _ _ => Nat.zero_le _
      rw [List.map_map, List.map_map] at within
      have launched := told.startHats (same.2 ▸ sound.patient) (calls.congr same.1) hat
        filter.option distinct
      rw [requestStarts_bridge]
      refine ⟨launched.scripts.trans same.1, launched.untimed, launched.asks,
        launched.few.trans ?_⟩
      rw [ScriptWorker.ahead_congr same.1]
      exact Nat.add_le_add_right (Nat.add_le_add_left within count) 2

/-- A project that goes on: it gets on, so many messages are under way or ahead at most, and
the threads that were started are counted. -/
structure Underway (sure : Prop) (messages started : Nat)
    (before after : Scheduler (Inline α) α) : Prop where
  brisk : Brisk sure after
  workload : after.workload ≤ messages
  config : after.config = before.config
  registered : after.stats.threadsRegistered = before.stats.threadsRegistered + started
  exact : before.stage.Exact → after.stage.Exact

omit [Scalar α] in
/-- A thread that was just started waits for nothing, and neither does one that has ended. -/
theorem awake_of_started {hat : String} {scripts : List (ScriptId × Registration)}
    {ids : List ThreadId} (active : ∀ id, scheduler.isLive id = true ↔ id ∈ ids)
    (started : List.Forall₂ (fun script id => scheduler.threads.find? id =
      some (.forHat id script.2.target ⟨script.1, hat, script.2.option⟩)) scripts ids) :
    scheduler.Awake := by
  intro id thread found waits
  have live : scheduler.isLive id = true := by
    rw [isLive, found, Option.any_some, Thread.isActive, Thread.isDone, waits]
    rfl
  obtain ⟨script, -, begun⟩ := exists_of_forall₂ started ((active id).mp live)
  obtain rfl := Option.some.inj (found.symm.trans begun)
  cases waits

/-- Settings stay in the stop before the green flag's scripts are started. -/
theorem cleared_settings (scheduler : Scheduler (Inline α) α) :
    scheduler.cleared.config = scheduler.config ∧
      scheduler.cleared.registry = scheduler.registry ∧
      scheduler.cleared.bridge = (scheduler.bridge.post .stopAll).2 := by
  have stops := stopAll_stops scheduler
  unfold cleared
  generalize scheduler.stopAll = stopped at stops ⊢
  exact ⟨stops.config, stops.registry, stops.bridge⟩

/-- The green flag starts its scripts and counts their threads. -/
theorem greenFlag_registered (shares : Shares limit scheduler)
    (sound : Sound none tight scheduler) {restarting : Bool}
    (known : scheduler.registry.hat? greenFlagHat = some restarting) :
    ∃ ids, scheduler.greenFlag.1 = .ok ids ∧
      scheduler.greenFlag.2.stats.threadsRegistered =
        scheduler.stats.threadsRegistered + ids.length := by
  have clears := Tames.cleared scheduler
  have cleared := clears.acts.sound sound
  have knownCleared : scheduler.cleared.registry.hat? greenFlagHat = some restarting := by
    rw [(cleared_settings scheduler).2.1, known]
  have registered := startHats_registered knownCleared .any
  rw [cleared_stats] at registered
  rw [greenFlag_eq]
  refine ⟨_, startHats_accepted (shares.pass clears.acts.strokes.passes) cleared.orderly.distinct
    knownCleared .any, ?_⟩
  rw [registered, List.length_map]

/-- Where nobody runs, the worker goes on with the scripts of the green flag. -/
theorem greenFlag_starts (rests : scheduler.bridge.Rests count)
    (sound : Sound none tight scheduler) {allowed : String → Prop}
    (calls : scheduler.worker.CallsOnly allowed) :
    Bridge.Starts allowed (count + (scheduler.flagScripts.map fun script =>
        scheduler.worker.ahead script.1 0).sum + 2)
      scheduler.bridge scheduler.greenFlag.2.bridge := by
  have cleared := (Tames.cleared scheduler).acts.sound sound
  have bridge := (cleared_settings scheduler).2.2
  have scripts : scheduler.cleared.worker.scripts = scheduler.worker.scripts := by
    rw [worker, bridge]
    rfl
  have candidates : scheduler.cleared.hatCandidates greenFlagHat .any =
      scheduler.flagScripts.map HatCandidate.onOwner := by
    rw [hatCandidates_flag cleared.keyed (cleared_originals sound.keyed),
      cleared_flagScripts sound.keyed]
  have rested : scheduler.cleared.bridge.Rests count := bridge ▸ rests.stopAll
  have starts := startHats_starts rested cleared (calls.congr scripts) greenFlagHat .any
  rw [candidates, List.map_map, ScriptWorker.ahead_congr scripts] at starts
  rw [greenFlag_eq]
  exact { starts with scripts := starts.scripts.trans scripts }

/-- The green flag keeps a stage exact. -/
theorem greenFlag_exact (exact : scheduler.stage.Exact) : scheduler.greenFlag.2.stage.Exact := by
  obtain ⟨bridge, undisturbed⟩ := startHats_undisturbed scheduler.cleared greenFlagHat .any
  rw [greenFlag_eq, undisturbed.stage]
  change scheduler.cleared.stage.Exact
  rw [(cleared_clears scheduler).stage, (stopAll_stops scheduler).stage]
  have stopped := (exact.perform .onStopAll trivial).perform .disposeClones trivial
  exact (stopped.perform .requestRedraw trivial).perform .onGreenFlag trivial

/-- Where nobody runs and only swift blocks are called, the green flag starts its scripts, and
the project goes on from there. -/
theorem greenFlag_underway (rests : scheduler.bridge.Rests count)
    (sound : Sound none tight scheduler) (shares : Shares limit scheduler) (tidy : Tidy scheduler)
    {sure : Prop} (calls : scheduler.worker.CallsOnly (scheduler.registry.Offers sure))
    {restarting : Bool}
    (known : scheduler.registry.hat? greenFlagHat = some restarting) :
    ∃ ids, scheduler.greenFlag.1 = .ok ids ∧
      Underway sure (count + (scheduler.flagScripts.map fun script =>
          scheduler.worker.ahead script.1 0).sum + 2)
        scheduler.flagScripts.length scheduler scheduler.greenFlag.2 := by
  obtain ⟨ids, passed, registered⟩ := greenFlag_registered shares sound known
  have anew := greenFlag_startsOver shares sound.orderly tidy passed
  have starts := greenFlag_starts rests sound calls
  have sounds := (Tames.greenFlag scheduler).acts.sound sound
  obtain ⟨config, registry, -⟩ := cleared_settings scheduler
  have settings := startHats_settings scheduler.cleared greenFlagHat .any
  rw [← greenFlag_eq, config, registry] at settings
  rw [← anew.started.length_eq] at registered
  refine ⟨ids, passed, ⟨sounds, starts.untimed, ?_, ?_, awake_of_started anew.active anew.started⟩,
    starts.few, settings.1, registered, greenFlag_exact⟩
  · rw [settings.2]
    exact calls.congr starts.scripts
  · rw [settings.2]
    exact starts.asks

end Flagging

end Scheduler

end SpriteMachine
