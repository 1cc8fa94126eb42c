import SpriteMachine.Proofs.Inline.Dispatch
import SpriteMachine.Proofs.List
import SpriteMachine.Proofs.Scheduler.Ending
import SpriteMachine.Proofs.Scheduler.Idle

/-!
# Starting over

The green flag stops everything, resets the timer and starts its hat. Since nobody runs any
more then and no clone is left, each script that is registered for it starts once, on its own
target, and neither side goes on with anything that was there before.
-/

namespace SpriteMachine

variable {α : Type}

section Timing

variable [Scalar α]

/-- No time passes between the reading of a clock and itself. An infinite or undefined reading
has no such distance. -/
def Clock.IsSteady (clock : Clock α) : Prop :=
  (clock.now - clock.now) / Scalar.ofInt 1000 = Scalar.zero

/-- A clock that was just reset shows no time. -/
theorem Clock.IsSteady.reset {clock : Clock α} (steady : clock.IsSteady) :
    clock.reset.timer = Scalar.zero :=
  steady

end Timing

/-- Where no clones are, a sprite is its only instance. -/
theorem Stage.instancesOf_original {stage : Stage α} (keyed : stage.Keyed)
    (originals : ∀ id target, stage.target? id = some target → target.isClone = false)
    (owner : TargetId) :
    stage.instancesOf owner = if (stage.target? owner).isSome then [owner] else [] := by
  have owned : ∀ id, id ∈ stage.instancesOf owner ↔ id = owner ∧ (stage.target? owner).isSome := by
    intro id
    rw [instancesOf, List.mem_map]
    constructor
    · rintro ⟨target, chosen, rfl⟩
      obtain ⟨member, descends⟩ := List.mem_filter.mp chosen
      obtain ⟨key, found⟩ := OrderedMap.mem_values_iff.mp member
      have named := keyed key target found
      have original := originals key target found
      rw [Target.isClone, Option.isSome_eq_false_iff, Option.isNone_iff_eq_none] at original
      have same : target.id = owner := by
        simpa [Target.scriptOwner, original] using descends
      refine ⟨same, ?_⟩
      rw [← same, named]
      exact Option.isSome_iff_exists.mpr ⟨target, found⟩
    · rintro ⟨rfl, present⟩
      obtain ⟨target, found⟩ := Option.isSome_iff_exists.mp present
      have original := originals id target found
      rw [Target.isClone, Option.isSome_eq_false_iff, Option.isNone_iff_eq_none] at original
      refine ⟨target, List.mem_filter.mpr ⟨OrderedMap.mem_values_iff.mpr ⟨id, found⟩, ?_⟩,
        keyed id target found⟩
      simp [Target.scriptOwner, original, keyed id target found]
  split
  case isTrue present =>
    refine List.perm_singleton.mp ((List.perm_ext_iff_of_nodup
      (Scheduler.instancesOf_nodup keyed owner) (List.nodup_singleton owner)).mpr fun id => ?_)
    rw [owned, List.mem_singleton]
    exact and_iff_left present
  case isFalse absent =>
    exact List.eq_nil_iff_forall_not_mem.mpr fun id member => absent ((owned id).mp member).2

namespace Scheduler

section Choosing

variable {τ : Type} {scheduler : Scheduler τ α}

/-- The scripts that the green flag starts, in the order of registration: those of originals. -/
def flagScripts (scheduler : Scheduler τ α) : List (ScriptId × Registration) :=
  scheduler.scripts.entries.filter fun script =>
    script.2.event = greenFlagHat &&
      (scheduler.stage.target? script.2.target).any fun target => !target.isClone

/-- The candidate of a script on its own target. -/
def HatCandidate.onOwner (script : ScriptId × Registration) : HatCandidate :=
  ⟨script.1, script.2.target, script.2.option⟩

/-- Where no clones are, the green flag concerns each of its scripts once. -/
theorem hatCandidates_flag (keyed : scheduler.stage.Keyed)
    (originals : ∀ id target, scheduler.stage.target? id = some target → target.isClone = false) :
    scheduler.hatCandidates greenFlagHat .any = scheduler.flagScripts.map HatCandidate.onOwner := by
  have chosen : ∀ owner, (scheduler.stage.target? owner).any (!·.isClone) =
      (scheduler.stage.target? owner).isSome := by
    intro owner
    cases found : scheduler.stage.target? owner with
    | none => rfl
    | some target => rw [Option.any_some, originals owner target found]; rfl
  have single := flatMap_chosen
    (scheduler.scripts.entries.filter fun script => matchesHat greenFlagHat none script.2)
    (fun script => (scheduler.stage.target? script.2.target).isSome) HatCandidate.onOwner
  unfold hatCandidates flagScripts
  simp only [chosen]
  rw [List.filter_filter] at single
  refine Eq.trans ?_ (single.trans (congrArg _ (List.filter_congr fun script _ => ?_)))
  · refine congrArg (List.flatMap · _) (funext fun script => ?_)
    rw [Stage.instancesOf_original keyed originals]
    split <;> rfl
  · simp [matchesHat, Bool.and_comm]

/-- Nobody is active on anything where every thread has ended. -/
theorem activeOn_ended
    (ended : ∀ id thread, scheduler.threads.find? id = some thread → thread.isDone = true)
    (script : ScriptId) (target : TargetId) : scheduler.activeOn script target = [] := by
  rw [activeOn, List.map_eq_nil_iff, List.filter_eq_nil_iff]
  intro thread member
  obtain ⟨id, found⟩ := OrderedMap.mem_values_iff.mp member
  rw [Thread.isActive, ended id thread found]
  exact Bool.false_ne_true

/-- Hence every candidate is admitted. -/
theorem admits_ended
    (ended : ∀ id thread, scheduler.threads.find? id = some thread → thread.isDone = true)
    (restarting : Bool) (candidate : HatCandidate) :
    scheduler.admits restarting candidate = true := by
  rw [admits, activeOn_ended ended]
  exact Bool.or_true _

end Choosing

section Clearing

variable [Scalar α] {τ : Type} [Transport τ α] {scheduler : Scheduler τ α}

/-- Behind a stop, stage and clock start over, and little else changes. -/
structure Clears (stopped cleared : Scheduler τ α) : Prop where
  threads : cleared.threads = stopped.threads
  scripts : cleared.scripts = stopped.scripts
  bridge : cleared.bridge = stopped.bridge
  stage : cleared.stage = stopped.stage.onGreenFlag
  clock : cleared.devices.clock = stopped.devices.clock.reset

/-- Clearing goes on from a stop of everything. -/
theorem cleared_clears (scheduler : Scheduler τ α) :
    Clears scheduler.stopAll scheduler.cleared := by
  unfold cleared
  generalize scheduler.stopAll = stopped
  exact ⟨rfl, rfl, rfl, rfl, rfl⟩

/-- When everything is cleared no thread is left that has not ended. -/
theorem cleared_ended (scheduler : Scheduler τ α) (id : ThreadId) (thread : Thread α)
    (found : scheduler.cleared.threads.find? id = some thread) : thread.isDone = true := by
  rw [(cleared_clears scheduler).threads] at found
  exact (stopAll_stops scheduler).ended found

/-- Only originals are left when the green flag starts its scripts, and all of them. -/
theorem cleared_target (keyed : scheduler.stage.Keyed) (id : TargetId) :
    (scheduler.cleared.stage.target? id).map Target.origin =
      ((scheduler.stage.target? id).filter (!·.isClone)).map Target.origin := by
  rw [(cleared_clears scheduler).stage, Stage.origin_onGreenFlag,
    (stopAll_stops scheduler).targets keyed]
  cases scheduler.stage.target? id with
  | none => rfl
  | some target =>
    have same : target.unadorned.isClone = target.isClone := rfl
    rw [Option.map_some, Option.filter_some, Option.filter_some, same]
    split <;> rfl

/-- When everything is cleared only originals are left. -/
theorem cleared_originals (keyed : scheduler.stage.Keyed) (id : TargetId) (target : Target α)
    (found : scheduler.cleared.stage.target? id = some target) : target.isClone = false := by
  have origins := cleared_target keyed id
  rw [found] at origins
  obtain ⟨earlier, kept, same⟩ := Option.map_eq_some_iff.mp origins.symm
  rw [← Stage.isClone_of_origin same]
  simpa using (Option.filter_eq_some_iff.mp kept).2

/-- Clearing keeps the scripts. -/
theorem cleared_scripts (scheduler : Scheduler τ α) :
    scheduler.cleared.scripts = scheduler.scripts :=
  (cleared_clears scheduler).scripts.trans (stopAll_stops scheduler).scripts

/-- The scripts that the green flag starts are the same before and behind the stop. -/
theorem cleared_flagScripts (keyed : scheduler.stage.Keyed) :
    scheduler.cleared.flagScripts = scheduler.flagScripts := by
  have same : ∀ id, (scheduler.cleared.stage.target? id).any (!·.isClone) =
      (scheduler.stage.target? id).any (!·.isClone) := by
    intro id
    have origins := cleared_target keyed id
    cases found : scheduler.cleared.stage.target? id with
    | none =>
      rw [found] at origins
      have gone := Option.map_eq_none_iff.mp origins.symm
      cases present : scheduler.stage.target? id with
      | none => rfl
      | some target =>
        rw [present, Option.filter_some] at gone
        cases isClone : target.isClone <;> simp [isClone] at gone ⊢
    | some target =>
      have original := cleared_originals keyed id target found
      rw [found] at origins
      obtain ⟨earlier, kept, -⟩ := Option.map_eq_some_iff.mp origins.symm
      obtain ⟨present, was⟩ := Option.filter_eq_some_iff.mp kept
      rw [present, Option.any_some, Option.any_some, original, was]
      rfl
  unfold flagScripts
  rw [cleared_scripts]
  simp only [same]

end Clearing

section Running

variable [Scalar α] {scheduler : Scheduler (Inline α) α}

/-- Telling the worker of ended threads starts nothing there. -/
theorem tellStopped_running (scheduler : Scheduler (Inline α) α) (ids : List ThreadId)
    {id : ThreadId}
    {running : RunningThread α}
    (runs : (scheduler.tellStopped ids).worker.running.find? id = some running) :
    scheduler.worker.running.find? id = some running := by
  by_cases nobody : ids = []
  · rw [nobody] at runs
    exact runs
  · rw [(tellStopped_posted scheduler nobody).2, ScriptWorker.stopThreads,
      OrderedMap.find_filter] at runs
    exact (Option.filter_eq_some_iff.mp runs).1

/-- Behind a hat the worker runs what it ran before and the threads that were started. -/
theorem startHats_running {limit : Nat} (shares : Shares limit scheduler) {hat : String}
    {filter : HatFilter} {ids : List ThreadId}
    (passed : (scheduler.startHats hat filter).1 = .ok ids) (id : ThreadId)
    (running : RunningThread α)
    (runs : (scheduler.startHats hat filter).2.worker.running.find? id = some running) :
    id ∈ ids ∨ scheduler.worker.running.find? id = some running := by
  unfold Scheduler.startHats at passed runs
  split at runs
  case h_1 => exact Or.inr runs
  case h_2 restarting known =>
    rw [known] at passed
    have begins := beginAll_strokes hat restarting (scheduler.hatCandidates hat filter) scheduler
    have framed := beginAll_framed hat restarting (scheduler.hatCandidates hat filter) scheduler
    have scripts := beginAll_scripts hat restarting (scheduler.hatCandidates hat filter) scheduler
    dsimp only at passed runs
    generalize beginAll hat restarting scheduler (scheduler.hatCandidates hat filter) = result
      at passed runs begins framed scripts
    obtain ⟨⟨starts, replaced⟩, begun⟩ := result
    dsimp only at passed runs begins framed scripts
    have tells : Strokes scheduler (begun.tellStopped replaced) :=
      begins.trans (tellStopped_strokes begun replaced)
    have told := shares.pass tells.passes
    have before : ∀ running,
        (begun.tellStopped replaced).worker.running.find? id = some running →
          scheduler.worker.running.find? id = some running := by
      intro running ran
      rw [← framed.worker]
      exact tellStopped_running begun replaced ran
    generalize begun.tellStopped replaced = telling at passed runs told before
    split at runs
    case isTrue => exact Or.inr (before running runs)
    case isFalse somebody =>
      rw [if_neg somebody] at passed
      have patient : 0 < limit := by
        refine Nat.pos_of_ne_zero fun impatient => ?_
        obtain ⟨start, rest, rfl⟩ := List.exists_cons_of_ne_nil somebody
        obtain ⟨candidate, present, -⟩ := scripts start List.mem_cons_self
        obtain ⟨registration, kept⟩ := hatCandidates_kept present
        rw [shares.idle impatient] at kept
        cases kept
      have asked := Bridge.startHats_inline (told.timeout ▸ patient)
        (told.prompt.unasked (told.timeout ▸ patient)) hat filter.option starts
      unfold requestStarts at passed runs
      rw [asked] at passed runs
      dsimp only at passed runs
      rw [(retireAll_framed _ _).worker] at runs
      obtain rfl := Except.ok.inj passed
      by_cases started : id ∈ (telling.worker.admitted starts).map ThreadStart.thread
      · exact Or.inl started
      · have spared := ((ScriptWorker.launch_moves telling.worker
          telling.bridge.transport.moment starts).spared id started).1
        have place := congrArg Seat.place spared
        exact Or.inr (before running (place.symm.trans runs))

/-- The worker runs nothing when the green flag starts its scripts. -/
theorem cleared_running (scheduler : Scheduler (Inline α) α) (id : ThreadId) :
    scheduler.cleared.worker.running.find? id = none := by
  have halted : scheduler.cleared.bridge = (scheduler.bridge.post .stopAll).2 :=
    (cleared_clears scheduler).bridge.trans (stopAll_stops scheduler).bridge
  rw [worker, halted, Bridge.post_inline]
  rfl

/-- The program starts over: the threads that are active are those just started, one for each
script of the green flag on its own target, in order. Clones, time and whatever the worker ran
are gone, and no block of a thread from before is invoked any more. -/
structure StartsOver (before : Scheduler (Inline α) α) (ids : List ThreadId)
    (after : Scheduler (Inline α) α) : Prop where
  active : ∀ id, after.isLive id = true ↔ id ∈ ids
  started : List.Forall₂ (fun script id => after.threads.find? id =
    some (.forHat id script.2.target ⟨script.1, greenFlagHat, script.2.option⟩))
    before.flagScripts ids
  distinct : ids.Nodup
  originals : ∀ id target, after.stage.target? id = some target → target.isClone = false
  timer : before.devices.clock.IsSteady → after.devices.clock.timer = Scalar.zero
  running : ∀ id running, after.worker.running.find? id = some running → id ∈ ids
  meanwhile : ∃ recent, after.chronicle = recent ++ before.chronicle ∧
    ∀ deed ∈ recent, ∀ id, ¬ deed.Invokes id
  silent : ∀ id, before.ids.Issued id.text → ∀ operations, ∃ recent,
    (after.run operations).chronicle = recent ++ after.chronicle ∧
      ∀ deed ∈ recent, ¬ deed.Invokes id

omit [Scalar α] in
/-- Where every thread had ended, those that a hat started are the active ones. -/
theorem Started.live_iff {before after : Scheduler (Inline α) α} {hat : String} {filter : HatFilter}
    {restarting : Bool} {ids : List ThreadId}
    (starts : Started before hat filter restarting ids after)
    (ended : ∀ id thread, before.threads.find? id = some thread → thread.isDone = true)
    (id : ThreadId) : after.isLive id = true ↔ id ∈ ids := by
  refine ⟨fun live => ?_, starts.live⟩
  by_contra other
  obtain ⟨thread, found, running⟩ := find_of_isLive live
  rw [starts.others id other] at found
  obtain ⟨earlier, was, same⟩ := Option.map_eq_some_iff.mp found
  split at same <;> rw [← same] at running
  · cases running
  · rw [ended id earlier was] at running
    cases running

/-- Behind the stop, each script of the flag is due once, on its own target. -/
theorem cleared_due (tidy : Tidy scheduler) (restarting : Bool) :
    (scheduler.cleared.due greenFlagHat .any restarting).map HatCandidate.ofPair =
      scheduler.flagScripts.map HatCandidate.onOwner := by
  have keyed : scheduler.cleared.stage.Keyed :=
    ((Tames.cleared scheduler).acts.strokes.tidy tidy).targets
  rw [← admitted_due, List.filter_eq_self.mpr fun candidate _ =>
      admits_ended (cleared_ended scheduler) _ candidate,
    hatCandidates_flag keyed (cleared_originals tidy.targets), cleared_flagScripts tidy.targets]

/-- Hence the flag starts one thread for each of its scripts. -/
theorem Started.flagged {restarting : Bool} {ids : List ThreadId} {after : Scheduler (Inline α) α}
    (starts : Started scheduler.cleared greenFlagHat .any restarting ids after)
    (tidy : Tidy scheduler) :
    List.Forall₂ (fun script id => after.threads.find? id =
      some (.forHat id script.2.target ⟨script.1, greenFlagHat, script.2.option⟩))
      scheduler.flagScripts ids := by
  have begun : List.Forall₂ (fun candidate id => after.threads.find? id =
      some (.forHat id candidate.target ⟨candidate.script, greenFlagHat, candidate.option⟩))
      (scheduler.flagScripts.map HatCandidate.onOwner) ids := by
    rw [← cleared_due tidy restarting]
    exact List.forall₂_map_left_iff.mpr starts.started
  exact List.forall₂_map_left_iff.mp begun

/-- A green flag that starts its scripts starts the program over. -/
theorem greenFlag_startsOver {limit : Nat} (shares : Shares limit scheduler)
    (orderly : Orderly scheduler) (tidy : Tidy scheduler) {ids : List ThreadId}
    (passed : scheduler.greenFlag.1 = .ok ids) :
    StartsOver scheduler ids scheduler.greenFlag.2 := by
  have clears := Tames.cleared scheduler
  have orderlyCleared := (clears.acts.advances orderly).1
  have tidyCleared := clears.acts.strokes.tidy tidy
  have meanwhile := (Tames.greenFlag scheduler).idles.chronicle
  obtain ⟨orderlyLater, later⟩ := (Tames.greenFlag scheduler).acts.advances orderly
  obtain ⟨bridge, undisturbed⟩ := startHats_undisturbed scheduler.cleared greenFlagHat .any
  rw [greenFlag_eq] at passed meanwhile orderlyLater later ⊢
  obtain ⟨restarting, -, starts⟩ := startHats_started (shares.pass clears.acts.strokes.passes)
    orderlyCleared tidyCleared passed
  have runs := startHats_running (shares.pass clears.acts.strokes.passes) passed
  generalize scheduler.cleared.startHats greenFlagHat .any = outcome at *
  have active := starts.live_iff (cleared_ended scheduler)
  refine ⟨active, starts.flagged tidy, starts.distinct, fun id target found => ?_,
    fun steady => ?_, fun id running ran => ?_, meanwhile, fun id issued operations => ?_⟩
  · rw [undisturbed.stage] at found
    exact cleared_originals tidy.targets id target found
  · have clock : scheduler.cleared.devices.clock = scheduler.devices.clock.reset := by
      rw [(cleared_clears scheduler).clock, (stopAll_stops scheduler).devices]
    have devices : outcome.2.devices = scheduler.cleared.devices := undisturbed.devices
    rw [devices, clock]
    exact steady.reset
  · rcases runs id running ran with member | before
    · exact member
    · rw [cleared_running] at before
      cases before
  · have known := (clears.acts.advances orderly).2.ids.issued_of issued
    have dead : outcome.2.isLive id = false := by
      rw [Bool.eq_false_iff]
      exact fun live => (starts.fresh id ((active id).mp live)).1 known
    exact (endedForGood_of_dead orderlyLater (later.ids.issued_of issued) dead).silent operations

/-- The green flag starts the program over, whatever was going on. Beside an inline worker,
behind any operations, a green flag that starts its scripts leaves exactly those threads
active, one for each of its scripts whose target is an original, and nothing from before. -/
theorem green_flag_starts_over (config : SchedulerConfig) (registry : Registry)
    (motors : Motors (LoopbackLink α) α) (ids : IdSource) (distinct : ids.Distinct)
    (operations : List (Operation (Inline α) α))
    (allowed : ∀ operation ∈ operations, operation.SparesBridge ∧ operation.KeepsTargets) :
    let now := (fresh config registry (Inline.idle config.blockTimeout) ids motors).run operations
    ∀ started, now.greenFlag.1 = .ok started → StartsOver now started now.greenFlag.2 := by
  intro now started passed
  have shares : Shares config.requestTimeout now :=
    run_shares config registry motors ids fun operation member => (allowed operation member).1
  have tidy : Tidy now :=
    run_tidy config registry _ ids motors fun operation member => (allowed operation member).2
  have orderly : Orderly now :=
    (run_advances operations _ (fresh_orderly config registry _ motors distinct)).1
  exact greenFlag_startsOver shares orderly tidy passed

end Running

/-- The flag is raised again while its script runs. -/
theorem flagged_startsOver :
    let now := standardScheduler.run flagged
    now.isLive ⟨"#1"⟩ = true ∧ ∃ started, StartsOver now [started] now.greenFlag.2 := by
  intro now
  have restarts := green_flag_starts_over .standard .standard
    (.atRest .reliable Motors.defaultBackoff : Motors (LoopbackLink Rat) Rat) .numbered
    IdSource.numbered_distinct flagged
    (by simp [flagged, Operation.SparesBridge, Operation.KeepsTargets])
  have once : now.greenFlag.1.toOption.map List.length = some 1 := by decide +kernel
  refine ⟨by decide +kernel, ?_⟩
  cases passed : now.greenFlag.1 with
  | error fault =>
    rw [passed] at once
    cases once
  | ok ids =>
    rw [passed] at once
    obtain ⟨started, rfl⟩ := List.length_eq_one_iff.mp (Option.some.inj once)
    exact ⟨started, restarts [started] passed⟩

end Scheduler

end SpriteMachine
