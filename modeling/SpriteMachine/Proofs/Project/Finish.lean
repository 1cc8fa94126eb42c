import Mathlib.Algebra.BigOperators.Group.List.Basic
import Mathlib.Algebra.Order.Floor.Div
import SpriteMachine.Proofs.Project.Launch

/-!
# Plain projects finish

A project whose blocks neither yield nor start or stop threads comes to its end by itself,
whatever its blocks fail at. Each statement on the green flag costs one message, and so does
the end of each thread; five notices come on top. Since a tick deals with a bounded number of
messages and the last one only finds that nothing is left, the ticks can be counted beforehand.

One thing only comes between: a costume number or a place in paint order that overflows, at which
the program panics. It cannot happen where no script reckons with such numbers of its own and the
costumes of every target can be counted with a sign.
-/

namespace SpriteMachine

variable {α : Type} [Scalar α]

namespace Scheduler

/-- A scheduler that gets on does so when it is started. -/
theorem Brisk.start {scheduler : Scheduler (Inline α) α} {sure : Prop}
    (brisk : Brisk sure scheduler) :
    Brisk sure scheduler.start ∧ scheduler.start.workload = scheduler.workload ∧
      scheduler.start.started = true ∧ scheduler.start.config = scheduler.config ∧
      scheduler.start.stats = scheduler.stats ∧ scheduler.start.stage = scheduler.stage := by
  have sound := brisk.sound.quiet (start_mild scheduler).toQuiet
  unfold Scheduler.start at sound ⊢
  by_cases going : scheduler.started = true
  · rw [if_pos going]
    exact ⟨brisk, rfl, going, rfl, rfl, rfl⟩
  · rw [if_neg going] at sound ⊢
    obtain ⟨begun, same⟩ := brisk.host sound rfl rfl brisk.awake
    exact ⟨begun, same, rfl, rfl, rfl, rfl⟩

end Scheduler

namespace Project

/-- The bodies that the green flag starts. -/
def flagBodies (project : Project α) : List (List (Statement α)) :=
  project.flagListing.map Registration.body

/-- The messages of a plain project: one for each statement on the green flag and one for the
end of each thread, two notices about the environment, one about the scripts, and two about
their run. -/
def messageBound (project : Project α) : Nat :=
  (project.flagBodies.map List.length).sum + project.flagBodies.length + 5

/-- The ticks of a plain project: as many as it takes to deal with its messages, 1024 in each,
and one more. -/
def tickBound (project : Project α) : Nat := project.messageBound ⌈/⌉ 1024 + 1

variable {project : Project α} {settings : Settings} {loaded : Scheduler (Inline α) α}

/-- A script of the flag has its statements and its end ahead. -/
theorem Prepared.ahead (prepared : project.Prepared settings loaded) :
    (loaded.flagScripts.map fun script => loaded.worker.ahead script.1 0) =
      project.flagBodies.map fun body => body.length + 1 := by
  rw [flagBodies, ← prepared.flagged, List.map_map, List.map_map]
  refine List.map_congr_left fun script member => ?_
  obtain ⟨body, read, stored⟩ := prepared.shares.loaded prepared.sound.orderly.distinct
    script.1 script.2 (OrderedMap.mem_entries_iff.mp (List.mem_filter.mp member).1)
  rw [ScriptWorker.ahead, stored, Function.comp_apply, Function.comp_apply, Registration.body, read]
  rfl

/-- The green flag starts as many threads as the project has code on it, with as many messages
ahead as it has statements there, threads and notices. -/
theorem Prepared.underway (prepared : project.Prepared settings loaded) :
    ∃ ids, loaded.greenFlag.1 = .ok ids ∧
      Scheduler.Underway project.IsSure project.messageBound project.flagBodies.length loaded
        loaded.greenFlag.2 := by
  have known : loaded.registry.hat? greenFlagHat = some true := by
    rw [prepared.registry]
    rfl
  have underway := Scheduler.greenFlag_underway prepared.rests prepared.sound prepared.shares
    prepared.tidy prepared.calls known
  have started : loaded.flagScripts.length = project.flagBodies.length := by
    rw [flagBodies, ← prepared.flagged, List.length_map, List.length_map]
  have messages : 3 + (loaded.flagScripts.map fun script => loaded.worker.ahead script.1 0).sum +
      2 = project.messageBound := by
    rw [prepared.ahead, messageBound, List.sum_map_add, List.map_const', List.sum_replicate]
    simp only [smul_eq_mul, mul_one]
    omega
  rw [messages, started] at underway
  exact underway

/-- A plain project runs on with the same end, however many ticks are granted beyond its bound. -/
theorem IsPlain.runs (plain : project.IsPlain)
    (strict : settings.scheduler.endFaultedThreads = true)
    (untimed : settings.scheduler.blockTimeout = 0)
    (patient : 0 < settings.scheduler.requestTimeout) (paced : Bool) :
    ∃ (count : Nat) (ended : Scheduler (Inline α) α), (∀ limit, project.tickBound ≤ limit →
        project.run settings limit paced = .ok (summary count ended)) ∧
      count ≤ project.tickBound ∧ ended.threads.size = 0 ∧
      ended.stats.threadsRegistered = project.flagBodies.length ∧
      (project.IsSure → ended.stage.Exact) := by
  obtain ⟨events, loaded, loads, prepared⟩ := exists_prepared plain strict patient untimed
  obtain ⟨ids, passed, underway⟩ := prepared.underway
  have launched := launched_eq loads (Prod.ext passed rfl)
  obtain ⟨brisk, workload, going, config, stats, stage⟩ := underway.brisk.start
  have bounded : loaded.greenFlag.2.start.config.maxMessagesPerTick = 1024 := by
    rw [config, underway.config, prepared.config]
    rfl
  have within : loaded.greenFlag.2.start.workload ≤ project.messageBound ⌈/⌉ 1024 *
      loaded.greenFlag.2.start.config.maxMessagesPerTick := by
    rw [workload, bounded, Nat.mul_comm]
    exact underway.workload.trans (le_smul_ceilDiv (by decide : 0 < 1024))
  obtain ⟨count, ended, few, settles, empty, stops⟩ := brisk.ends going (Or.inr within)
    (if paced then settings.tickInterval else 0) 0
  rw [Nat.zero_add] at stops
  refine ⟨count, ended, fun limit enough => ?_, few, empty, ?_, fun sure => ?_⟩
  · unfold run
    rw [launched]
    dsimp only
    rw [Scheduler.driveWhileBusy_eq, stops limit enough]
  · rw [settles.registered, stats, underway.registered, prepared.registered, Nat.zero_add]
  · apply settles.exact sure
    rw [stage]
    exact underway.exact (prepared.exact sure)

/-- Plain projects finish, or they panic at an overflow. A project whose scripts link and call
only blocks that neither yield nor start or stop threads runs to its end within a number of ticks
that the project tells, on the worker of its own thread and as long as faulted threads are ended,
calls of blocks have no deadline and requests have one that is still to come. No thread is left
then, whatever the blocks failed at, and more ticks change nothing; but if a costume number or a
place in paint order overflowed on the way, the program has panicked there. Where a word with a
sign counts the costumes of every target and no script calls one of the two blocks that reckon
with such numbers of the script's own, nothing overflows. -/
theorem plain_projects_finish_or_overflow (project : Project α) (plain : project.IsPlain)
    (settings : Settings) (strict : settings.scheduler.endFaultedThreads = true)
    (untimed : settings.scheduler.blockTimeout = 0)
    (patient : 0 < settings.scheduler.requestTimeout) (paced : Bool) :
    ∃ summary : RunSummary,
      (∀ limit, project.tickBound ≤ limit → project.run settings limit paced = .ok summary ∧
        project.outcome settings limit paced =
          if summary.overflowed then .panicked else .over summary) ∧
      summary.liveThreads = 0 ∧ summary.ticks ≤ project.tickBound ∧
      summary.stats.threadsRegistered = project.flagBodies.length ∧
      (project.IsSure → summary.overflowed = false) := by
  obtain ⟨count, ended, runs, few, empty, registered, exact⟩ :=
    plain.runs strict untimed patient paced
  refine ⟨summary count ended, fun limit enough => ⟨runs limit enough, ?_⟩, empty, few, registered,
    fun sure => (exact sure).unmarked⟩
  rw [outcome, runs limit enough]

section Opcodes

variable {opcodes : List String}

/-- The opcodes that were linked tell whether a project is plain. -/
theorem isPlain_of_opcodes (links : (Linker.link α project.scripts
      (fun id => decide (id ∈ project.targets.map TargetSpec.id)) .safe).1.toOption.map
        Linked.opcodes = some opcodes)
    (swift : ∀ opcode ∈ opcodes, Registry.standard.OffersSwift opcode) : project.IsPlain := by
  cases passed : (Linker.link α project.scripts
      (fun id => decide (id ∈ project.targets.map TargetSpec.id)) .safe).1 with
  | error fault =>
    rw [passed] at links
    cases links
  | ok linked =>
    rw [passed] at links
    obtain rfl := Option.some.inj links
    exact ⟨linked, passed, swift⟩

/-- They tell too whether its arithmetic is sure. -/
theorem isSure_of_opcodes (links : (Linker.link α project.scripts
      (fun id => decide (id ∈ project.targets.map TargetSpec.id)) .safe).1.toOption.map
        Linked.opcodes = some opcodes)
    (countable : ∀ spec ∈ project.targets, ∀ count, spec.costumeCount = some count →
      (count : Int) ≤ Width.high64)
    (spares : ∀ opcode ∈ opcodes,
      opcode ∉ ["looks_switchcostumeto", "looks_goforwardbackwardlayers"]) : project.IsSure := by
  refine ⟨countable, fun linked passed => ?_⟩
  rw [passed] at links
  obtain rfl := Option.some.inj links
  exact spares

end Opcodes

/-- A cat with two scripts on the flag. One fails in its middle, since no rotation style has
that name, and the other at a variable that nothing was assigned to. -/
def stumbling : Project Rat where
  targets := [⟨⟨"cat"⟩, "Cat", false, 0, 0, 90, true, 100, 0, none, .allAround, .empty⟩]
  scripts := .ofList [(⟨"cat"⟩, .ofList [(greenFlagHat, .plain [
    "motion_movesteps STEPS=10\nmotion_setrotationstyle STYLE=\"upside down\"\nlooks_show",
    "looks_hide\nmotion_turnright DEGREES=$angle"])])]

/-- The opcodes that it links. -/
theorem stumbling_opcodes : (Linker.link Rat stumbling.scripts
    (fun id => decide (id ∈ stumbling.targets.map TargetSpec.id)) .safe).1.toOption.map
      Linked.opcodes = some ["motion_movesteps", "motion_setrotationstyle", "looks_show",
        "looks_hide", "motion_turnright"] := by decide +kernel

/-- The cat is done within two ticks, and nothing overflows. -/
theorem stumbling_finishes : stumbling.IsPlain ∧ stumbling.IsSure ∧
    SchedulerSettings.standard.endFaultedThreads = true ∧
    SchedulerSettings.standard.blockTimeout = 0 ∧ 0 < SchedulerSettings.standard.requestTimeout ∧
    stumbling.tickBound = 2 ∧
    ∃ summary, (∀ limit, 2 ≤ limit →
        stumbling.outcome .standard limit false = .over summary) ∧
      summary.liveThreads = 0 ∧ summary.ticks ≤ 2 ∧ summary.stats.threadsRegistered = 2 := by
  have bodies : stumbling.flagBodies.map List.length = [3, 2] := by decide +kernel
  have threads : stumbling.flagBodies.length = 2 := by
    rw [← List.length_map List.length, bodies]
    rfl
  have bound : stumbling.tickBound = 2 := by
    rw [tickBound, messageBound, bodies, threads]
    rfl
  have plain : stumbling.IsPlain := by
    refine isPlain_of_opcodes stumbling_opcodes ?_
    simp only [List.forall_mem_cons]
    exact ⟨⟨.motion .moveSteps, by decide +kernel, MotionBlock.noConfusion⟩,
      ⟨.motion .setRotationStyle, by decide +kernel, MotionBlock.noConfusion⟩,
      ⟨.looks .showTarget, by decide +kernel, fun timed => timed⟩,
      ⟨.looks .hideTarget, by decide +kernel, fun timed => timed⟩,
      ⟨.motion .turnRight, by decide +kernel, MotionBlock.noConfusion⟩,
      fun _ none => (List.not_mem_nil none).elim⟩
  have sure : stumbling.IsSure := by
    refine isSure_of_opcodes stumbling_opcodes ?_ (by decide)
    intro spec member count told
    obtain rfl := List.mem_singleton.mp member
    cases told
  obtain ⟨summary, runs, empty, few, registered, exact⟩ :=
    plain_projects_finish_or_overflow stumbling plain .standard rfl rfl (by decide) false
  rw [bound] at runs few
  rw [threads] at registered
  refine ⟨plain, sure, rfl, rfl, by decide, bound, summary, fun limit enough => ?_, empty, few,
    registered⟩
  rw [(runs limit enough).2, exact sure]
  rfl

/-- A cat with more costumes than a word with a sign counts wears the last one that has such a
number, and goes on to the next. -/
def overdressed : Project Rat where
  targets := [⟨⟨"cat"⟩, "Cat", false, 0, 0, 90, true, 100, 9223372036854775807,
    some 18446744073709551615, .allAround, .empty⟩]
  scripts := .ofList [(⟨"cat"⟩, .ofList [(greenFlagHat, .plain ["looks_nextcostume"])])]

/-- The project is accepted, and its one block neither yields nor starts or stops threads; but the
number of the next costume overflows, and the run panics. -/
theorem overdressed_panics : overdressed.check.isOk = true ∧ overdressed.IsPlain ∧
    SchedulerSettings.standard.endFaultedThreads = true ∧
    SchedulerSettings.standard.blockTimeout = 0 ∧ 0 < SchedulerSettings.standard.requestTimeout ∧
    overdressed.tickBound = 2 ∧
    ∀ limit, 2 ≤ limit → overdressed.outcome .standard limit false = .panicked := by
  have bodies : overdressed.flagBodies.map List.length = [1] := by decide +kernel
  have threads : overdressed.flagBodies.length = 1 := by
    rw [← List.length_map List.length, bodies]
    rfl
  have bound : overdressed.tickBound = 2 := by
    rw [tickBound, messageBound, bodies, threads]
    rfl
  have opcodes : (Linker.link Rat overdressed.scripts
      (fun id => decide (id ∈ overdressed.targets.map TargetSpec.id)) .safe).1.toOption.map
        Linked.opcodes = some ["looks_nextcostume"] := by decide +kernel
  have plain : overdressed.IsPlain := by
    refine isPlain_of_opcodes opcodes ?_
    rw [List.forall_mem_singleton]
    exact ⟨.looks .nextCostume, by decide +kernel, fun timed => timed⟩
  obtain ⟨count, ended, runs, -⟩ := plain.runs (show Settings.standard.scheduler.endFaultedThreads =
    true from rfl) rfl (by decide) false
  rw [bound] at runs
  have overflows : (overdressed.run .standard 2 false).toOption.map RunSummary.overflowed =
      some true := by decide +kernel
  rw [runs 2 (Nat.le_refl 2)] at overflows
  refine ⟨by decide +kernel, plain, rfl, rfl, by decide, bound, fun limit enough => ?_⟩
  rw [outcome, runs limit enough]
  exact if_pos (Option.some.inj overflows)

end Project

end SpriteMachine
