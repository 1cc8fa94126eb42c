import SpriteMachine.Proofs.Inline.Reload
import SpriteMachine.Proofs.List
import SpriteMachine.Proofs.Scheduler.Dispatch
import SpriteMachine.Proofs.Scheduler.Single

/-!
# Which threads a hat starts

Beside an inline worker a hat starts one thread for each script and instance that is due, in
the order of registration and then of the targets. Threads that run for those pairs already
are finished, which happens under restarting hats only, and all others stay. So no two
active threads ever run for the same script on the same instance.
-/

namespace SpriteMachine

variable {α : Type}

namespace Scheduler

/-- A thread of a hat began for a script on an instance. -/
def StartedFor (hat : String) (after : Scheduler (Inline α) α)
    (pair : (ScriptId × Registration) × Target α) (id : ThreadId) : Prop :=
  after.threads.find? id = some (.forHat id pair.2.id ⟨pair.1.1, hat, pair.1.2.option⟩)

/-- A hat started its scripts: one new thread runs for each pair that is due, those that ran
for such a pair are finished if the hat restarts, and every other thread is as it was. -/
structure Started (before : Scheduler (Inline α) α) (hat : String) (filter : HatFilter)
    (restarting : Bool) (ids : List ThreadId) (after : Scheduler (Inline α) α) : Prop where
  started : List.Forall₂ (StartedFor hat after) (before.due hat filter restarting) ids
  fresh : ∀ id ∈ ids, ¬ before.ids.Issued id.text ∧ before.threads.find? id = none
  distinct : ids.Nodup
  others : ∀ id, id ∉ ids → after.threads.find? id = (before.threads.find? id).map fun thread =>
    if restarting = true ∧ thread.isActive = true ∧
        ∃ pair ∈ before.due hat filter restarting, RunsFor thread (pair.1.1, pair.2.id)
    then thread.finish else thread

/-- A thread that a hat started is live. -/
theorem Started.live {before after : Scheduler (Inline α) α} {hat : String} {filter : HatFilter}
    {restarting : Bool} {ids : List ThreadId} {id : ThreadId}
    (starts : Started before hat filter restarting ids after) (member : id ∈ ids) :
    after.isLive id = true := by
  obtain ⟨pair, -, found⟩ := exists_of_forall₂ starts.started member
  exact isLive_of_find found

/-- When the worker starts every thread that it is asked to start, the live threads are those
that were begun. -/
theorem requestStarts_threads {τ : Type} [Transport τ α] {scheduler : Scheduler τ α} {hat : String}
    {option : Option String} {starts : List ThreadStart}
    (accepted : (scheduler.requestStarts hat option starts).1 =
      .ok (starts.map ThreadStart.thread)) :
    (scheduler.requestStarts hat option starts).2.threads = scheduler.threads := by
  unfold requestStarts at accepted ⊢
  split
  case h_1 listed bridge asked =>
    rw [asked] at accepted
    obtain rfl := Except.ok.inj accepted
    have nobody : (starts.map ThreadStart.thread).filter
        (· ∉ starts.map ThreadStart.thread) = [] :=
      List.filter_eq_nil_iff.mpr fun id member => by simpa using member
    rw [nobody]
    rfl
  case h_2 fault bridge asked =>
    rw [asked] at accepted
    cases accepted

section Starting

variable [Scalar α] {scheduler : Scheduler (Inline α) α}

/-- The worker starts every thread that a hat begins, also where it is never asked. -/
theorem startHats_accepted {limit : Nat} (shares : Shares limit scheduler)
    (distinct : scheduler.ids.Distinct) {hat : String} {restarting : Bool}
    (known : scheduler.registry.hat? hat = some restarting) (filter : HatFilter) :
    (scheduler.startHats hat filter).1 = .ok
      ((beginAll hat restarting scheduler (scheduler.hatCandidates hat filter)).1.1.map
        ThreadStart.thread) := by
  rcases Nat.eq_zero_or_pos limit with impatient | patient
  · have nobody : scheduler.hatCandidates hat filter = [] := by
      refine List.eq_nil_iff_forall_not_mem.mpr fun candidate member => ?_
      obtain ⟨registration, kept⟩ := hatCandidates_kept member
      rw [shares.idle impatient] at kept
      cases kept
    unfold Scheduler.startHats
    rw [known, nobody]
    rfl
  · exact startHats_admitted shares patient distinct known filter

/-- Behind a hat stand the threads that were begun. -/
theorem startHats_threads {limit : Nat} (shares : Shares limit scheduler)
    (distinct : scheduler.ids.Distinct) {hat : String} {restarting : Bool}
    (known : scheduler.registry.hat? hat = some restarting) (filter : HatFilter) :
    (scheduler.startHats hat filter).2.threads =
      (beginAll hat restarting scheduler (scheduler.hatCandidates hat filter)).2.threads := by
  have accepted := startHats_accepted shares distinct known filter
  unfold Scheduler.startHats at accepted ⊢
  rw [known] at accepted ⊢
  dsimp only at accepted ⊢
  split
  case isTrue => rfl
  case isFalse somebody =>
    rw [if_neg somebody] at accepted
    rw [requestStarts_threads accepted]
    rfl

/-- A hat that starts its scripts starts those that are due. -/
theorem startHats_started {limit : Nat} (shares : Shares limit scheduler)
    (orderly : Orderly scheduler) (tidy : Tidy scheduler) {hat : String} {filter : HatFilter}
    {ids : List ThreadId} (passed : (scheduler.startHats hat filter).1 = .ok ids) :
    ∃ restarting, scheduler.registry.hat? hat = some restarting ∧
      Started scheduler hat filter restarting ids (scheduler.startHats hat filter).2 := by
  cases known : scheduler.registry.hat? hat with
  | none =>
    unfold Scheduler.startHats at passed
    rw [known] at passed
    cases passed
  | some restarting =>
    have accepted := startHats_accepted shares orderly.distinct known filter
    rw [passed] at accepted
    obtain rfl := Except.ok.inj accepted
    have single := hatCandidates_single tidy.targets hat filter
    have begun := beginAll_begun hat restarting single orderly
    have dispatched := beginAll_dispatched hat restarting single orderly
    have threads := startHats_threads shares orderly.distinct known filter
    rw [admitted_due] at dispatched
    generalize beginAll hat restarting scheduler (scheduler.hatCandidates hat filter) = result
      at begun dispatched threads
    obtain ⟨⟨starts, replaced⟩, middle⟩ := result
    dsimp only at begun dispatched threads ⊢
    refine ⟨restarting, rfl, ⟨?_, fun id member => ?_, begun.distinct, fun id absent => ?_⟩⟩
    · rw [List.forall₂_map_right_iff]
      refine (List.forall₂_map_left_iff.mp dispatched.begun).imp fun pair start begins => ?_
      rw [StartedFor, threads]
      exact begins
    · obtain ⟨start, present, rfl⟩ := List.mem_map.mp member
      refine ⟨begun.fresh start present, ?_⟩
      cases found : scheduler.threads.find? start.thread with
      | none => rfl
      | some thread => exact absurd (orderly.issued _ thread found) (begun.fresh start present)
    · rw [threads, dispatched.others id absent]
      cases found : scheduler.threads.find? id with
      | none => rfl
      | some thread =>
        have runs := (dispatched.ended id).trans (due_replaced orderly.keyed found)
        rw [Option.map_some, Option.map_some, if_congr runs rfl rfl]

end Starting

/-- A hat starts exactly the right threads. Beside an inline worker, behind any operations,
a hat that starts threads starts one for each script and instance that is due, and no two
active threads run for the same script on the same instance. -/
theorem hats_start_what_is_due [Scalar α] (config : SchedulerConfig) (registry : Registry)
    (motors : Motors (LoopbackLink α) α) (ids : IdSource) (distinct : ids.Distinct)
    (operations : List (Operation (Inline α) α))
    (allowed : ∀ operation ∈ operations, operation.SparesBridge ∧ operation.KeepsTargets) :
    let now := (fresh config registry (Inline.idle config.blockTimeout) ids motors).run operations
    (∀ hat filter started, (now.startHats hat filter).1 = .ok started →
      ∃ restarting, now.registry.hat? hat = some restarting ∧
        Started now hat filter restarting started (now.startHats hat filter).2) ∧
    ∀ pair left right first second,
      now.threads.find? left = some first → first.isActive = true → RunsFor first pair →
      now.threads.find? right = some second → second.isActive = true → RunsFor second pair →
        left = right := by
  intro now
  have shares : Shares config.requestTimeout now :=
    run_shares config registry motors ids fun operation member => (allowed operation member).1
  have tidy : Tidy now :=
    run_tidy config registry _ ids motors fun operation member => (allowed operation member).2
  have orderly : Orderly now :=
    (run_advances operations _ (fresh_orderly config registry _ motors distinct)).1
  refine ⟨fun hat filter started passed => startHats_started shares orderly tidy passed,
    fun pair left right first second found active runs present live otherwise => ?_⟩
  exact tidy.single pair left right first second (standing_eq_some.mpr ⟨found, active⟩)
    (standing_eq_some.mpr ⟨present, live⟩) runs otherwise

/-- A sprite whose script the green flag starts. -/
def flagged : List (Operation (Inline Rat) Rat) :=
  [.addTarget (.sprite ⟨"cat"⟩ "Cat"),
    .loadScripts (.ofList [(⟨"cat"⟩, .ofList [(greenFlagHat, .plain ["looks_show\nlooks_hide"])])]),
    .startHats greenFlagHat .any]

/-- The green flag starts the script again, and a new thread takes the place of the one that
runs for it. -/
theorem flagged_restarts :
    let now := standardScheduler.run flagged
    ∃ started, Started now greenFlagHat .any true [started]
      (now.startHats greenFlagHat .any).2 := by
  intro now
  obtain ⟨starts, -⟩ := hats_start_what_is_due .standard .standard
    (.atRest .reliable Motors.defaultBackoff : Motors (LoopbackLink Rat) Rat) .numbered
    IdSource.numbered_distinct flagged
      (by simp [flagged, Operation.SparesBridge, Operation.KeepsTargets])
  have once : (now.startHats greenFlagHat .any).1.toOption.map List.length = some 1 := by
    decide +kernel
  have restarts : now.registry.hat? greenFlagHat = some true := by decide +kernel
  cases passed : (now.startHats greenFlagHat .any).1 with
  | error fault =>
    rw [passed] at once
    cases once
  | ok ids =>
    rw [passed] at once
    obtain ⟨started, rfl⟩ := List.length_eq_one_iff.mp (Option.some.inj once)
    obtain ⟨restarting, known, dispatched⟩ := starts greenFlagHat .any [started] passed
    obtain rfl := Option.some.inj (restarts.symm.trans known)
    exact ⟨started, dispatched⟩

end Scheduler

end SpriteMachine
