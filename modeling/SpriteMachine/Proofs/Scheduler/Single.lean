import SpriteMachine.Proofs.Scheduler.Beat

/-!
# One thread for each pair

No two active threads run for the same script on the same instance: a thread of a hat is
registered only when its pair is free, and whatever else happens to a thread leaves its
binding and its target. Threads and targets stand under their own names.
-/

namespace SpriteMachine

/-- An operation under which the targets of the stage stay under their own names. -/
def Operation.KeepsTargets {τ α : Type} : Operation τ α → Prop
  | .changeStage change => ∀ stage, stage.Keyed → (change stage).Keyed
  | _ => True

namespace Scheduler

variable {τ α : Type} {before after scheduler : Scheduler τ α}

/-- Threads and targets stand under their own names, and active threads run for different
pairs of a script and an instance. -/
structure Tidy (scheduler : Scheduler τ α) : Prop where
  targets : scheduler.stage.Keyed
  threads : scheduler.Keyed
  single : ∀ pair left right first second, scheduler.standing left = some first →
    scheduler.standing right = some second → RunsFor first pair → RunsFor second pair →
      left = right

/-- Threads may end, be removed or change their stacks. -/
structure Thins (before after : Scheduler τ α) : Prop where
  stage : before.stage.Keyed → after.stage.Keyed
  threads : ∀ id thread, after.threads.find? id = some thread →
    ∃ earlier, before.threads.find? id = some earlier ∧ earlier.Leads thread

/-- A tidy scheduler stays tidy when threads end, are removed or change their stacks. -/
theorem Tidy.thin (tidy : Tidy before) (thins : Thins before after) : Tidy after := by
  have stood : ∀ id thread, after.standing id = some thread → ∃ earlier,
      before.standing id = some earlier ∧ ∀ pair, RunsFor thread pair → RunsFor earlier pair := by
    intro id thread stands
    obtain ⟨found, active⟩ := standing_eq_some.mp stands
    obtain ⟨earlier, present, leads⟩ := thins.threads id thread found
    refine ⟨earlier, standing_eq_some.mpr ⟨present, leads.active active⟩, fun pair runs => ?_⟩
    rw [RunsFor, ← leads.target, ← leads.binding]
    exact runs
  refine ⟨thins.stage tidy.targets, fun id thread found => ?_,
    fun pair left right first second leftStands rightStands leftRuns rightRuns => ?_⟩
  · obtain ⟨earlier, present, leads⟩ := thins.threads id thread found
    exact leads.id.trans (tidy.threads id earlier present)
  · obtain ⟨one, oneStands, oneRuns⟩ := stood left first leftStands
    obtain ⟨two, twoStands, twoRuns⟩ := stood right second rightStands
    exact tidy.single pair left right one two oneStands twoStands (oneRuns pair leftRuns)
      (twoRuns pair rightRuns)

/-- The live threads stay as they are. -/
theorem Thins.still (stage : before.stage.Keyed → after.stage.Keyed)
    (threads : after.threads = before.threads) : Thins before after := by
  refine ⟨stage, fun id thread found => ⟨thread, ?_, .refl thread⟩⟩
  rw [← threads]
  exact found

/-- One thread is changed. -/
theorem Thins.modify (id : ThreadId) (change : Thread α → Thread α)
    (stage : after.stage = before.stage) (threads : after.threads = before.threads.modify id change)
    (leads : ∀ thread, before.threads.find? id = some thread → thread.Leads (change thread)) :
    Thins before after := by
  refine ⟨fun keyed => stage ▸ keyed, fun other thread found => ?_⟩
  rw [threads, OrderedMap.find_modify] at found
  split at found
  case isTrue same =>
    subst same
    obtain ⟨earlier, present, rfl⟩ := Option.map_eq_some_iff.mp found
    exact ⟨earlier, present, leads earlier present⟩
  case isFalse => exact ⟨thread, found, .refl thread⟩

/-- Some threads are removed. -/
theorem Thins.filter (keep : ThreadId → Thread α → Bool) (stage : after.stage = before.stage)
    (threads : after.threads = before.threads.filter keep) : Thins before after := by
  refine ⟨fun keyed => stage ▸ keyed, fun id thread found => ?_⟩
  rw [threads, OrderedMap.find_filter] at found
  exact ⟨thread, (Option.filter_eq_some_iff.mp found).1, .refl thread⟩

/-- A thread is finished. -/
theorem Thins.finish {id : ThreadId} (stage : after.stage = before.stage)
    (threads : after.threads = before.threads.modify id Thread.finish) : Thins before after :=
  .modify id Thread.finish stage threads fun thread _ => thread.finish_leads

/-- To end a thread thins the others out. -/
theorem endThread_thins (scheduler : Scheduler τ α) (id : ThreadId) :
    Thins scheduler (scheduler.endThread id).2 := by
  unfold endThread
  split
  case isTrue => exact .finish rfl rfl
  case isFalse => exact .still (fun keyed => keyed) rfl

/-- A tidy scheduler stays tidy when threads are retired. -/
theorem Tidy.retireAll (ids : List ThreadId) {scheduler : Scheduler τ α} (tidy : Tidy scheduler) :
    Tidy (scheduler.retireAll ids) := by
  induction ids generalizing scheduler with
  | nil => exact tidy
  | cons first rest inductionHypothesis =>
    exact inductionHypothesis (tidy.thin (.finish rfl rfl))

/-- A thread whose pair is free may be registered. -/
theorem Tidy.adopt (tidy : Tidy scheduler) {thread : ThreadId → Thread α}
    (registrable : scheduler.Registrable thread) :
    Tidy (scheduler.nextThreadId.2.adopt (thread scheduler.nextThreadId.1)) := by
  have named := registrable.named scheduler.nextThreadId.1
  have stands : ∀ id, (scheduler.nextThreadId.2.adopt
      (thread scheduler.nextThreadId.1)).standing id =
        if id = scheduler.nextThreadId.1 then some (thread scheduler.nextThreadId.1)
        else scheduler.standing id := by
    intro id
    rw [standing_adopt _ _ (registrable.rests _).active, named]
    rfl
  have alone : ∀ pair id other, RunsFor (thread scheduler.nextThreadId.1) pair →
      scheduler.standing id = some other → ¬ RunsFor other pair := by
    intro pair id other runs found running
    have free := registrable.single tidy.threads scheduler.nextThreadId.1 pair runs
    have active := (mem_activeOn tidy.threads).mpr ⟨other, found, running⟩
    rw [free] at active
    cases active
  refine ⟨tidy.targets, fun id found present => ?_,
    fun pair left right first second leftStands rightStands leftRuns rightRuns => ?_⟩
  · change (scheduler.threads.insert _ _).find? id = some found at present
    rw [OrderedMap.find_insert, named] at present
    split at present
    case isTrue same =>
      obtain rfl := Option.some.inj present
      rw [named, same]
    case isFalse => exact tidy.threads id found present
  · rw [stands] at leftStands rightStands
    split at leftStands
    case isTrue leftNew =>
      split at rightStands
      case isTrue rightNew => exact leftNew.trans rightNew.symm
      case isFalse =>
        obtain rfl := Option.some.inj leftStands
        exact absurd rightRuns (alone pair right second leftRuns rightStands)
    case isFalse =>
      split at rightStands
      case isTrue =>
        obtain rfl := Option.some.inj rightStands
        exact absurd leftRuns (alone pair left first rightRuns leftStands)
      case isFalse =>
        exact tidy.single pair left right first second leftStands rightStands leftRuns rightRuns

/-- A scheduler that has just been made has no threads and no targets. -/
theorem fresh_tidy [Scalar α] (config : SchedulerConfig) (registry : Registry) (transport : τ)
    (ids : IdSource) (motors : Motors (LoopbackLink α) α) :
    Tidy (fresh config registry transport ids motors) := by
  refine ⟨Stage.keyed_empty config.maxClones, ?_, ?_⟩
  · intro id thread none
    cases none
  · intro pair left right first second none
    cases none

/-- A thread that is woken stands for the same run. -/
theorem woken_leads {thread woken : Thread α} {frame : Option (Frame α)}
    (popped : (thread.setStatus .running).popBlock = (frame, woken)) : thread.Leads woken := by
  have running : thread.Leads (thread.setStatus .running) := thread.setStatus_leads (by decide)
  have leads := running.trans (thread.setStatus .running).popBlock_leads
  rw [popped] at leads
  exact leads

/-- A thread is woken and gives up its top frame. -/
theorem woken_thins {id : ThreadId} {thread woken : Thread α} {frame : Option (Frame α)}
    (found : scheduler.threads.find? id = some thread)
    (popped : (thread.setStatus .running).popBlock = (frame, woken)) :
    Thins scheduler { scheduler with threads := scheduler.threads.modify id fun _ => woken } := by
  refine .modify id (fun _ => woken) rfl rfl fun other present => ?_
  obtain rfl := Option.some.inj (found.symm.trans present)
  exact woken_leads popped

/-- To suspend a thread changes its stack only. -/
theorem suspend_thins [Scalar α] (scheduler : Scheduler τ α) (id : ThreadId) (frame : Frame α) :
    Thins scheduler (scheduler.suspend id frame) := by
  refine .modify id (fun thread => if thread.isActive then
    (thread.push { frame with state := .waiting }).setStatus .yielding else thread)
    rfl rfl fun thread _ => ?_
  split
  case isTrue => exact (thread.push_leads _).trans (Thread.setStatus_leads _ (by decide))
  case isFalse => exact .refl thread

variable [Transport τ α]

/-- To answer the worker leaves every thread. -/
theorem answer_thins (scheduler : Scheduler τ α) (token : Option Token)
    (reply : Token → HostMessage α) : Thins scheduler (scheduler.answer token reply).2 := by
  cases token with
  | none => exact .still (fun keyed => keyed) rfl
  | some token =>
    rw [answer_some]
    exact .still (fun keyed => keyed) rfl

/-- To open a backend leaves every thread. -/
theorem openBackend_thins (scheduler : Scheduler τ α) (url : String) :
    Thins scheduler (scheduler.openBackend url).2 := by
  unfold openBackend
  split
  case h_1 => exact .still (fun keyed => keyed) rfl
  case h_2 => split <;> exact .still (fun keyed => keyed) rfl

/-- A stroke leaves a tidy scheduler tidy. -/
theorem Stroke.tidy (stroke : Stroke before after) (tidy : Tidy before) : Tidy after := by
  cases stroke with
  | quiet quiet => exact tidy.thin (.still quiet.stage.keyed quiet.threads)
  | retire id => exact tidy.thin (.finish rfl rfl)
  | finish id => exact tidy.thin (endThread_thins before id)
  | clear ended => exact tidy.thin (.filter _ rfl rfl)
  | adopt registrable => exact tidy.adopt registrable
  | tell message order => exact tidy.thin (.still (fun keyed => keyed) rfl)
  | ask hat option starts => exact tidy.thin (.still (fun keyed => keyed) rfl)

/-- Strokes leave a tidy scheduler tidy. -/
theorem Strokes.tidy (strokes : Strokes before after) (tidy : Tidy before) : Tidy after := by
  induction strokes with
  | refl => exact tidy
  | tail _ stroke inductionHypothesis => exact stroke.tidy inductionHypothesis

variable [Scalar α]

/-- Every beat leaves one thread for each pair. -/
theorem Beat.tidy {before after : Instant τ α} (beat : Beat before after)
    (tidy : Tidy before.scheduler) : Tidy after.scheduler := by
  cases beat with
  | act act => exact act.strokes.tidy tidy
  | sweep scheduler faults => exact tidy.thin (.filter (fun _ thread => thread.isActive) rfl rfl)
  | wake found yielding popped known faults => exact tidy.thin (woken_thins found popped)
  | lose found yielding popped unknown faults => exact tidy.thin (woken_thins found popped)
  | suspend scheduler id opcode token known faults => exact tidy.thin (suspend_thins scheduler id _)
  | answer scheduler id frame reply answers more agreed faults =>
    exact tidy.thin (answer_thins scheduler frame.token reply)
  | retire scheduler id faults => exact tidy.thin (.finish rfl rfl)
  | @ended scheduler id bridge received more missing faults =>
    have heard : Thins scheduler { scheduler with bridge := bridge } :=
      .still (fun keyed => keyed) rfl
    exact (tidy.thin heard).thin (endThread_thins _ id)
  | _ => exact tidy.thin (.still (fun keyed => keyed) rfl)

/-- The beats of a tick leave a tidy scheduler tidy. -/
theorem Beats.tidy {before after : Instant τ α} (beats : Beats before after)
    (tidy : Tidy before.scheduler) : Tidy after.scheduler := by
  induction beats with
  | refl => exact tidy
  | tail _ beat inductionHypothesis => exact beat.tidy inductionHypothesis

/-- A tidy scheduler stays tidy when scripts are loaded. -/
theorem Tidy.loadScripts (tidy : Tidy scheduler) (batch : Batch) :
    Tidy (scheduler.loadScripts batch).2 := by
  have quiet := linkKnown_quiet scheduler batch
  have named := tidy.thin (.still quiet.stage.keyed quiet.threads)
  unfold Scheduler.loadScripts
  split
  case h_1 fault left result =>
    rw [result] at named
    exact named
  case h_2 linked left result =>
    rw [result] at named
    have registered : ∀ bridge : Bridge τ α, Tidy { left with bridge := bridge } :=
      fun bridge => named.thin (.still (fun keyed => keyed) rfl)
    split
    case h_1 => exact registered _
    case h_2 => exact ((registered _).retireAll _).thin (.still (fun keyed => keyed) rfl)

/-- A tidy scheduler stays tidy when a batch is run at once. -/
theorem Tidy.runBatch (tidy : Tidy scheduler) (batch : Batch) :
    Tidy (scheduler.runBatch batch).2 := by
  have quiet := linkKnown_quiet scheduler batch
  have named := tidy.thin (.still quiet.stage.keyed quiet.threads)
  unfold Scheduler.runBatch
  split
  case h_1 fault left result =>
    rw [result] at named
    exact named
  case h_2 linked left result =>
    rw [result] at named
    have adopted := (adoptAll_strokes linked.registrations.entries left).tidy named
    generalize left.adoptAll linked.registrations.entries = registered at adopted
    obtain ⟨starts, adopting⟩ := registered
    have posted : ∀ bridge : Bridge τ α, Tidy { adopting with bridge := bridge } :=
      fun bridge => adopted.thin (.still (fun keyed => keyed) rfl)
    dsimp only
    split
    case h_1 => exact (posted _).retireAll _
    case h_2 => exact posted _

/-- A tidy scheduler stays tidy when the host executes a block. -/
theorem Tidy.execute (tidy : Tidy scheduler) (id : ThreadId) (opcode : String) (args : Args α)
    (token : Option Token) : Tidy (scheduler.call id opcode args token).2 := by
  obtain ⟨fault, -, -, failed⟩ | ⟨target, block, live, known, calls⟩ :=
    call_cases scheduler id opcode args token
  · rw [failed]
    exact tidy
  · rw [calls]
    exact (invoke_beats target block (.fresh opcode args token) live known []).tidy tidy

/-- Every operation leaves one thread for each pair. -/
theorem Tidy.perform (tidy : Tidy scheduler) {operation : Operation τ α}
    (keeps : operation.KeepsTargets) : Tidy (scheduler.perform operation) := by
  have rhythmic : IsRhythmic operation → Tidy (scheduler.perform operation) := by
    intro rhythmic
    obtain ⟨faults, beats⟩ := perform_beats scheduler rhythmic
    exact beats.tidy tidy
  cases operation with
  | openBackend url => exact tidy.thin (openBackend_thins scheduler url)
  | loadScripts batch => exact tidy.loadScripts batch
  | runBatch batch => exact tidy.runBatch batch
  | registerThread target hasListener =>
    exact (addThread_stroke scheduler target hasListener).tidy tidy
  | endThread thread => exact tidy.thin (endThread_thins scheduler thread)
  | execute thread opcode args token => exact tidy.execute thread opcode args token
  | quit => exact tidy.thin ⟨fun keyed => keyed, fun _ _ none => by cases none⟩
  | changeStage change => exact tidy.thin (.still (keeps scheduler.stage) rfl)
  | changeDevices change => exact tidy.thin (.still (fun keyed => keyed) rfl)
  | changeBridge change => exact tidy.thin (.still (fun keyed => keyed) rfl)
  | _ => exact rhythmic trivial

/-- A run that keeps its targets leaves a fresh scheduler tidy. -/
theorem run_tidy (config : SchedulerConfig) (registry : Registry) (transport : τ)
    (ids : IdSource) (motors : Motors (LoopbackLink α) α) {operations : List (Operation τ α)}
    (keeps : ∀ operation ∈ operations, operation.KeepsTargets) :
    Tidy ((fresh config registry transport ids motors).run operations) :=
  run_induction (fun _ _ allowed tidy => tidy.perform allowed)
    (fresh_tidy config registry transport ids motors) keeps

end Scheduler

end SpriteMachine
