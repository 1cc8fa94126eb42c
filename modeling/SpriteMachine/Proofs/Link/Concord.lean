import SpriteMachine.Proofs.Link.Regular
import SpriteMachine.Proofs.Scheduler.Tracking

/-!
# A host in concord with its link

A host is in concord with its link while the link is regular for the opcodes that the host
knows and the host keeps track of every thread that the link mentions. It stays so whatever
acts it performs: a thread is registered under a new name before the worker is asked to
start it, and one that the host ends is retired, whatever is still under way about it.
-/

namespace SpriteMachine

/-- A message that brings no scripts and starts no threads. -/
structure HostMessage.IsPlain {α : Type} (message : HostMessage α) : Prop where
  source : message.source? = none
  launches : message.launches = []

namespace Link

variable {α : Type} [Scalar α] {known : String → Prop} {before after : Link α}
  {message : HostMessage α}

/-- A message that may be sent leaves the link regular, and mentions only what it starts. -/
theorem Regular.posts (regular : Regular known before) (posts : Bridge.Posts before message after)
    (versed : message.Versed known) (distinct : (message.launches.map ThreadStart.thread).Nodup)
    (fresh : ∀ id ∈ message.launches.map ThreadStart.thread, ¬ before.Mentions id) :
    Regular known after ∧ ∀ id, after.Mentions id →
      before.Mentions id ∨ id ∈ message.launches.map ThreadStart.thread := by
  obtain ⟨here, waits, unsent | sent⟩ := posts
  · obtain ⟨last, fewer⟩ := regular.drifts (waits.trans unsent)
    exact ⟨last, fun id mentions => Or.inl (fewer id mentions)⟩
  · obtain ⟨middle, fewer⟩ := regular.drifts waits
    obtain ⟨last, still⟩ := (middle.post versed distinct fun id member mentions =>
      fresh id member (fewer id mentions)).drifts sent
    refine ⟨last, fun id mentions => ?_⟩
    exact (mentions_post (still id mentions)).imp_left (fewer id)

end Link

open Link

namespace Scheduler

variable {τ α : Type} {view : τ → Link α} {before after scheduler : Scheduler τ α}

/-- An opcode that names a block. -/
def Knows (scheduler : Scheduler τ α) (opcode : String) : Prop :=
  (scheduler.registry.block? opcode).isSome

/-- Where the settings are kept the same opcodes are known. -/
theorem Keeps.knows (keeps : Keeps before after) : after.Knows = before.Knows := by
  unfold Knows
  rw [keeps.registry]

/-- Threads that are registered under different names, of which the link holds nothing yet. -/
structure Poised (view : τ → Link α) (scheduler : Scheduler τ α) (ids : List ThreadId) : Prop where
  distinct : ids.Nodup
  tracked : ∀ id ∈ ids, scheduler.Tracks id
  unmentioned : ∀ id ∈ ids, ¬ (scheduler.bridge.link view).Mentions id

/-- Nobody is poised to start where there is nobody. -/
theorem Poised.nobody (view : τ → Link α) (scheduler : Scheduler τ α) : Poised view scheduler [] :=
  ⟨List.nodup_nil, fun _ none => (List.not_mem_nil none).elim,
    fun _ none => (List.not_mem_nil none).elim⟩

variable [Scalar α]

/-- A host that knows what its link calls and keeps track of the threads that it mentions. -/
structure Concord (view : τ → Link α) (scheduler : Scheduler τ α) : Prop where
  distinct : scheduler.ids.Distinct
  laden : scheduler.Laden
  recalls : scheduler.Recalls
  regular : Regular scheduler.Knows (scheduler.bridge.link view)
  tracked : ∀ id, (scheduler.bridge.link view).Mentions id → scheduler.Tracks id

/-- The host goes on, and so does its link. -/
theorem Concord.proceed (concord : Concord view before) (proceeds : Proceeds before after)
    (regular : Regular before.Knows (after.bridge.link view))
    (tracked : ∀ id, (after.bridge.link view).Mentions id → after.Tracks id) :
    Concord view after :=
  ⟨proceeds.ids.distinct concord.distinct, proceeds.laden concord.laden,
    proceeds.recalls concord.recalls, proceeds.knows ▸ regular, tracked⟩

/-- The host does something by itself. -/
theorem Concord.mind (concord : Concord view before) (minds : Minds before after)
    (bridge : after.bridge = before.bridge) : Concord view after := by
  refine concord.proceed minds.toProceeds ?_ fun id mentions => ?_
  · rw [bridge]
    exact concord.regular
  · rw [bridge] at mentions
    exact minds.tracked id (concord.tracked id mentions)

/-- The host stays in concord over a quiet change. -/
theorem Concord.quiet (concord : Concord view before) (quiet : Quiet before after) :
    Concord view after :=
  concord.mind quiet.minds quiet.bridge

/-- The host stays in concord when threads are retired. -/
theorem Concord.retireAll (concord : Concord view scheduler) (ids : List ThreadId) :
    Concord view (scheduler.retireAll ids) :=
  concord.mind (retireAll_minds ids scheduler) (retireAll_framed ids scheduler).bridge

/-- The link goes on while the host does nothing. -/
theorem Concord.drift (concord : Concord view scheduler) {bridge : Bridge τ α}
    (drifts : Drifts (scheduler.bridge.link view) (bridge.link view)) :
    Concord view { scheduler with bridge := bridge } := by
  obtain ⟨regular, fewer⟩ := concord.regular.drifts drifts
  exact concord.proceed (Minds.ofBridge scheduler bridge).toProceeds regular
    fun id mentions => concord.tracked id (fewer id mentions)

/-- Threads that were registered under new names are poised. -/
theorem Concord.enlist (concord : Concord view before) {starts : List ThreadStart}
    (enlists : Enlists before after starts) :
    Concord view after ∧ Poised view after (starts.map ThreadStart.thread) := by
  refine ⟨concord.mind enlists.minds enlists.bridge, enlists.distinct concord.distinct,
    enlists.tracked, fun id member mentions => ?_⟩
  rw [enlists.bridge] at mentions
  exact enlists.fresh concord.distinct id member (concord.tracked id mentions).1

section Posting

variable {bridge : Bridge τ α} {message : HostMessage α}

/-- The host sends a message that brings known opcodes and starts threads that are poised. -/
theorem Concord.posts (concord : Concord view scheduler)
    (posts : Bridge.Posts (scheduler.bridge.link view) message (bridge.link view))
    (versed : message.Versed scheduler.Knows)
    (poised : Poised view scheduler (message.launches.map ThreadStart.thread)) :
    Concord view { scheduler with bridge := bridge } := by
  obtain ⟨regular, fewer⟩ :=
    concord.regular.posts posts versed poised.distinct poised.unmentioned
  refine concord.proceed (Minds.ofBridge scheduler bridge).toProceeds regular fun id mentions => ?_
  exact (fewer id mentions).elim (concord.tracked id) (poised.tracked id)

/-- A message without source brings no opcode. -/
theorem versed_of_sourceless {known : String → Prop} (none : message.source? = none) :
    message.Versed known := by
  intro source brought
  rw [none] at brought
  cases brought

variable [Transport τ α] (relays : Relays view)

include relays

/-- The host sends a plain message, and threads that are poised remain so. -/
theorem Concord.tell (concord : Concord view scheduler) (plain : message.IsPlain) :
    Concord view { scheduler with bridge := (scheduler.bridge.post message).2 } ∧
      ∀ ids, Poised view scheduler ids →
        Poised view { scheduler with bridge := (scheduler.bridge.post message).2 } ids := by
  have posts := Bridge.post_posts relays scheduler.bridge message
  have versed : message.Versed scheduler.Knows := versed_of_sourceless plain.source
  have free : Poised view scheduler (message.launches.map ThreadStart.thread) := by
    rw [plain.launches]
    exact .nobody view scheduler
  refine ⟨concord.posts posts versed free, fun ids poised =>
    ⟨poised.distinct, poised.tracked, fun id member mentions => ?_⟩⟩
  obtain ⟨-, fewer⟩ := concord.regular.posts posts versed free.distinct free.unmentioned
  rcases fewer id mentions with earlier | started
  · exact poised.unmentioned id member earlier
  · rw [plain.launches] at started
    cases started

/-- The host stays in concord when it tells who was stopped, and whoever is poised to start stays
so. -/
theorem Concord.tellStopped (concord : Concord view scheduler) (stopped : List ThreadId) :
    Concord view (scheduler.tellStopped stopped) ∧
      ∀ ids, Poised view scheduler ids → Poised view (scheduler.tellStopped stopped) ids := by
  unfold Scheduler.tellStopped Bridge.stopThreads
  split
  case isTrue => exact ⟨concord, fun _ poised => poised⟩
  case isFalse => exact concord.tell relays ⟨rfl, rfl⟩

end Posting

section Acting

variable [Transport τ α] (relays : Relays view)

include relays

/-- The worker is asked to start threads that are poised. -/
theorem Concord.requestStarts (concord : Concord view scheduler) (hat : String)
    (option : Option String) {starts : List ThreadStart}
    (poised : Poised view scheduler (starts.map ThreadStart.thread)) :
    Concord view (scheduler.requestStarts hat option starts).2 := by
  have asked := concord.posts (Bridge.startHats_posts relays scheduler.bridge hat option starts)
    (versed_of_sourceless rfl) poised
  unfold Scheduler.requestStarts
  split
  case h_1 accepted bridge result =>
    rw [result] at asked
    exact asked.retireAll _
  case h_2 fault bridge result =>
    rw [result] at asked
    exact asked.retireAll _

/-- The host stays in concord when hats are started. -/
theorem Concord.startHats (concord : Concord view scheduler) (hat : String) (filter : HatFilter) :
    Concord view (scheduler.startHats hat filter).2 := by
  unfold Scheduler.startHats
  split
  case h_1 => exact concord
  case h_2 restarting _ =>
    have enlists := beginAll_enlists hat restarting (scheduler.hatCandidates hat filter) scheduler
    generalize beginAll hat restarting scheduler (scheduler.hatCandidates hat filter) = result
      at enlists
    obtain ⟨⟨starts, replaced⟩, begun⟩ := result
    obtain ⟨begins, poised⟩ := concord.enlist enlists
    -- Between registering the threads and asking for them, the worker hears of a stop at most.
    obtain ⟨told, still⟩ := begins.tellStopped relays replaced
    dsimp only
    split
    case isTrue => exact told
    case isFalse => exact told.requestStarts relays hat filter.option (still _ poised)

/-- The host stays in concord when a thread is stopped. -/
theorem Concord.stopThread (concord : Concord view scheduler) (id : ThreadId) :
    Concord view (scheduler.stopThread id).2 := by
  cases found : scheduler.threads.find? id with
  | none =>
    rw [Scheduler.stopThread, endThread_missing found]
    exact concord
  | some thread =>
    have silent : ((scheduler.endThread id).2.retire id).bridge = scheduler.bridge := by
      rw [endThread_found found]
      rfl
    rw [stopThread_found found]
    exact ((concord.mind (endRetire_minds scheduler id) silent).tellStopped relays [id]).1

/-- The host stays in concord when everything is stopped. -/
theorem Concord.stopAll (concord : Concord view scheduler) : Concord view scheduler.stopAll := by
  have announced := concord.quiet (Quiet.ofEmit scheduler .projectStopAll)
  have cleared := announced.quiet (Quiet.ofStage _ (.onStopAll _))
  have emptied := (cleared.mind (endEveryThread_minds _) (retireAll_framed _ _).bridge).quiet
    (disposeClones_mild _).toQuiet
  unfold Scheduler.stopAll
  dsimp only
  generalize disposeClones (_ : Scheduler τ α) = left at emptied
  have plain : HostMessage.IsPlain (.stopAll : HostMessage α) := ⟨rfl, rfl⟩
  refine (emptied.tell relays plain).1.quiet ?_
  exact ⟨rfl, rfl, rfl, rfl, rfl, rfl, .refl _, .same rfl rfl,
    fun _ _ known => known⟩

/-- Whatever act a block performs, the host stays in concord. -/
theorem Concord.act (concord : Concord view before) (act : Act before after) :
    Concord view after := by
  cases act with
  | quiet quiet => exact concord.quiet quiet
  | startHats hat filter => exact concord.startHats relays hat filter
  | dismiss target chosen => exact ((concord.retireAll _).tellStopped relays _).1
  | stopThread thread => exact concord.stopThread relays thread
  | stopAll => exact concord.stopAll relays

end Acting

end Scheduler

end SpriteMachine
